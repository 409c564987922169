import FeatureLint.Comment
import FeatureLint.Line
import FeatureLint.Token.Stream

namespace FeatureLint

open Comment (Classifier)

structure Rule where
  ignoreTag : String
  classifier : Classifier
  deriving DecidableEq, Repr

namespace Rule

def synopsis : String := "A Scenario is not allowed to start with comments"

def standardIgnoreTag : String := "ignore"

def standard : Rule := ⟨standardIgnoreTag, .standard⟩

/-- What is known of the current group of tags. -/
structure Group where
  tags : List String
  ignored : Bool
  pending : List Token
  deriving DecidableEq, Repr

def Group.empty : Group := ⟨[], false, []⟩

/-- Comments among the hidden tokens of a range that may lack an end. -/
def comments (tokens : Token.Stream) (start : Nat) : Option Nat → List Token
  | none => []
  | some stop => (tokens.hidden start stop).filter fun t => Comment.isComment t.text

def ownComments (tokens : Token.Stream) (l : TagLine) : List Token := comments tokens l.start l.stop

def headerComments (tokens : Token.Stream) (h : Header) : List Token :=
  comments tokens h.start h.cutoff

def endsWithIgnoreTag (r : Rule) (l : TagLine) : Bool :=
  l.tags.getLast?.any fun t => t.name == r.ignoreTag

/-- Comments on tag lines wait for the header that ends their group, since only then all tags of the
group are known. -/
def addTags (r : Rule) (tokens : Token.Stream) (g : Group) (l : TagLine) : Group :=
  let ignored := g.ignored || r.endsWithIgnoreTag l
  ⟨g.tags ++ l.names, ignored, if ignored then g.pending else g.pending ++ ownComments tokens l⟩

/-- A group one of whose tag lines ends with the ignore tag is silent as a whole. -/
def found (r : Rule) (tokens : Token.Stream) (g : Group) (h : Header) : List Violation :=
  if g.ignored then []
  else (g.pending ++ headerComments tokens h).filterMap (r.classifier.classify g.tags)

/-- The group after a line, and the violations found at it. -/
def visit (r : Rule) (tokens : Token.Stream) (g : Group) : Line → Group × List Violation
  | .tags l => (r.addTags tokens g l, [])
  | .header h => (.empty, r.found tokens g h)
  | .body _ => (g, [])
  | .rule _ => (.empty, [])

/-- The violations found at each of the lines. -/
def foundFrom (r : Rule) (tokens : Token.Stream) : Group → List Line → List (List Violation)
  | _, [] => []
  | g, line :: lines =>
    let (next, here) := r.visit tokens g line
    here :: foundFrom r tokens next lines

def foundAt (r : Rule) (tokens : Token.Stream) (lines : List Line) : List (List Violation) :=
  r.foundFrom tokens .empty lines

def check (r : Rule) (tokens : Token.Stream) (lines : List Line) : List Violation :=
  (r.foundAt tokens lines).flatten

end Rule

end FeatureLint
