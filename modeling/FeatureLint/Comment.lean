import FeatureLint.Regex.Size
import FeatureLint.Token

namespace FeatureLint

/-- A finding of a rule, at the place of a token. -/
structure Violation where
  rule : Nat
  line : Nat
  column : Nat
  deriving DecidableEq, Repr

namespace Comment

/-- The white space around comments and tags is that of ASCII. -/
def isSpace (c : Char) : Bool :=
  c = ' ' || c = '\t' || c = '\n' || c = '\x0b' || c = '\x0c' || c = '\r'

def openers : List String := ["#", "\"\"\"", "```"]

def isComment (text : String) : Bool :=
  openers.any fun opener => opener.toList.isPrefixOf (text.toList.dropWhile isSpace)

/-- What follows the given characters in a text that starts with them. -/
def afterStart? : List Char → List Char → Option (List Char)
  | [], cs => some cs
  | _ :: _, [] => none
  | p :: ps, c :: cs => if p = c then afterStart? ps cs else none

def isLineBreak (c : Char) : Bool := c = '\n' || c = '\r'

/-- A comment that names a tag, white space behind it, and the rest of one line. -/
def startsWithTag (comment tag : String) : Bool :=
  match comment.toList.dropWhile isSpace with
  | '#' :: rest =>
    match afterStart? tag.toList (rest.dropWhile isSpace) with
    | some (c :: rest) => isSpace c && !(rest.dropWhile isSpace).any isLineBreak
    | _ => false
  | _ => false

/-- Tells the comments that suppress a finding of another tool from the others. -/
structure Classifier where
  suppression : Regex
  deriving DecidableEq, Repr

/-- A pattern put between the two ends of the text. -/
def anchored (pattern : String) : String := "^(?:" ++ pattern ++ ")$"

def Classifier.ofPattern? (pattern : String)
    (fits : String → Regex → Bool := Regex.roughlyFits) : Option Classifier :=
  (Regex.compile? (anchored pattern) fits).map .mk

def standardSuppression : String := "^\\s*#//TICS.*$"

def Classifier.standard : Classifier :=
  ⟨(Regex.compile? (anchored standardSuppression)).getD .empty⟩

def Classifier.isSuppressed (c : Classifier) (text : String) : Bool := c.suppression.matchesIn text

def ruleId : Nat := 11

/-- A comment is a violation unless it is suppressed or starts with one of the tags. -/
def Classifier.classify (c : Classifier) (tags : List String) (t : Token) : Option Violation :=
  if !isComment t.text || c.isSuppressed t.text then none
  else if tags.any (startsWithTag t.text) then none
  else some ⟨ruleId, t.line, t.column⟩

end Comment

end FeatureLint
