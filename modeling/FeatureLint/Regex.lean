import FeatureLint.Unicode.Property

namespace FeatureLint

open Unicode (CodeSet)

namespace Regex

/-- Conditions on the characters around a place, where line breaks and words are concerned. -/
inductive WordEdge where
  | boundary
  | inside
  | start
  | stop
  | startHalf
  | stopHalf
  deriving DecidableEq, Repr

/-- Conditions on a place that use up no character. With `crlf`, a carriage return ends a line too,
and together with a line feed only once; with `unicode`, words may hold any letters. -/
inductive Look where
  | textStart
  | textStop
  | lineStart (crlf : Bool)
  | lineStop (crlf : Bool)
  | word (edge : WordEdge) (unicode : Bool)
  deriving DecidableEq, Repr

/-- The characters before and behind a place. -/
abbrev Spot := Option Char × Option Char

def isAsciiWord (c : Char) : Bool := c.isAlphanum || c = '_'

def inWord (unicode : Bool) : Option Char → Bool
  | none => false
  | some c => if unicode then Unicode.wordCharacters.contains c.toNat else isAsciiWord c

def WordEdge.holds : WordEdge → (before behind : Bool) → Bool
  | .boundary, b, a => b != a
  | .inside, b, a => b == a
  | .start, b, a => !b && a
  | .stop, b, a => b && !a
  | .startHalf, b, _ => !b
  | .stopHalf, _, a => !a

def Look.holds : Look → Spot → Bool
  | .textStart, (before, _) => before.isNone
  | .textStop, (_, behind) => behind.isNone
  | .lineStart false, (before, _) => before.isNone || before == some '\n'
  | .lineStop false, (_, behind) => behind.isNone || behind == some '\n'
  | .lineStart true, (before, behind) =>
    before.isNone || before == some '\n' || (before == some '\r' && behind != some '\n')
  | .lineStop true, (before, behind) =>
    behind.isNone || behind == some '\r' || (behind == some '\n' && before != some '\r')
  | .word edge unicode, (before, behind) =>
    edge.holds (inWord unicode before) (inWord unicode behind)

end Regex

inductive Regex where
  | empty
  | set (s : CodeSet)
  | look (l : Regex.Look)
  | cat (r s : Regex)
  | alt (r s : Regex)
  | rep (r : Regex) (least : Nat) (most : Option Nat)
  deriving DecidableEq, Repr

namespace Regex

/-- A mark for every place of a text. -/
abbrev Marks := List Bool

/-- The surroundings of all places of a text, in order. -/
def spotsFrom : Option Char → List Char → List Spot
  | before, [] => [(before, none)]
  | before, c :: cs => (before, some c) :: spotsFrom (some c) cs

def spots (cs : List Char) : List Spot := spotsFrom none cs

/-- From marked places over one character of the set. -/
def pass (s : CodeSet) (cs : List Char) (m : Marks) : Marks :=
  false :: List.zipWith (fun c b => b && s.contains c.toNat) cs m

def keep (l : Look) (cs : List Char) (m : Marks) : Marks :=
  List.zipWith (fun spot b => b && l.holds spot) (spots cs) m

def either (m n : Marks) : Marks := List.zipWith (· || ·) m n

/-- A step taken `n` times, or until it changes nothing. -/
def iterate (step : Marks → Marks) : Nat → Marks → Marks
  | 0, m => m
  | n + 1, m => if step m = m then m else iterate step n (step m)

/-- Where an expression may stop that starts at the marked places of a text. All starts are followed
at once, so that matching never goes back. -/
def run (cs : List Char) : Regex → Marks → Marks
  | empty, m => m
  | set s, m => pass s cs m
  | look l, m => keep l cs m
  | cat r s, m => run cs s (run cs r m)
  | alt r s, m => either (run cs r m) (run cs s m)
  | rep r least most, m =>
    let m := iterate (run cs r) least m
    -- More rounds than there are places lead nowhere new.
    let extra := match most with
      | none => cs.length + 1
      | some most => most - least
    iterate (fun m => either m (run cs r m)) extra m

/-- Some part of the text matches. -/
def matchesIn (r : Regex) (s : String) : Bool :=
  let cs := s.toList
  (run cs r (List.replicate (cs.length + 1) true)).any id

/-- The text matches from its first to its last character. -/
def matchesWhole (r : Regex) (s : String) : Bool :=
  let cs := s.toList
  (run cs r (true :: List.replicate cs.length false)).getLast? == some true

end Regex

end FeatureLint
