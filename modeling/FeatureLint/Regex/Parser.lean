import FeatureLint.Regex.Class

namespace FeatureLint.Regex

open Unicode (CodeSet)

/-- A piece of a pattern with the depth of its nesting. A change of modes is a piece that nothing
can repeat. -/
inductive Piece where
  | modes
  | expr (r : Regex) (height : Nat)

def Piece.height : Piece → Nat
  | .modes => 0
  | .expr _ height => height

def Piece.regex : Piece → Regex
  | .modes => .empty
  | .expr r _ => r

/-- Pieces in a row, given backwards. -/
def sequence (pieces : List Piece) : Piece :=
  match pieces with
  | [] => .expr .empty 0
  | [piece] => .expr piece.regex piece.height
  | last :: rest =>
    .expr (rest.foldl (fun r p => .cat p.regex r) last.regex)
      ((pieces.map Piece.height).foldl max 0 + 1)

/-- Alternatives, given backwards. -/
def choice (branches : List Piece) : Piece :=
  match branches with
  | [] => .expr .empty 0
  | [piece] => piece
  | last :: rest =>
    .expr (rest.foldl (fun r p => .alt p.regex r) last.regex)
      ((branches.map Piece.height).foldl max 0 + 1)

/-- A group that is being read: its modes, the alternatives so far and the pieces of the current
one, both backwards. -/
structure OpenGroup where
  flags : Flags
  branches : List Piece
  pieces : List Piece

def OpenGroup.fresh (f : Flags) : OpenGroup := ⟨f, [], []⟩

def OpenGroup.add (g : OpenGroup) (p : Piece) : OpenGroup := { g with pieces := p :: g.pieces }

def OpenGroup.content (g : OpenGroup) : Piece := choice (sequence g.pieces :: g.branches)

/-- Repeats the last piece. -/
def OpenGroup.repeatLast (g : OpenGroup) (least : Nat) (most : Option Nat) : Option OpenGroup :=
  match g.pieces with
  | .expr r height :: rest =>
    some { g with pieces := .expr (.rep r least most) (height + 1) :: rest }
  | _ => none

/-- Passes over the sign that makes a repetition take little. It changes which part of a text
matches, not whether one does. -/
def lazySign : List Char → List Char
  | '?' :: cs => cs
  | cs => cs

/-- A count, which 32 bits must hold; blanks may surround it. -/
def count (f : Flags) : Nat → Option Nat → List Char → Option (Nat × List Char)
  | 0, _, _ => none
  | _ + 1, acc, [] => finish acc []
  | n + 1, acc, c :: cs =>
    if c.isDigit then count f n (some (10 * acc.getD 0 + (c.toNat - 48))) (skip f cs)
    else finish acc (c :: cs)
where
  finish (acc : Option Nat) (cs : List Char) : Option (Nat × List Char) := do
    let n ← acc
    if n < 0x100000000 then return (n, cs.dropWhile isSpace) else none

def countAt (f : Flags) (cs : List Char) : Option (Nat × List Char) :=
  count f (cs.length + 1) none (cs.dropWhile isSpace)

/-- The upper bound of a repetition that must happen `least` times. -/
def upperBound (f : Flags) (least : Nat) : List Char → Option (Option Nat × List Char)
  | ',' :: cs =>
    match skip f cs with
    | '\x7d' :: cs => some (none, '\x7d' :: cs)
    | cs => (countAt f cs).map fun (most, cs) => (some most, cs)
  | cs => some (some least, cs)

/-- The bounds of a repetition behind an opening brace. -/
def repetition (f : Flags) (cs : List Char) : Option ((Nat × Option Nat) × List Char) := do
  let (least, cs) ← countAt f (skip f cs)
  let (most, cs) ← upperBound f least cs
  match cs with
  | '\x7d' :: cs =>
    if most.all (least ≤ ·) then return ((least, most), lazySign (skip f cs)) else none
  | _ => none

/-- The modes in front of a colon or a closing parenthesis; each may be named once. -/
def modes : Bool → List Char → Flags → List Char → Option (Flags × Char × List Char)
  | _, _, _, [] => none
  | negative, seen, f, c :: cs =>
    if c = ':' || c = ')' then
      if seen.head? = some '-' then none else some (f, c, cs)
    else if seen.contains c then none
    else if c = '-' then modes true (c :: seen) f cs
    else do
      let on := !negative
      let f ← match c with
        | 'i' => some { f with ignoreCase := on }
        | 'm' => some { f with multiLine := on }
        | 's' => some { f with dotAll := on }
        | 'U' => some f
        | 'u' => some { f with unicode := on }
        | 'R' => some { f with crlf := on }
        | 'x' => some { f with verbose := on }
        | _ => none
      modes negative (c :: seen) f cs

def isNameChar (first : Bool) (c : Char) : Bool :=
  c = '_' || Unicode.alphabetic.contains c.toNat
    || (!first && (c = '.' || c = '[' || c = ']'
      || (Unicode.categories ["nd", "nl", "no"]).contains c.toNat))

/-- The name of a group up to its closing angle. -/
def groupName (cs : List Char) : Option (String × List Char) :=
  let name := cs.takeWhile (· != '>')
  match name, cs.dropWhile (· != '>') with
  | c :: rest, '>' :: cs =>
    if isNameChar true c && rest.all (isNameChar false) then
      some (String.ofList name, cs)
    else none
  | _, _ => none

/-- How a group begins. -/
inductive Opening where
  | modes (f : Flags)
  | group (f : Flags) (name : Option String)

/-- What follows an opening parenthesis. Conditions on what surrounds a match are not known. -/
def opening (f : Flags) (cs : List Char) : Option (Opening × List Char) :=
  match skip f cs with
  | '?' :: '=' :: _ => none
  | '?' :: '!' :: _ => none
  | '?' :: '<' :: '=' :: _ => none
  | '?' :: '<' :: '!' :: _ => none
  | '?' :: 'P' :: '<' :: cs => do
    let (name, cs) ← groupName cs
    return (.group f (some name), cs)
  | '?' :: '<' :: cs => do
    let (name, cs) ← groupName cs
    return (.group f (some name), cs)
  | '?' :: ')' :: _ => none
  | '?' :: cs => do
    let (g, stop, cs) ← modes false [] f cs
    return (if stop = ')' then .modes g else .group g none, cs)
  | cs => some (.group f none, cs)

/-- A character, an escape or a dot outside of classes. -/
def primitive (f : Flags) : List Char → Option (Regex × List Char)
  | [] => none
  | '\\' :: cs => do
    match ← escape f cs with
    | (.literal l, cs) => return (← f.literal l, cs)
    | (.set s, cs) => return (.set s, cs)
    | (.look l, cs) => return (.look l, cs)
  | '.' :: cs => do return (← f.dot, cs)
  | '^' :: cs => some (.look f.lineStart, cs)
  | '$' :: cs => some (.look f.lineStop, cs)
  | c :: cs => do return (← f.literal ⟨c, false⟩, cs)

/-- Reads on inside the innermost of several open groups; `names` are those given to groups. -/
def groupLoop : Nat → OpenGroup → List OpenGroup → List String → List Char → Option Piece
  | 0, _, _, _, _ => none
  | n + 1, g, outer, names, cs =>
    let again (g : OpenGroup) (cs : List Char) := groupLoop n g outer names cs
    match skip g.flags cs with
    | [] => if outer.isEmpty then some g.content else none
    | '(' :: cs => do
      match ← opening g.flags cs with
      | (.modes f, cs) => again { g.add .modes with flags := f } cs
      | (.group f none, cs) => groupLoop n (.fresh f) (g :: outer) names cs
      | (.group f (some name), cs) =>
        if names.contains name then none
        else groupLoop n (.fresh f) (g :: outer) (name :: names) cs
    | ')' :: cs =>
      match outer with
      | [] => none
      | parent :: outer =>
        let inner := g.content
        groupLoop n (parent.add (.expr inner.regex (inner.height + 1))) outer names cs
    | '|' :: cs => again { g with branches := sequence g.pieces :: g.branches, pieces := [] } cs
    | '[' :: cs => do
      let (c, cs) ← classOf g.flags cs
      again (g.add (.expr (.set c.set) c.height)) cs
    | '?' :: cs => do again (← g.repeatLast 0 (some 1)) (lazySign cs)
    | '*' :: cs => do again (← g.repeatLast 0 none) (lazySign cs)
    | '+' :: cs => do again (← g.repeatLast 1 none) (lazySign cs)
    | '\x7b' :: cs => do
      let ((least, most), cs) ← repetition g.flags cs
      again (← g.repeatLast least most) cs
    | cs => do
      let (r, cs) ← primitive g.flags cs
      again (g.add (.expr r 0)) cs

/-- How deep groups, repetitions, classes and the like may be nested. -/
def heightLimit : Nat := 250

/-- The expression of a pattern, whatever its size. -/
def ofPattern? (pattern : String) : Option Regex := do
  let cs := pattern.toList
  let piece ← groupLoop (cs.length + 1) (.fresh {}) [] [] cs
  if piece.height ≤ heightLimit then return piece.regex else none

end FeatureLint.Regex
