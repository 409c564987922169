namespace FeatureLint.Unicode

/-- The code points in any of the ranges, both ends included. -/
structure CodeSet where
  ranges : List (Nat × Nat)
  deriving DecidableEq, Repr

namespace CodeSet

def contains (s : CodeSet) (n : Nat) : Bool :=
  s.ranges.any fun r => r.1 ≤ n && n ≤ r.2

def empty : CodeSet := ⟨[]⟩

/-- Every code point but the surrogates, which no text holds. -/
def all : CodeSet := ⟨[(0, 0xD7FF), (0xE000, 0x10FFFF)]⟩

def ascii : CodeSet := ⟨[(0, 0x7F)]⟩

def single (n : Nat) : CodeSet := ⟨[(n, n)]⟩

def union (s t : CodeSet) : CodeSet := ⟨s.ranges ++ t.ranges⟩

/-- What two ranges share. -/
def overlap (r q : Nat × Nat) : List (Nat × Nat) :=
  if max r.1 q.1 ≤ min r.2 q.2 then [(max r.1 q.1, min r.2 q.2)] else []

def inter (s t : CodeSet) : CodeSet :=
  ⟨s.ranges.flatMap fun r => t.ranges.flatMap (overlap r)⟩

/-- What a range leaves of another one. -/
def outside (r q : Nat × Nat) : List (Nat × Nat) :=
  if r.2 < q.1 ∨ q.2 < r.1 then [q]
  else
    (if q.1 < r.1 then [(q.1, r.1 - 1)] else []) ++ (if r.2 < q.2 then [(r.2 + 1, q.2)] else [])

def diff (s t : CodeSet) : CodeSet :=
  ⟨t.ranges.foldl (fun left r => left.flatMap (outside r)) s.ranges⟩

def compl (s : CodeSet) : CodeSet := all.diff s

def isAscii (s : CodeSet) : Bool := s.ranges.all (·.2 ≤ 0x7F)

def unions (sets : List CodeSet) : CodeSet := ⟨sets.flatMap ranges⟩

end CodeSet

/-- A run of code points in a table: from the first to the last in steps. -/
structure Run where
  first : Nat
  last : Nat
  step : Nat
  /-- How far away the partners of the run are, in tables that pair code points. -/
  distance : Nat
  deriving Repr

def hexValue (c : Char) : Nat :=
  if c.isDigit then c.toNat - 48 else c.toNat - 55

def hexNumber (cs : List Char) : Nat := cs.foldl (fun n c => 16 * n + hexValue c) 0

/-- Splits at the first `mark`; the second part is missing if there is none. -/
def cutAt (mark : Char) (cs : List Char) : List Char × Option (List Char) :=
  (cs.takeWhile (· != mark),
    match cs.dropWhile (· != mark) with
    | [] => none
    | _ :: rest => some rest)

/-- Reads `41`, `41-5A` or `100-12E/2`, each followed by `+20` or nothing. -/
def Run.ofChars (cs : List Char) : Run :=
  let (cs, distance) := cutAt '+' cs
  let (cs, step) := cutAt '/' cs
  let (first, last) := cutAt '-' cs
  ⟨hexNumber first, hexNumber (last.getD first), (step.map hexNumber).getD 1,
    (distance.map hexNumber).getD 0⟩

def isBlank (c : Char) : Bool := c = ' ' || c = '\n'

/-- Adds a word, which is given backwards, unless it is empty. -/
def addWord (word : List Char) (done : List (List Char)) : List (List Char) :=
  if word.isEmpty then done else word.reverse :: done

def wordsLoop : List Char → List Char → List (List Char) → List (List Char)
  | [], word, done => (addWord word done).reverse
  | c :: cs, word, done =>
    if isBlank c then wordsLoop cs [] (addWord word done) else wordsLoop cs (c :: word) done

/-- The words between blanks and ends of lines. -/
def wordsOf (s : String) : List (List Char) := wordsLoop s.toList [] []

def runsOf (table : String) : List Run := (wordsOf table).map Run.ofChars

/-- The code points of a run, one by one. -/
def Run.members (r : Run) : List Nat :=
  (List.range ((r.last - r.first) / r.step + 1)).map (r.first + r.step * ·)

def Run.ranges (r : Run) : List (Nat × Nat) :=
  if r.step = 1 then [(r.first, r.last)] else r.members.map fun n => (n, n)

def CodeSet.ofTable (table : String) : CodeSet := ⟨(runsOf table).flatMap Run.ranges⟩

end FeatureLint.Unicode
