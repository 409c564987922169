import FeatureLint.Regex.Parser

namespace FeatureLint.Regex

open Unicode (CodeSet)

abbrev Range := Nat × Nat

/-- Puts a range in front of ascending ones, joining it with those that it touches. -/
def joinRange (r : Range) : List Range → List Range
  | [] => [r]
  | q :: rest => if q.1 ≤ r.2 + 1 then joinRange (r.1, max r.2 q.2) rest else r :: q :: rest

/-- Puts a range in front of the first one that does not start before it. -/
def insertRange (r : Range) : List Range → List Range
  | [] => [r]
  | q :: rest => if q.1 < r.1 then q :: insertRange r rest else r :: q :: rest

/-- The ranges of a set, ascending and apart. -/
def normalRanges (s : CodeSet) : List Range :=
  (s.ranges.foldr insertRange []).foldr joinRange []

/-- Where the code points of a range change the number of their bytes, or where a block of trailing
bytes is not used up; `none` if the range is one sequence of byte ranges. -/
def splitPoint (lo hi : Nat) : Option Nat :=
  let lengths := [0x7F, 0x7FF, 0xD7FF, 0xFFFF].filter fun top => lo ≤ top && top < hi
  let blocks := [0x40, 0x1000, 0x40000].filterMap fun size =>
    if lo / size = hi / size || hi ≤ 0x7F then none
    else if lo % size != 0 then some ((lo / size + 1) * size - 1)
    else if hi % size != size - 1 then some (hi / size * size - 1)
    else none
  (lengths ++ blocks).head?

def utf8Bytes (n : Nat) : List Nat :=
  if n ≤ 0x7F then [n]
  else if n ≤ 0x7FF then [0xC0 + n / 0x40, 0x80 + n % 0x40]
  else if n ≤ 0xFFFF then [0xE0 + n / 0x1000, 0x80 + n / 0x40 % 0x40, 0x80 + n % 0x40]
  else [0xF0 + n / 0x40000, 0x80 + n / 0x1000 % 0x40, 0x80 + n / 0x40 % 0x40, 0x80 + n % 0x40]

/-- A range of code points as sequences of byte ranges. A range is never split more often than the
first argument says. -/
def byteSequences : Nat → Nat → Nat → List (List Range)
  | 0, _, _ => []
  | n + 1, lo, hi =>
    if hi < lo then []
    else if 0xD800 ≤ lo && lo ≤ 0xDFFF then byteSequences n 0xE000 hi
    else
      match splitPoint lo hi with
      | some top => byteSequences n lo top ++ byteSequences n (top + 1) hi
      | none => [(utf8Bytes lo).zip (utf8Bytes hi)]

def sequencesOf (s : CodeSet) : List (List Range) :=
  (normalRanges s).flatMap fun r => byteSequences 40 r.1 r.2

/-- What follows each first range of some sequences; equal first ranges stand together. -/
def followers : List (List Range) → List (Range × List (List Range))
  | [] => []
  | [] :: rest => followers rest
  | (r :: tail) :: rest =>
    match followers rest with
    | (q, tails) :: more =>
      if q = r then (r, tail :: tails) :: more else (r, [tail]) :: (q, tails) :: more
    | [] => [(r, [tail])]

/-- The states that read the rest of some sequences, `n` bytes at most; equal rests share states. -/
def restStates : Nat → List (List (List Range)) → List (List Range) → List (List (List Range))
  | 0, seen, _ => seen
  | n + 1, seen, seqs =>
    if seqs.all List.isEmpty || seen.contains seqs then seen
    else (followers seqs).foldl (fun seen f => restStates n seen f.2) (seqs :: seen)

/-- Bytes of memory, forwards and backwards. -/
structure Size where
  forwards : Nat
  backwards : Nat

def Size.add (a b : Size) : Size := ⟨a.forwards + b.forwards, a.backwards + b.backwards⟩

def Size.times (n : Nat) (a : Size) : Size := ⟨n * a.forwards, n * a.backwards⟩

/-- The same amount in both directions. -/
def Size.both (n : Nat) : Size := ⟨n, n⟩

/-- Bytes of a state, of a reference from one state to another, and of a step over a byte range. -/
def stateSize : Nat := 32
def linkSize : Nat := 4
def stepSize : Nat := 8

/-- A state with two ways on. -/
def forkSize : Size := .both (stateSize + 2 * linkSize)

def setSize (s : CodeSet) : Size :=
  match normalRanges s with
  | [] => .both stateSize
  | [(lo, hi)] =>
    if lo = hi then .both (stateSize * (utf8Bytes lo).length)
    else if hi ≤ 0x7F then .both (2 * stateSize)
    else wide s
  | rs => if s.isAscii then .both (2 * stateSize + stepSize * rs.length) else wide s
where
  wide (s : CodeSet) : Size :=
    let seqs := sequencesOf s
    let states := restStates 4 [] seqs
    let starts := seqs.flatMap fun seq => (List.range seq.length).map fun i => seq.take (i + 1)
    ⟨states.foldl (fun n st => n + stateSize + stepSize * (followers st).length) stateSize,
      stateSize * (2 + starts.eraseDups.length) + linkSize * seqs.length⟩

/-- The expression uses up no character. -/
def weightless : Regex → Bool
  | empty => true
  | look _ => true
  | set _ => false
  | cat r s => weightless r && weightless s
  | alt r s => weightless r && weightless s
  | rep r _ _ => weightless r

/-- `least` and up to `most` copies in a row. What uses up no character is copied once. -/
def repeatSize (r : Regex) (one : Size) (least : Nat) (most : Option Nat) : Size :=
  let cap (n : Nat) := if weightless r then min n 1 else n
  let needed := one.times (cap least)
  match most with
  | none => if cap least = 0 then (one.add forkSize) else needed.add forkSize
  | some most =>
    if cap most = cap least then (if cap most = 0 then .both stateSize else needed)
    else ((needed.add ((one.add forkSize).times (cap most - cap least))).add (.both stateSize))

/-- An estimate of the memory that an expression takes as an automaton over the bytes of UTF-8.
Counted repetitions are written out, so that short patterns can stand for huge automata. An engine
may count otherwise: groups that capture take more, and alternatives may be put together. -/
def size : Regex → Size
  | empty => .both stateSize
  | set s => setSize s
  | look _ => .both stateSize
  | cat r s => r.size.add s.size
  | alt r s => (r.size.add s.size).add (.both (2 * stateSize + 2 * linkSize))
  | rep r least most => repeatSize r r.size least most

/-- Bytes that an automaton may take. -/
def sizeLimit : Nat := 10 * 1024 * 1024

/-- There is room for an expression, as far as can be estimated. -/
def roughlyFits (_pattern : String) (r : Regex) : Bool :=
  r.size.forwards ≤ sizeLimit && r.size.backwards ≤ sizeLimit

/-- The expression of a pattern, unless it is malformed or too large. What is too large is up to the
engine that the pattern is meant for, so `fits` may be any answer to that. -/
def compile? (pattern : String) (fits : String → Regex → Bool := roughlyFits) : Option Regex := do
  let r ← ofPattern? pattern
  if fits pattern r then return r else none

end FeatureLint.Regex
