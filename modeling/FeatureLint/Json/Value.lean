namespace FeatureLint.Json

/-- A number by its digits. An empty `fraction` means that no point was written; the flag of
`exponent` tells a negative one. -/
structure Number where
  negative : Bool
  whole : List Char
  fraction : List Char
  exponent : Option (Bool × List Char)
  deriving DecidableEq, Repr

/-- Numbers keep their digits and objects the order and the repetitions of their keys, so that each
reader of a value can judge both by its own rules. -/
inductive Value where
  | null
  | bool (b : Bool)
  | number (n : Number)
  | text (s : String)
  | list (items : List Value)
  | object (fields : List (String × Value))
  deriving Repr, Inhabited

/-- The least number that 64 bits cannot hold. -/
def wordLimit : Nat := 0x10000000000000000

def digitValue (c : Char) : Nat := c.toNat - '0'.toNat

def decimal (digits : List Char) : Nat :=
  digits.foldl (fun n c => 10 * n + digitValue c) 0

def Number.ofNat (n : Nat) : Number := ⟨false, Nat.toDigits 10 n, [], none⟩

/-- The natural number written, if it is written plainly and 64 bits hold it. -/
def Number.natural? (n : Number) : Option Nat :=
  if n.negative || !n.fraction.isEmpty || n.exponent.isSome then none
  else if decimal n.whole < wordLimit then some (decimal n.whole)
  else none

/-- The nearest number of 53 significant bits; of two, the one with an even last bit. -/
def round53 (n : Nat) : Nat :=
  let unit := Nat.pow 2 (n.log2 - 52)
  let q := n / unit
  let r := n % unit
  if 2 * r < unit then q * unit
  else if 2 * r = unit then (q + q % 2) * unit
  else (q + 1) * unit

/-- Appends digits to a significand as long as 64 bits hold it; the digits left over follow. -/
def gather (significand : Nat) : List Char → Nat × List Char
  | [] => (significand, [])
  | c :: cs =>
    let next := 10 * significand + digitValue c
    if next < wordLimit then gather next cs else (significand, c :: cs)

/-- A significand times a power of ten stays below the reals that round to infinity in double
precision, where both factors are rounded first. -/
def belowInfinity (significand power : Nat) : Bool :=
  round53 significand * round53 (Nat.pow 10 power) < Nat.pow 2 1024 - Nat.pow 2 970

/-- A number too large for double precision is refused where it is read. Small ones never are. -/
def Number.finite (n : Number) : Bool :=
  let (whole, dropped) := gather 0 n.whole
  let (significand, lost) := gather whole n.fraction
  let scale : Int := dropped.length - (n.fraction.length - lost.length : Nat)
  let (down, size) := match n.exponent with
    | none => (false, 0)
    | some (down, digits) => (down, decimal digits)
  if significand = 0 then true
  else if 0x80000000 ≤ size then down
  else
    let power : Int := if down then scale - size else scale + size
    if power < 0 then true
    else if 308 < power then false
    else belowInfinity significand power.toNat

end FeatureLint.Json
