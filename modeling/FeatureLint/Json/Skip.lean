import FeatureLint.Json.Reader

namespace FeatureLint.Json

inductive Bracket where
  | list
  | object
  deriving DecidableEq, Repr

def Bracket.closing : Bracket → Char
  | .list => ']'
  | .object => '\x7d'

/-- What may come next while values are passed over. -/
inductive Awaiting where
  /-- A value. -/
  | value
  /-- The first item behind an opening bracket, or the closing one. -/
  | first
  /-- A comma or a closing bracket behind an item. -/
  | next
  deriving DecidableEq, Repr

/-- Passes over the rest of a text behind its opening quote. -/
def skipText : Nat → List Char → Except Fault (List Char)
  | 0, _ => .error .unfinished
  | _ + 1, [] => .error .unfinished
  | bound + 1, c :: cs =>
    if c = '"' then .ok cs
    else if c = '\\' then
      match cs with
      | [] => .error .unfinished
      | 'u' :: cs => do
        let (_, cs) ← hexFour cs
        skipText bound cs
      | c :: cs =>
        match simpleEscape? c with
        | some _ => skipText bound cs
        | none => .error .malformed
    else if c.toNat < 32 then .error .malformed
    else skipText bound cs

/-- A number that breaks off is malformed here, also at the end of the text. -/
def skipNumber (cs : List Char) : Except Fault (List Char) :=
  match numeral cs with
  | .ok (_, cs) => .ok cs
  | .error _ => .error .malformed

/-- Passes over what stands in front of a value inside an open bracket: a key and a colon in an
object, nothing in a list. -/
def skipKey (size : Nat) : Bracket → List Char → Except Fault (List Char)
  | .list, cs => .ok cs
  | .object, cs =>
    match skipBlank cs with
    | [] => .error .unfinished
    | '"' :: cs => do colon (← skipText (size + 1) cs)
    | _ => .error .malformed

def skipScalar (size : Nat) : List Char → Except Fault (List Char)
  | [] => .error .unfinished
  | 'n' :: cs => word "ull".toList cs
  | 't' :: cs => word "rue".toList cs
  | 'f' :: cs => word "alse".toList cs
  | '"' :: cs => skipText (size + 1) cs
  | c :: cs => if c = '-' || c.isDigit then skipNumber (c :: cs) else .error .malformed

/-- Passes over values until no bracket is open and none is awaited. -/
def skipLoop (size : Nat) : Nat → Awaiting → List Bracket → List Char → Except Fault (List Char)
  | 0, _, _, _ => .error .unfinished
  | bound + 1, .value, opened, cs =>
    match skipBlank cs with
    | '[' :: cs => skipLoop size bound .first (.list :: opened) cs
    | '\x7b' :: cs => skipLoop size bound .first (.object :: opened) cs
    | cs => do skipLoop size bound .next opened (← skipScalar size cs)
  | _ + 1, _, [], cs => .ok cs
  | bound + 1, .first, b :: opened, cs =>
    match skipBlank cs with
    | [] => .error .unfinished
    | c :: r =>
      if c = b.closing then skipLoop size bound .next opened r
      else do skipLoop size bound .value (b :: opened) (← skipKey size b (c :: r))
  | bound + 1, .next, b :: opened, cs =>
    match skipBlank cs with
    | [] => .error .unfinished
    | c :: r =>
      if c = b.closing then skipLoop size bound .next opened r
      else if c = ',' then do skipLoop size bound .value (b :: opened) (← skipKey size b r)
      else .error .malformed

/-- Passes over a value whose field nobody knows. Its form is checked, its meaning is not: numbers may
have any size, escapes may leave surrogates alone, and brackets may be nested to any depth, so that
the open ones are kept in a list. -/
def skipValue (size : Nat) (cs : List Char) : Except Fault (List Char) :=
  skipLoop size (2 * size + 2) .value [] cs

end FeatureLint.Json
