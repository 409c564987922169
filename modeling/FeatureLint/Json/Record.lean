import FeatureLint.Json.Skip

namespace FeatureLint.Json

/-- A field of a record that is being filled. -/
structure Slot (σ : Type) where
  name : String
  /-- The value behind the key, as a change of the record. -/
  read : Reader (σ → σ)
  /-- The field was met before. -/
  stored : σ → Bool

/-- What happens behind a key: a known one may come once, an unknown one is passed over. -/
def namedField {σ : Type} (size : Nat) (known : List (Slot σ)) (state : σ) (key : String) :
    Reader σ := fun cs =>
  match known.find? (·.name == key) with
  | none => do return (state, ← skipValue size (← colon cs))
  | some field =>
    if field.stored state then .error .mismatch
    else do
      let (change, cs) ← field.read (← colon cs)
      return (change state, cs)

/-- The items of a list taken as the fields in order; the last ones may be left out. -/
def orderedFields {σ : Type} : List (Slot σ) → Bool → σ → Reader σ
  | [], _, state, cs => do return (state, ← closeList cs)
  | field :: rest, first, state, cs => do
    match ← nextItem first cs with
    | (false, cs) => return (state, ← closeList cs)
    | (true, cs) =>
      let (change, cs) ← field.read cs
      orderedFields rest false (change state) cs

/-- Fills a record from `start`, then has `finish` judge whether it is complete. The fields may open
`depth - 1` further lists and objects. -/
def record {σ α : Type} (size depth : Nat) (known : Nat → List (Slot σ)) (start : σ)
    (finish : σ → Option α) : Reader α := fun cs => do
  let (state, cs) ← match skipBlank cs, depth with
    | '[' :: _, 0 => .error .malformed
    | '\x7b' :: _, 0 => .error .malformed
    | '[' :: cs, depth + 1 => orderedFields (known depth) true start cs
    | '\x7b' :: cs, depth + 1 =>
      fields size (namedField size (known depth)) (size + 1) true start cs
    | cs, _ => unexpected size cs
  match finish state with
  | some a => .ok (a, cs)
  | none => .error .mismatch

/-- The values of the named fields of a record that was read as a whole value. No field may come
twice, and a list may not be longer than the record. -/
def Value.namedFields (names : List String) : Value → Option (List (Option Value))
  | .object fs =>
    if names.all fun name => (fs.filter (·.1 == name)).length ≤ 1 then
      some (names.map fun name => (fs.find? (·.1 == name)).map (·.2))
    else none
  | .list vs =>
    if vs.length ≤ names.length then
      some (vs.map some ++ List.replicate (names.length - vs.length) none)
    else none
  | _ => none

def Value.natural? : Value → Option Nat
  | .number n => n.natural?
  | _ => none

def Value.text? : Value → Option String
  | .text s => some s
  | _ => none

def Value.listOf? {α : Type} (item : Value → Option α) : Value → Option (List α)
  | .list vs => vs.mapM item
  | _ => none

end FeatureLint.Json
