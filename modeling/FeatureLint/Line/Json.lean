import FeatureLint.Line

namespace FeatureLint

open Json

def KeywordKind.name : KeywordKind → String
  | .scenario => "scenario"
  | .scenarioOutline => "scenarioOutline"
  | .background => "background"

def KeywordKind.ofName? (s : String) : Option KeywordKind :=
  [KeywordKind.scenario, .scenarioOutline, .background].find? (·.name == s)

/-- The kind by its name, or as the one key of an object that holds nothing. -/
def KeywordKind.ofJson? : Value → Option KeywordKind
  | .text s => ofName? s
  | .object [(s, .null)] => ofName? s
  | .object [(s, .object [])] => ofName? s
  | _ => none

def Keyword.ofJson? (v : Value) : Option Keyword :=
  match v.namedFields ["kind", "index"] with
  | some [some kind, some index] => do
    return ⟨← KeywordKind.ofJson? kind, ← index.natural?⟩
  | _ => none

def Tag.ofJson? (v : Value) : Option Tag :=
  match v.namedFields ["text", "index"] with
  | some [some text, some index] => do return ⟨← text.text?, ← index.natural?⟩
  | _ => none

def TagLine.ofJson? (v : Value) : Option TagLine :=
  match v.namedFields ["start", "tags"] with
  | some [some start, some tags] => do
    return ⟨← start.natural?, ← tags.listOf? Tag.ofJson?⟩
  | _ => none

/-- A field that may be left out. -/
def givenOr {α : Type} (absent : α) (decode : Value → Option α) : Option Value → Option α
  | none => some absent
  | some v => decode v

def Header.keywordOfJson? : Value → Option (Option Keyword)
  | .null => some none
  | v => (Keyword.ofJson? v).map some

def Header.ofJson? (v : Value) : Option Header :=
  match v.namedFields ["start", "keyword", "steps", "stepDescriptions", "descriptions"] with
  | some [some start, keyword, steps, stepDescriptions, descriptions] => do
    return ⟨← start.natural?,
      ← givenOr none Header.keywordOfJson? keyword,
      ← givenOr [] (·.listOf? Value.natural?) steps,
      ← givenOr [] (·.listOf? Value.natural?) stepDescriptions,
      ← givenOr [] (·.listOf? Value.natural?) descriptions⟩
  | _ => none

def startOfJson? (v : Value) : Option Nat :=
  match v.namedFields ["start"] with
  | some [some start] => start.natural?
  | _ => none

inductive LineKind where
  | tags
  | stepHeader
  | stepBody
  | rule
  deriving DecidableEq, Repr

def LineKind.name : LineKind → String
  | .tags => "tags"
  | .stepHeader => "stepHeader"
  | .stepBody => "stepBody"
  | .rule => "rule"

def LineKind.ofName? (s : String) : Option LineKind :=
  [LineKind.tags, .stepHeader, .stepBody, .rule].find? (·.name == s)

namespace Line

/-- A line from its kind and the rest of its fields. -/
def ofJson? : LineKind → Value → Option Line
  | .tags, v => (TagLine.ofJson? v).map .tags
  | .stepHeader, v => (Header.ofJson? v).map .header
  | .stepBody, v => (startOfJson? v).map .body
  | .rule, v => (startOfJson? v).map .rule

def readKind (size : Nat) : Reader LineKind := fun cs => do
  let (name, cs) ← Json.text size cs
  match LineKind.ofName? name with
  | some kind => .ok (kind, cs)
  | none => .error .mismatch

/-- The kind, if met so far, and the other fields, backwards. -/
abbrev Draft := Option LineKind × List (String × Value)

def readField (size depth : Nat) (d : Draft) (key : String) : Reader Draft := fun cs =>
  if key = "kind" then
    if d.1.isSome then .error .mismatch
    else do
      let (kind, cs) ← readKind size (← colon cs)
      return ((some kind, d.2), cs)
  else do
    let (v, cs) ← value size depth (← colon cs)
    return ((d.1, (key, v) :: d.2), cs)

/-- The list form: the kind, then the fields in order. -/
def readOrdered (size depth : Nat) : Reader (LineKind × Value) := fun cs => do
  match ← nextItem true cs with
  | (false, _) => .error .mismatch
  | (true, cs) =>
    let (kind, cs) ← readKind size cs
    let (vs, cs) ← items (value size depth) (size + 1) false [] cs
    return ((kind, .list vs), cs)

/-- The kind may stand anywhere in an object, so the other values are read whole and taken apart once
it is known. -/
def readNamed (size depth : Nat) : Reader (LineKind × Value) := fun cs => do
  match ← Json.fields size (readField size depth) (size + 1) true (none, []) cs with
  | ((some kind, fs), cs) => return ((kind, .object fs.reverse), cs)
  | ((none, _), _) => .error .mismatch

def read (size depth : Nat) : Reader Line := fun cs => do
  let ((kind, v), cs) ← match skipBlank cs, depth with
    | '[' :: _, 0 => .error .malformed
    | '\x7b' :: _, 0 => .error .malformed
    | '[' :: cs, depth + 1 => readOrdered size depth cs
    | '\x7b' :: cs, depth + 1 => readNamed size depth cs
    | cs, _ => unexpected size cs
  match ofJson? kind v with
  | some line => .ok (line, cs)
  | none => .error .mismatch

def ofText (s : String) : Except Fault Line := whole read s

end Line

def Tag.toJson (t : Tag) : Value :=
  .object [("text", .text t.text), ("index", .nat t.index)]

def Keyword.toJson (k : Keyword) : Value :=
  .object [("kind", .text k.kind.name), ("index", .nat k.index)]

def placesToJson (places : List Nat) : Value := .list (places.map .nat)

def Line.toJson : Line → Value
  | .tags l =>
    .object [("kind", .text LineKind.tags.name), ("start", .nat l.start),
      ("tags", .list (l.tags.map Tag.toJson))]
  | .header h =>
    .object [("kind", .text LineKind.stepHeader.name), ("start", .nat h.start),
      ("keyword", match h.keyword with | none => .null | some k => k.toJson),
      ("steps", placesToJson h.steps),
      ("stepDescriptions", placesToJson h.stepDescriptions),
      ("descriptions", placesToJson h.descriptions)]
  | .body start =>
    .object [("kind", .text LineKind.stepBody.name), ("start", .nat start)]
  | .rule start =>
    .object [("kind", .text LineKind.rule.name), ("start", .nat start)]

end FeatureLint
