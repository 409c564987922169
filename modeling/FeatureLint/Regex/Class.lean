import FeatureLint.Regex.Escape

namespace FeatureLint.Regex

open Unicode (CodeSet)

inductive SetOp where
  | inter
  | diff
  | symmetric
  deriving DecidableEq, Repr

def SetOp.apply : SetOp → CodeSet → CodeSet → CodeSet
  | .inter, s, t => s.inter t
  | .diff, s, t => s.diff t
  | .symmetric, s, t => (s.diff t).union (t.diff s)

/-- A set and how deep the class nests that it stands for. -/
structure Nested where
  set : CodeSet
  height : Nat

/-- A class that is being read: its left operand, and the items united so far. -/
structure OpenClass where
  negate : Bool
  left : Option (SetOp × Nested)
  items : List Nested

/-- The items as one operand. Two and more of them form a level of their own. -/
def OpenClass.operand (c : OpenClass) : Nested :=
  let height := (c.items.map Nested.height).foldl max 0
  ⟨.unions (c.items.map Nested.set), if 2 ≤ c.items.length then height + 1 else height⟩

/-- The left operand joined with the items. Both are closed under the case rule beforehand. -/
def OpenClass.joined (f : Flags) (c : OpenClass) : Nested :=
  let right := c.operand
  match c.left with
  | none => right
  | some (op, left) =>
    ⟨op.apply (f.fold left.set) (f.fold right.set), max left.height right.height + 1⟩

def OpenClass.add (c : OpenClass) (n : Nested) : OpenClass := { c with items := n :: c.items }

def OpenClass.close (f : Flags) (c : OpenClass) : Option Nested := do
  let inner := c.joined f
  return ⟨← f.finish c.negate inner.set, inner.height + 1⟩

/-- Hyphens at the beginning of a class mean themselves. -/
def leadingHyphens (f : Flags) : Nat → OpenClass → List Char → Option (OpenClass × List Char)
  | 0, _, _ => none
  | _ + 1, _, [] => none
  | n + 1, c, d :: cs =>
    if d = '-' then leadingHyphens f n (c.add ⟨.single '-'.toNat, 0⟩) (skip f cs)
    else some (c, d :: cs)

/-- Reads on behind an opening bracket up to the first item. A closing bracket right there means
itself. -/
def openClass (f : Flags) (cs : List Char) : Option (OpenClass × List Char) := do
  let (negate, cs) := match skip f cs with
    | '^' :: cs => (true, skip f cs)
    | cs => (false, cs)
  let (c, cs) ← leadingHyphens f (cs.length + 1) ⟨negate, none, []⟩ cs
  match c.items, cs with
  | [], ']' :: cs =>
    match skip f cs with
    | [] => none
    | cs => some (c.add ⟨.single ']'.toNat, 0⟩, cs)
  | _, cs => some (c, cs)

/-- A class such as `[:^alpha:]`, behind its opening bracket. Anything else is no such class. -/
def asciiClass (f : Flags) (cs : List Char) : Option (Option CodeSet × List Char) :=
  match cs with
  | ':' :: cs =>
    let (negate, cs) := match cs with
      | '^' :: cs => (true, cs)
      | cs => (false, cs)
    match cs.dropWhile (· != ':') with
    | ':' :: ']' :: rest =>
      (asciiClass? (String.ofList (cs.takeWhile (· != ':')))).map fun s => (f.finish negate s, rest)
    | _ => none
  | _ => none

/-- A single character or an escape inside a class. -/
def classItem (f : Flags) : List Char → Option (Escape × List Char)
  | [] => none
  | '\\' :: cs => escape f cs
  | c :: cs => some (.literal ⟨c, false⟩, cs)

def Escape.asItem (f : Flags) : Escape → Option CodeSet
  | .literal l => (f.member l).map .single
  | .set s => some s
  | .look _ => none

/-- The first character behind a hyphen that decides about a range. In verbose mode blanks are
looked through, and one number sign. -/
def behindHyphen (f : Flags) (cs : List Char) : Option Char :=
  if f.verbose then
    let seen := match cs.dropWhile isSpace with
      | '#' :: rest => rest.dropWhile isSpace
      | rest => rest
    seen.head?.or cs.head?
  else cs.head?

/-- One item of a class: a character, a range or an escape. -/
def classRange (f : Flags) (cs : List Char) : Option (CodeSet × List Char) := do
  let (first, cs) ← classItem f cs
  match skip f cs with
  | [] => none
  | '-' :: rest =>
    if behindHyphen f rest = some ']' || behindHyphen f rest = some '-' then
      return (← first.asItem f, '-' :: rest)
    else
      let (last, rest) ← classItem f (skip f rest)
      match first, last with
      | .literal a, .literal b =>
        if a.char ≤ b.char then return (⟨[(← f.member a, ← f.member b)]⟩, rest) else none
      | _, _ => none
  | cs => return (← first.asItem f, cs)

/-- Reads on inside the innermost of several open classes. Items that follow each other are united;
operators bind weaker than that, and to the left. -/
def classLoop (f : Flags) : Nat → OpenClass → List OpenClass → List Char →
    Option (Nested × List Char)
  | 0, _, _, _ => none
  | n + 1, c, outer, cs =>
    let operator (op : SetOp) (cs : List Char) :=
      classLoop f n { c with left := some (op, c.joined f), items := [] } outer cs
    match skip f cs with
    | [] => none
    | '[' :: cs =>
      match asciiClass f cs with
      | some (s, rest) => do classLoop f n (c.add ⟨← s, 0⟩) outer rest
      | none => do
        let (inner, cs) ← openClass f cs
        classLoop f n inner (c :: outer) cs
    | ']' :: cs => do
      let closed ← c.close f
      match outer with
      | [] => return (closed, cs)
      | parent :: outer => classLoop f n (parent.add closed) outer cs
    | '&' :: '&' :: cs => operator .inter cs
    | '-' :: '-' :: cs => operator .diff cs
    | '~' :: '~' :: cs => operator .symmetric cs
    | cs => do
      let (s, cs) ← classRange f cs
      classLoop f n (c.add ⟨s, 0⟩) outer cs

/-- A class behind its opening bracket. -/
def classOf (f : Flags) (cs : List Char) : Option (Nested × List Char) := do
  let (c, rest) ← openClass f cs
  classLoop f (cs.length + 1) c [] rest

end FeatureLint.Regex
