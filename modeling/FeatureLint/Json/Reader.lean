import FeatureLint.Json.Value

namespace FeatureLint.Json

inductive Fault where
  /-- From here on the text is not JSON. -/
  | malformed
  /-- The text ends inside a value. -/
  | unfinished
  /-- JSON so far, but not of the shape asked for. -/
  | mismatch
  deriving DecidableEq, Repr

/-- A reader gives what it read and the characters left, or the first fault met from left to right. A
value of a wrong shape is a fault where it starts, before anything that follows it is looked at.
Loops of readers take the length of the whole text as a bound: every turn uses up a character. -/
abbrev Reader (α : Type) := List Char → Except Fault (α × List Char)

def isBlank (c : Char) : Bool := c == ' ' || c == '\t' || c == '\n' || c == '\r'

def skipBlank (cs : List Char) : List Char := cs.dropWhile isBlank

/-- Takes the characters of a word off the text. -/
def word : List Char → List Char → Except Fault (List Char)
  | [], cs => .ok cs
  | _ :: _, [] => .error .unfinished
  | w :: ws, c :: cs => if c = w then word ws cs else .error .malformed

/-- One digit or more. -/
def digits (cs : List Char) : Except Fault (List Char × List Char) :=
  match cs with
  | [] => .error .unfinished
  | c :: _ =>
    if c.isDigit then .ok (cs.takeWhile Char.isDigit, cs.dropWhile Char.isDigit)
    else .error .malformed

/-- The digits before the point. A zero stands alone. -/
def wholePart (cs : List Char) : Except Fault (List Char × List Char) := do
  let (ds, rest) ← digits cs
  match ds with
  | '0' :: _ :: _ => .error .malformed
  | _ => .ok (ds, rest)

def fractionPart : Reader (List Char)
  | '.' :: cs => digits cs
  | cs => .ok ([], cs)

/-- Takes a sign off the text; the flag tells a minus. -/
def exponentSign : List Char → Bool × List Char
  | '+' :: cs => (false, cs)
  | '-' :: cs => (true, cs)
  | cs => (false, cs)

def exponentPart : Reader (Option (Bool × List Char))
  | c :: cs =>
    if c = 'e' || c = 'E' then do
      let (down, cs) := exponentSign cs
      let (ds, cs) ← digits cs
      .ok (some (down, ds), cs)
    else .ok (none, c :: cs)
  | [] => .ok (none, [])

/-- A number of any size. -/
def numeral (cs : List Char) : Except Fault (Number × List Char) := do
  let (negative, cs) := match cs with
    | '-' :: r => (true, r)
    | _ => (false, cs)
  let (whole, cs) ← wholePart cs
  let (fraction, cs) ← fractionPart cs
  let (exponent, cs) ← exponentPart cs
  .ok (⟨negative, whole, fraction, exponent⟩, cs)

def number (cs : List Char) : Except Fault (Number × List Char) := do
  let (n, cs) ← numeral cs
  if n.finite then .ok (n, cs) else .error .malformed

def hexValue? (c : Char) : Option Nat :=
  if c.isDigit then some (c.toNat - 48)
  else if 'a' ≤ c ∧ c ≤ 'f' then some (c.toNat - 87)
  else if 'A' ≤ c ∧ c ≤ 'F' then some (c.toNat - 55)
  else none

/-- Four hexadecimal digits. The text has ended early only if fewer than four bytes are left. -/
def hexFour (cs : List Char) : Except Fault (Nat × List Char) :=
  if (String.ofList (cs.take 4)).utf8ByteSize < 4 then .error .unfinished
  else
    match (cs.take 4).mapM hexValue? with
    | some [a, b, c, d] => .ok (((a * 16 + b) * 16 + c) * 16 + d, cs.drop 4)
    | _ => .error .malformed

def isLeading (n : Nat) : Bool := 0xD800 ≤ n && n ≤ 0xDBFF
def isTrailing (n : Nat) : Bool := 0xDC00 ≤ n && n ≤ 0xDFFF

/-- The unit that has to follow a leading surrogate, with its own escape in front. -/
def secondUnit (cs : List Char) : Except Fault (Nat × List Char) := do
  let cs ← word ['\\', 'u'] cs
  let (n, cs) ← hexFour cs
  if isTrailing n then .ok (n, cs) else .error .malformed

/-- The character meant by the UTF-16 units of an escape. -/
def unitEscape (cs : List Char) : Except Fault (Char × List Char) := do
  let (n, cs) ← hexFour cs
  if isTrailing n then .error .malformed
  else if isLeading n then
    let (m, cs) ← secondUnit cs
    .ok (Char.ofNat (0x10000 + (n - 0xD800) * 0x400 + (m - 0xDC00)), cs)
  else .ok (Char.ofNat n, cs)

def simpleEscape? : Char → Option Char
  | '"' => some '"'
  | '\\' => some '\\'
  | '/' => some '/'
  | 'b' => some '\x08'
  | 'f' => some '\x0c'
  | 'n' => some '\n'
  | 'r' => some '\r'
  | 't' => some '\t'
  | _ => none

/-- What follows a backslash. -/
def escape : Reader Char
  | [] => .error .unfinished
  | 'u' :: cs => unitEscape cs
  | c :: cs =>
    match simpleEscape? c with
    | some meant => .ok (meant, cs)
    | none => .error .malformed

/-- Reads on behind an opening quote; `done` is what was read so far, backwards. -/
def textBody : Nat → List Char → Reader String
  | 0, _, _ => .error .unfinished
  | _ + 1, _, [] => .error .unfinished
  | bound + 1, done, c :: cs =>
    if c = '"' then .ok (String.ofList done.reverse, cs)
    else if c = '\\' then do
      let (meant, cs) ← escape cs
      textBody bound (meant :: done) cs
    else if c.toNat < 32 then .error .malformed
    else textBody bound (c :: done) cs

/-- A value that holds no other values. -/
def scalar (size : Nat) : Reader Value
  | [] => .error .unfinished
  | 'n' :: cs => do return (.null, ← word "ull".toList cs)
  | 't' :: cs => do return (.bool true, ← word "rue".toList cs)
  | 'f' :: cs => do return (.bool false, ← word "alse".toList cs)
  | '"' :: cs => do
    let (s, cs) ← textBody (size + 1) [] cs
    return (.text s, cs)
  | c :: cs =>
    if c = '-' || c.isDigit then do
      let (n, cs) ← number (c :: cs)
      return (.number n, cs)
    else .error .malformed

/-- The fault for a value nobody asked for: a list or an object is one where it opens, anything
else must itself be well formed. -/
def unexpected {α : Type} (size : Nat) (cs : List Char) : Except Fault α :=
  match cs with
  | '[' :: _ => .error .mismatch
  | '\x7b' :: _ => .error .mismatch
  | _ =>
    match scalar size cs with
    | .error fault => .error fault
    | .ok _ => .error .mismatch

/-- Looks for a further item of a list: what is left starts with it, or with the closing bracket. -/
def nextItem (first : Bool) (cs : List Char) : Except Fault (Bool × List Char) :=
  match skipBlank cs with
  | [] => .error .unfinished
  | ']' :: r => .ok (false, ']' :: r)
  | c :: r =>
    if first then .ok (true, c :: r)
    else if c = ',' then
      match skipBlank r with
      | [] => .error .unfinished
      | ']' :: _ => .error .malformed
      | r => .ok (true, r)
    else .error .malformed

/-- Closes a list whose items were all read. -/
def closeList (cs : List Char) : Except Fault (List Char) :=
  match skipBlank cs with
  | [] => .error .unfinished
  | ']' :: r => .ok r
  | _ => .error .malformed

/-- Items up to the closing bracket and over it; `done` is what was read so far, backwards. -/
def items {α : Type} (item : Reader α) : Nat → Bool → List α → Reader (List α)
  | 0, _, _, _ => .error .unfinished
  | bound + 1, first, done, cs => do
    match ← nextItem first cs with
    | (false, cs) => .ok (done.reverse, ← closeList cs)
    | (true, cs) =>
      let (a, cs) ← item cs
      items item bound false (a :: done) cs

/-- Looks for a further key of an object, `none` at the closing brace. -/
def nextKey (size : Nat) (first : Bool) (cs : List Char) :
    Except Fault (Option String × List Char) :=
  match skipBlank cs with
  | [] => .error .unfinished
  | '\x7d' :: r => .ok (none, r)
  | c :: r =>
    if first then key (c :: r)
    else if c = ',' then
      match skipBlank r with
      | [] => .error .unfinished
      | r => key r
    else .error .malformed
where
  key : List Char → Except Fault (Option String × List Char)
    | '"' :: cs => do
      let (s, cs) ← textBody (size + 1) [] cs
      .ok (some s, cs)
    | _ => .error .malformed

def colon (cs : List Char) : Except Fault (List Char) :=
  match skipBlank cs with
  | [] => .error .unfinished
  | ':' :: r => .ok r
  | _ => .error .malformed

/-- Fields up to the closing brace and over it. `field` is called right behind each key. -/
def fields {σ : Type} (size : Nat) (field : σ → String → Reader σ) : Nat → Bool → σ → Reader σ
  | 0, _, _, _ => .error .unfinished
  | bound + 1, first, state, cs => do
    match ← nextKey size first cs with
    | (none, cs) => .ok (state, cs)
    | (some key, cs) =>
      let (state, cs) ← field state key cs
      fields size field bound false state cs

/-- A whole value with at most `depth` lists and objects open at once. -/
def value (size : Nat) : Nat → Reader Value
  | 0, cs =>
    match skipBlank cs with
    | '[' :: _ => .error .malformed
    | '\x7b' :: _ => .error .malformed
    | cs => scalar size cs
  | depth + 1, cs =>
    match skipBlank cs with
    | '[' :: cs => do
      let (vs, cs) ← items (value size depth) (size + 1) true [] cs
      .ok (.list vs, cs)
    | '\x7b' :: cs => do
      let (fs, cs) ← fields size
        (fun done key cs => do
          let (v, cs) ← value size depth (← colon cs)
          .ok ((key, v) :: done, cs))
        (size + 1) true [] cs
      .ok (.object fs.reverse, cs)
    | cs => scalar size cs

def natural (size : Nat) (cs : List Char) : Except Fault (Nat × List Char) :=
  match skipBlank cs with
  | [] => .error .unfinished
  | c :: r =>
    if c = '-' || c.isDigit then do
      let (n, cs) ← number (c :: r)
      match n.natural? with
      | some n => .ok (n, cs)
      | none => .error .mismatch
    else unexpected size (c :: r)

def boolean (size : Nat) (cs : List Char) : Except Fault (Bool × List Char) :=
  match skipBlank cs with
  | 't' :: cs => do return (true, ← word "rue".toList cs)
  | 'f' :: cs => do return (false, ← word "alse".toList cs)
  | cs => unexpected size cs

def text (size : Nat) (cs : List Char) : Except Fault (String × List Char) :=
  match skipBlank cs with
  | '"' :: cs => textBody (size + 1) [] cs
  | cs => unexpected size cs

/-- Nothing, written `null`, or a value. -/
def optional {α : Type} (item : Reader α) (cs : List Char) : Except Fault (Option α × List Char) :=
  match skipBlank cs with
  | 'n' :: cs => do return (none, ← word "ull".toList cs)
  | cs => do
    let (a, cs) ← item cs
    .ok (some a, cs)

/-- A list whose items may open `depth - 1` further lists and objects. -/
def listOf {α : Type} (size depth : Nat) (item : Nat → Reader α) (cs : List Char) :
    Except Fault (List α × List Char) :=
  match skipBlank cs, depth with
  | '[' :: _, 0 => .error .malformed
  | '[' :: cs, depth + 1 => items (item depth) (size + 1) true [] cs
  | cs, _ => unexpected size cs

/-- Lists and objects that may be open at once in a text. -/
def depthLimit : Nat := 127

/-- Reads a text that holds one value and blanks around it. -/
def whole {α : Type} (read : (size depth : Nat) → Reader α) (s : String) : Except Fault α := do
  let cs := s.toList
  let (a, rest) ← read cs.length depthLimit cs
  if (skipBlank rest).isEmpty then .ok a else .error .malformed

end FeatureLint.Json
