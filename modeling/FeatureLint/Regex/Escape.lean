import FeatureLint.Regex.Flags

namespace FeatureLint.Regex

open Unicode (CodeSet)

/-- What one escape stands for. -/
inductive Escape where
  | literal (l : Literal)
  | set (s : CodeSet)
  | look (l : Look)

def isSpace (c : Char) : Bool := Unicode.whiteSpace.contains c.toNat

/-- Passes over blanks and comments. The text is its own bound: each turn uses up a character. -/
def skipVerbose : Nat → List Char → List Char
  | 0, cs => cs
  | _ + 1, [] => []
  | n + 1, c :: cs =>
    if isSpace c then skipVerbose n cs
    else if c = '#' then skipVerbose n ((cs.dropWhile (· != '\n')).drop 1)
    else c :: cs

/-- Passes over blanks and comments where the mode asks for it. -/
def skip (f : Flags) (cs : List Char) : List Char :=
  if f.verbose then skipVerbose cs.length cs else cs

/-- A character that has a meaning of its own in patterns. -/
def isMeta (c : Char) : Bool := "\\.+*?()|[]\x7b\x7d^$#&-~".toList.contains c

/-- A character that may stand behind a backslash and mean itself. -/
def isEscapable (c : Char) : Bool :=
  isMeta c || (c.toNat ≤ 0x7F && !c.isAlphanum && c != '<' && c != '>')

def hexDigit? (c : Char) : Option Nat :=
  if c.isDigit then some (c.toNat - 48)
  else if 'a' ≤ c ∧ c ≤ 'f' then some (c.toNat - 87)
  else if 'A' ≤ c ∧ c ≤ 'F' then some (c.toNat - 55)
  else none

/-- The character with a code point, unless there is none. -/
def charOf? (n : Nat) : Option Char := if n.isValidChar then some (Char.ofNat n) else none

/-- Exactly so many hexadecimal digits. -/
def hexDigits (f : Flags) : Nat → Nat → List Char → Option (Nat × List Char)
  | 0, acc, cs => some (acc, cs)
  | _ + 1, _, [] => none
  | n + 1, acc, c :: cs => do hexDigits f n (16 * acc + (← hexDigit? c)) (skip f cs)

/-- Hexadecimal digits up to a closing brace, at least one. -/
def hexBraced (f : Flags) : Nat → Option Nat → List Char → Option (Nat × List Char)
  | 0, _, _ => none
  | _ + 1, _, [] => none
  | n + 1, acc, c :: cs =>
    if c = '\x7d' then acc.map fun v => (v, skip f cs)
    else do hexBraced f n (some (16 * acc.getD 0 + (← hexDigit? c))) (skip f cs)

/-- A character by its code point, of `width` digits or in braces. -/
def hexLiteral (f : Flags) (width : Nat) (cs : List Char) : Option (Literal × List Char) :=
  match skip f cs with
  | [] => none
  | '\x7b' :: cs => do
    let (n, cs) ← hexBraced f (cs.length + 1) none (skip f cs)
    return (⟨← charOf? n, false⟩, cs)
  | cs => do
    let (n, cs) ← hexDigits f width 0 cs
    return (⟨← charOf? n, width = 2⟩, cs)

/-- The text up to a closing brace. -/
def bracedName (f : Flags) : Nat → List Char → List Char → Option (List Char × List Char)
  | 0, _, _ => none
  | _ + 1, _, [] => none
  | n + 1, name, c :: cs =>
    if c = '\x7d' then some (name.reverse, cs) else bracedName f n (c :: name) (skip f cs)

/-- Splits a name at the first place where a mark of one or two characters stands. -/
def splitName (mark : List Char) : List Char → Option (List Char × List Char)
  | [] => none
  | c :: cs =>
    if mark.isPrefixOf (c :: cs) then some ([], (c :: cs).drop mark.length)
    else (splitName mark cs).map fun (a, b) => (c :: a, b)

/-- The set meant by the text in the braces of `\p`. -/
def namedSet? (name : List Char) : Option CodeSet :=
  match (splitName ['!', '='] name).or ((splitName [':'] name).or (splitName ['='] name)) with
  | some (property, value) => Unicode.valued? (String.ofList property) (String.ofList value)
  | none => Unicode.named? (String.ofList name)

/-- The name behind `\p`: one letter, or a text in braces. -/
def propertyName (f : Flags) (cs : List Char) : Option (List Char × List Char) :=
  match skip f cs with
  | [] => none
  | '\\' :: _ => none
  | '\x7b' :: cs => bracedName f (cs.length + 1) [] (skip f cs)
  | c :: cs => some ([c], skip f cs)

/-- What follows `\p` or `\P`. There are no such classes of bytes. -/
def unicodeClass (f : Flags) (negate : Bool) (cs : List Char) : Option (CodeSet × List Char) := do
  let (name, cs) ← propertyName f cs
  let s ← namedSet? name
  if f.unicode then return (← f.finish negate s, cs) else none

def edgeLetter (c : Char) : Bool := c.isAlpha || c = '-'

/-- Letters and hyphens. -/
def edgeName (f : Flags) : Nat → List Char → List Char → List Char × List Char
  | 0, name, cs => (name.reverse, cs)
  | _ + 1, name, [] => (name.reverse, [])
  | n + 1, name, c :: cs =>
    if edgeLetter c then edgeName f n (c :: name) (skip f cs) else (name.reverse, c :: cs)

def wordEdge? (name : List Char) : Option WordEdge :=
  match String.ofList name with
  | "start" => some .start
  | "end" => some .stop
  | "start-half" => some .startHalf
  | "end-half" => some .stopHalf
  | _ => none

/-- What follows `\b`: the name of an edge in braces, unless these are to repeat the boundary. -/
def boundary (f : Flags) : List Char → Option (WordEdge × List Char)
  | '\x7b' :: cs =>
    match skip f cs with
    | [] => none
    | c :: rest =>
      if edgeLetter c then
        match edgeName f (rest.length + 1) [] (c :: rest) with
        | (name, '\x7d' :: rest) => (wordEdge? name).map fun e => (e, rest)
        | _ => none
      else some (.boundary, '\x7b' :: cs)
  | cs => some (.boundary, cs)

/-- What follows a backslash. -/
def escape (f : Flags) : List Char → Option (Escape × List Char)
  | [] => none
  | c :: cs =>
    let plain (c : Char) : Option (Escape × List Char) := some (.literal ⟨c, false⟩, cs)
    let edge (e : WordEdge) : Option (Escape × List Char) := some (.look (.word e f.unicode), cs)
    let hex (width : Nat) := (hexLiteral f width cs).map fun (l, cs) => (Escape.literal l, cs)
    let short (k : Shorthand) (negate : Bool) :=
      (f.shorthand k negate).map fun s => (Escape.set s, cs)
    match c with
    | 'x' => hex 2
    | 'u' => hex 4
    | 'U' => hex 8
    | 'p' => (unicodeClass f false cs).map fun (s, cs) => (.set s, cs)
    | 'P' => (unicodeClass f true cs).map fun (s, cs) => (.set s, cs)
    | 'd' => short .digit false
    | 'D' => short .digit true
    | 's' => short .space false
    | 'S' => short .space true
    | 'w' => short .word false
    | 'W' => short .word true
    | 'a' => plain '\x07'
    | 'f' => plain '\x0c'
    | 't' => plain '\t'
    | 'n' => plain '\n'
    | 'r' => plain '\r'
    | 'v' => plain '\x0b'
    | 'A' => some (.look .textStart, cs)
    | 'z' => some (.look .textStop, cs)
    | 'b' => (boundary f cs).map fun (e, cs) => (.look (.word e f.unicode), cs)
    | 'B' => edge .inside
    | '<' => edge .start
    | '>' => edge .stop
    | c => if isEscapable c then plain c else none

end FeatureLint.Regex
