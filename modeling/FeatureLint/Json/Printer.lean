import FeatureLint.Json.Value

namespace FeatureLint.Json

def hexDigit (n : Nat) : Char := (Nat.digitChar n)

def escapeChar (c : Char) : List Char :=
  if c = '"' then ['\\', '"']
  else if c = '\\' then ['\\', '\\']
  else if c = '\n' then ['\\', 'n']
  else if c = '\r' then ['\\', 'r']
  else if c = '\t' then ['\\', 't']
  else if c = '\x08' then ['\\', 'b']
  else if c = '\x0c' then ['\\', 'f']
  else if c.toNat < 32 then
    ['\\', 'u', '0', '0', hexDigit (c.toNat / 16), hexDigit (c.toNat % 16)]
  else [c]

def quoted (s : String) : List Char :=
  '"' :: s.toList.flatMap escapeChar ++ ['"']

def Number.chars (n : Number) : List Char :=
  (if n.negative then ['-'] else [])
    ++ n.whole
    ++ (if n.fraction.isEmpty then [] else '.' :: n.fraction)
    ++ (match n.exponent with
        | none => []
        | some (down, digits) => 'e' :: (if down then ['-'] else []) ++ digits)

/-- Pieces with a comma between each two. -/
def separated : List (List Char) → List Char
  | [] => []
  | [piece] => piece
  | piece :: rest => piece ++ ',' :: separated rest

mutual

def Value.chars : Value → List Char
  | .null => "null".toList
  | .bool true => "true".toList
  | .bool false => "false".toList
  | .number n => n.chars
  | .text s => quoted s
  | .list items => '[' :: separated (charsOfItems items) ++ [']']
  | .object fields => '\x7b' :: separated (charsOfFields fields) ++ ['\x7d']

def charsOfItems : List Value → List (List Char)
  | [] => []
  | v :: vs => v.chars :: charsOfItems vs

def charsOfFields : List (String × Value) → List (List Char)
  | [] => []
  | (key, v) :: rest => (quoted key ++ ':' :: v.chars) :: charsOfFields rest

end

def Value.compact (v : Value) : String := String.ofList v.chars

/-- A line feed and two blanks for every level. -/
def newline (level : Nat) : List Char := '\n' :: List.replicate (2 * level) ' '

/-- Pieces on lines of their own between brackets; nothing stands between them if there is none. -/
def block (first last : Char) (level : Nat) : List (List Char) → List Char
  | [] => [first, last]
  | pieces =>
    first :: separated (pieces.map (newline (level + 1) ++ ·)) ++ newline level ++ [last]

mutual

def Value.prettyChars (level : Nat) : Value → List Char
  | .list items => block '[' ']' level (prettyItems (level + 1) items)
  | .object fields => block '\x7b' '\x7d' level (prettyFields (level + 1) fields)
  | .null => Value.null.chars
  | .bool b => (Value.bool b).chars
  | .number n => n.chars
  | .text s => quoted s

def prettyItems (level : Nat) : List Value → List (List Char)
  | [] => []
  | v :: vs => v.prettyChars level :: prettyItems level vs

def prettyFields (level : Nat) : List (String × Value) → List (List Char)
  | [] => []
  | (key, v) :: rest =>
    (quoted key ++ ':' :: ' ' :: v.prettyChars level) :: prettyFields level rest

end

def Value.pretty (v : Value) : String := String.ofList (v.prettyChars 0)

/-- A natural number as a value. -/
def Value.nat (n : Nat) : Value := .number (.ofNat n)

end FeatureLint.Json
