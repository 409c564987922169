import FeatureLint.Regex
import FeatureLint.Unicode.Folding

namespace FeatureLint.Regex

open Unicode (CodeSet)

/-- Where `unicode` is off, classes hold bytes and must stay within ASCII, because a pattern may not
match a part of a character. -/
structure Flags where
  ignoreCase : Bool := false
  multiLine : Bool := false
  dotAll : Bool := false
  unicode : Bool := true
  crlf : Bool := false
  verbose : Bool := false
  deriving DecidableEq, Repr

/-- A character of a pattern. `byte` tells that it was written as two hexadecimal digits, which mean
a byte where Unicode is off. -/
structure Literal where
  char : Char
  byte : Bool := false

namespace Flags

/-- The set closed under the case rule in force. -/
def fold (f : Flags) (s : CodeSet) : CodeSet :=
  if f.ignoreCase then (if f.unicode then s.fold else s.foldAscii) else s

/-- The set as it is, or what lies outside of it. -/
def negated (negate : Bool) (s : CodeSet) : CodeSet := if negate then s.compl else s

/-- Refuses bytes that are no characters. -/
def bounded (f : Flags) (s : CodeSet) : Option CodeSet :=
  if f.unicode || s.isAscii then some s else none

/-- A class with its case rule and its sign applied. -/
def finish (f : Flags) (negate : Bool) (s : CodeSet) : Option CodeSet :=
  f.bounded (negated negate (f.fold s))

def literal (f : Flags) (l : Literal) : Option Regex :=
  if !f.unicode && l.byte && 0x7F < l.char.toNat then none
  else some (.set (f.fold (.single l.char.toNat)))

/-- The code point of a character inside a class. -/
def member (f : Flags) (l : Literal) : Option Nat :=
  if f.unicode || l.char.toNat ≤ 0x7F then some l.char.toNat else none

def dot (f : Flags) : Option Regex :=
  if !f.unicode then none
  else if f.dotAll then some (.set .all)
  else if f.crlf then some (.set (CodeSet.compl ⟨[(0x0A, 0x0A), (0x0D, 0x0D)]⟩))
  else some (.set (CodeSet.compl (.single 0x0A)))

def lineStart (f : Flags) : Look := if f.multiLine then .lineStart f.crlf else .textStart

def lineStop (f : Flags) : Look := if f.multiLine then .lineStop f.crlf else .textStop

end Flags

/-- The classes `\d`, `\s` and `\w`. -/
inductive Shorthand where
  | digit
  | space
  | word
  deriving DecidableEq, Repr

def Shorthand.unicodeSet : Shorthand → CodeSet
  | .digit => Unicode.decimalDigits
  | .space => Unicode.whiteSpace
  | .word => Unicode.wordCharacters

def Shorthand.asciiSet : Shorthand → CodeSet
  | .digit => ⟨[(0x30, 0x39)]⟩
  | .space => ⟨[(0x09, 0x0D), (0x20, 0x20)]⟩
  | .word => ⟨[(0x30, 0x39), (0x41, 0x5A), (0x5F, 0x5F), (0x61, 0x7A)]⟩

/-- These classes hold both cases of their letters already. -/
def Flags.shorthand (f : Flags) (k : Shorthand) (negate : Bool) : Option CodeSet :=
  f.bounded (Flags.negated negate (if f.unicode then k.unicodeSet else k.asciiSet))

/-- The classes of the form `[:alpha:]`, which are all ASCII. -/
def asciiClass? (name : String) : Option CodeSet :=
  match name with
  | "alnum" => some ⟨[(0x30, 0x39), (0x41, 0x5A), (0x61, 0x7A)]⟩
  | "alpha" => some ⟨[(0x41, 0x5A), (0x61, 0x7A)]⟩
  | "ascii" => some ⟨[(0x00, 0x7F)]⟩
  | "blank" => some ⟨[(0x09, 0x09), (0x20, 0x20)]⟩
  | "cntrl" => some ⟨[(0x00, 0x1F), (0x7F, 0x7F)]⟩
  | "digit" => some ⟨[(0x30, 0x39)]⟩
  | "graph" => some ⟨[(0x21, 0x7E)]⟩
  | "lower" => some ⟨[(0x61, 0x7A)]⟩
  | "print" => some ⟨[(0x20, 0x7E)]⟩
  | "punct" => some ⟨[(0x21, 0x2F), (0x3A, 0x40), (0x5B, 0x60), (0x7B, 0x7E)]⟩
  | "space" => some ⟨[(0x09, 0x0D), (0x20, 0x20)]⟩
  | "upper" => some ⟨[(0x41, 0x5A)]⟩
  | "word" => some ⟨[(0x30, 0x39), (0x41, 0x5A), (0x5F, 0x5F), (0x61, 0x7A)]⟩
  | "xdigit" => some ⟨[(0x30, 0x39), (0x41, 0x46), (0x61, 0x66)]⟩
  | _ => none

end FeatureLint.Regex
