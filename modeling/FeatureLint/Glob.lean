namespace FeatureLint

namespace Glob

/-- One character, or all from one to another. -/
inductive Specifier where
  | single (c : Char)
  | range (first last : Char)
  deriving DecidableEq, Repr

def Specifier.accepts : Specifier → Char → Bool
  | .single a, c => a == c
  | .range a b, c => a ≤ c && c ≤ b

/-- What a pattern is made of. Only `**` knows slashes; everything else takes slashes and dots for
plain characters. -/
inductive Token where
  | char (c : Char)
  | any
  | anySequence
  | anyDirectories
  | within (specs : List Specifier)
  | except (specs : List Specifier)
  deriving DecidableEq, Repr

inductive Cause where
  | wildcards
  | recursive
  | range
  deriving DecidableEq, Repr

/-- Why a pattern is none, and near which of its characters. -/
structure Error where
  position : Nat
  cause : Cause
  deriving DecidableEq, Repr

def Cause.text : Cause → String
  | .wildcards => "wildcards are either regular `*` or recursive `**`"
  | .recursive => "recursive wildcards must form a single path component"
  | .range => "invalid range pattern"

def Error.message (e : Error) : String :=
  "Pattern syntax error near position " ++ toString e.position ++ ": " ++ e.cause.text

def specifiers : List Char → List Specifier
  | a :: '-' :: b :: cs => .range a b :: specifiers cs
  | c :: cs => .single c :: specifiers cs
  | [] => []

/-- A class behind its opening bracket. The first character of its content is taken as it is, even
if it is a closing bracket. -/
def classAt : List Char → Option (Token × List Char)
  | '!' :: c :: cs =>
    match cs.dropWhile (· != ']') with
    | _ :: rest => some (.except (specifiers (c :: cs.takeWhile (· != ']'))), rest)
    | [] => none
  | '!' :: [] => none
  | c :: cs =>
    match cs.dropWhile (· != ']') with
    | _ :: rest => some (.within (specifiers (c :: cs.takeWhile (· != ']'))), rest)
    | [] => none
  | [] => none

/-- What two stars stand for: they follow a slash or nothing, and a slash behind them is theirs. -/
def directoriesAt (position : Nat) (previous : Option Char) (rest : List Char) :
    Except Error (List Char) :=
  if previous.all (· == '/') then
    match rest with
    | [] => .ok []
    | '/' :: rest => .ok rest
    | _ => .error ⟨position + 2, .recursive⟩
  else .error ⟨position - 1, .recursive⟩

/-- One after the other, directories in any number are the same as once. -/
def addDirectories : List Token → List Token
  | .anyDirectories :: done => .anyDirectories :: done
  | done => .anyDirectories :: done

/-- Reads on at a position, behind a character; `done` are the tokens so far, backwards. -/
def parseLoop : Nat → Nat → Option Char → List Token → List Char → Except Error (List Token)
  | 0, _, _, done, _ => .ok done.reverse
  | _ + 1, _, _, done, [] => .ok done.reverse
  | n + 1, position, previous, done, c :: cs =>
    if c = '?' then parseLoop n (position + 1) (some c) (.any :: done) cs
    else if c = '*' then
      match (c :: cs).takeWhile (· == '*'), (c :: cs).dropWhile (· == '*') with
      | [_], rest => parseLoop n (position + 1) (some c) (.anySequence :: done) rest
      | [_, _], rest => do
        let left ← directoriesAt position previous rest
        let used := 2 + (rest.length - left.length)
        let last := if used = 2 then '*' else '/'
        parseLoop n (position + used) (some last) (addDirectories done) left
      | _, _ => .error ⟨position + 2, .wildcards⟩
    else if c = '[' then
      match classAt cs with
      | some (t, rest) =>
        parseLoop n (position + 1 + (cs.length - rest.length)) (some ']') (t :: done) rest
      | none => .error ⟨position, .range⟩
    else parseLoop n (position + 1) (some c) (.char c :: done) cs

end Glob

structure Glob where
  tokens : List Glob.Token
  deriving DecidableEq, Repr

namespace Glob

def parse (pattern : String) : Except Error Glob := do
  let cs := pattern.toList
  return ⟨← parseLoop (cs.length + 1) 0 none [] cs⟩

/-- All ends of a text, the whole text first. -/
def suffixes : List Char → List (List Char)
  | [] => [[]]
  | c :: cs => (c :: cs) :: suffixes cs

/-- The ends of a text that follow a slash. -/
def afterSlashes : List Char → List (List Char)
  | [] => []
  | c :: cs => if c = '/' then cs :: afterSlashes cs else afterSlashes cs

def Token.accepts : Token → Char → Bool
  | .char a, c => a == c
  | .any, _ => true
  | .within specs, c => specs.any (·.accepts c)
  | .except specs, c => !specs.any (·.accepts c)
  | _, _ => false

def matchTokens : List Token → List Char → Bool
  | [], cs => cs.isEmpty
  | .anySequence :: ts, cs => (suffixes cs).any (matchTokens ts)
  | [.anyDirectories], _ => true
  | .anyDirectories :: ts, cs => (cs :: afterSlashes cs).any (matchTokens ts)
  | _ :: _, [] => false
  | t :: ts, c :: cs => t.accepts c && matchTokens ts cs

/-- The pattern matches the whole text. -/
def accepts (g : Glob) (s : String) : Bool := matchTokens g.tokens s.toList

def Token.char? : Token → Option Char
  | .char c => some c
  | _ => none

/-- The text of a pattern that has no special tokens. -/
def literal? (g : Glob) : Option String := (g.tokens.mapM Token.char?).map String.ofList

/-- The pattern stands for directories in any number. -/
def isRecursive (g : Glob) : Bool := g.tokens.contains .anyDirectories

/-- A text counts as a pattern if it holds a star or a question mark. -/
def isPattern (s : String) : Bool := s.toList.any fun c => c == '*' || c == '?'

end Glob

end FeatureLint
