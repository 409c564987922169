import FeatureLint.Json.Printer
import FeatureLint.Json.Record

namespace FeatureLint

open Json

structure Tag where
  text : String
  index : Nat
  deriving DecidableEq, Repr

/-- The tag without its leading at sign. -/
def Tag.name (t : Tag) : String :=
  match t.text.toList with
  | '@' :: rest => String.ofList rest
  | _ => t.text

structure TagLine where
  start : Nat
  tags : List Tag
  deriving DecidableEq, Repr

def TagLine.names (l : TagLine) : List String := l.tags.map Tag.name

/-- The index of the last tag, where the comments of the line end. -/
def TagLine.stop (l : TagLine) : Option Nat := l.tags.getLast?.map Tag.index

inductive KeywordKind where
  | scenario
  | scenarioOutline
  | background
  deriving DecidableEq, Repr

structure Keyword where
  kind : KeywordKind
  index : Nat
  deriving DecidableEq, Repr

/-- A scenario, an outline or a background. The lists hold where each of its parts starts. -/
structure Header where
  start : Nat
  keyword : Option Keyword
  steps : List Nat
  stepDescriptions : List Nat
  descriptions : List Nat
  deriving DecidableEq, Repr

/-- The token before `n`, unless `n` is the first of all. -/
def before : Nat → Option Nat
  | 0 => none
  | n + 1 => some n

/-- The last token that still stands before the content of a header: the one before its first step,
else before its first step description, else before its first description, else the keyword. -/
def Header.cutoff (h : Header) : Option Nat :=
  match h.steps, h.stepDescriptions, h.descriptions with
  | first :: _, _, _ => before first
  | [], first :: _, _ => before first
  | [], [], first :: _ => before first
  | [], [], [] => h.keyword.map Keyword.index

/-- A line of a feature body as its parser lays it out. Places are indices of tokens. -/
inductive Line where
  | tags (l : TagLine)
  | header (h : Header)
  | body (start : Nat)
  | rule (start : Nat)
  deriving DecidableEq, Repr

end FeatureLint
