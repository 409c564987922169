import FeatureLint.Dump
import FeatureLint.Rule

namespace FeatureLint

structure Issue where
  file : String
  violation : Violation
  message : String
  /-- The line of the source that the violation is on, where the source is known. -/
  sourceLine : Option String
  deriving DecidableEq, Repr

namespace Issue

def label (i : Issue) : String := "rule-" ++ toString i.violation.rule

/-- By file, then by place, then by rule. -/
def order (a b : Issue) : Ordering :=
  (((compare a.file b.file).then (compare a.violation.line b.violation.line)).then
    (compare a.violation.column b.violation.column)).then
    (compare a.violation.rule b.violation.rule)

/-- Issues at one place keep their order. -/
def sort (issues : List Issue) : List Issue := issues.mergeSort fun a b => (a.order b).isLE

end Issue

/-- The line `n` of a text, counted from 0, up to its line feed. A last line may do without one, but
then it is not empty. -/
def lineAt? : Nat → List Char → Option (List Char)
  | _, [] => none
  | 0, c :: cs => some ((c :: cs).takeWhile (· != '\n'))
  | n + 1, c :: cs => lineAt? n (((c :: cs).dropWhile (· != '\n')).drop 1)

/-- The line `n` of a source, counted from 1, without carriage returns at its end. -/
def sourceLine (source : String) (n : Nat) : Option String := do
  let line ← lineAt? (← before n) source.toList
  return String.ofList (line.reverse.dropWhile (· == '\r')).reverse

/-- The rules that dumps are checked by. -/
structure Checker where
  rules : List Rule

namespace Checker

def standard : Checker := ⟨[.standard]⟩

def issue (file : String) (d : Dump) (v : Violation) : Issue :=
  ⟨file, v, Rule.synopsis, d.source.bind (sourceLine · v.line)⟩

/-- The issues of a dump in the order in which the rules find them. -/
def checkDump (c : Checker) (file : String) (d : Dump) : List Issue :=
  c.rules.flatMap fun r => (r.check d.stream d.lines).map (issue file d)

end Checker

end FeatureLint
