import FeatureLint.Json.Printer
import FeatureLint.Json.Record

namespace FeatureLint

open Json

/-- A token by its place in the stream (`index`) and in the source: lines count from 1, columns
from 0. Comments and blanks are hidden tokens. -/
structure Token where
  index : Nat
  line : Nat
  column : Nat
  text : String
  hidden : Bool
  deriving DecidableEq, Repr

namespace Token

/-- A token some of whose fields were read. -/
structure Draft where
  index : Option Nat := none
  line : Option Nat := none
  column : Option Nat := none
  text : Option String := none
  hidden : Option Bool := none

/-- A token is visible unless it says otherwise; everything else must be given. -/
def Draft.finish (d : Draft) : Option Token := do
  return ⟨← d.index, ← d.line, ← d.column, ← d.text, d.hidden.getD false⟩

def fields (size : Nat) : List (Slot Draft) :=
  [ ⟨"index", fun cs => do
      let (n, cs) ← natural size cs
      return (fun d => { d with index := some n }, cs), (·.index.isSome)⟩,
    ⟨"line", fun cs => do
      let (n, cs) ← natural size cs
      return (fun d => { d with line := some n }, cs), (·.line.isSome)⟩,
    ⟨"column", fun cs => do
      let (n, cs) ← natural size cs
      return (fun d => { d with column := some n }, cs), (·.column.isSome)⟩,
    ⟨"text", fun cs => do
      let (s, cs) ← Json.text size cs
      return (fun d => { d with text := some s }, cs), (·.text.isSome)⟩,
    ⟨"hidden", fun cs => do
      let (b, cs) ← boolean size cs
      return (fun d => { d with hidden := some b }, cs), (·.hidden.isSome)⟩ ]

def read (size depth : Nat) : Reader Token :=
  record size depth (fun _ => fields size) {} Draft.finish

def ofText (s : String) : Except Fault Token := whole read s

def toJson (t : Token) : Value :=
  .object [("index", .nat t.index), ("line", .nat t.line), ("column", .nat t.column),
    ("text", .text t.text), ("hidden", .bool t.hidden)]

end Token

end FeatureLint
