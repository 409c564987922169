import FeatureLint.Line.Json
import FeatureLint.Token.Stream

namespace FeatureLint

open Json

/-- A parsed feature file. The source, where it is kept, only serves to show lines in reports. -/
structure Dump where
  source : Option String
  tokens : List Token
  lines : List Line
  deriving DecidableEq, Repr

namespace Dump

/-- A dump some of whose fields were read. -/
structure Draft where
  source : Option (Option String) := none
  tokens : Option (List Token) := none
  lines : Option (List Line) := none

/-- Whatever was left out is empty. -/
def Draft.finish (d : Draft) : Dump :=
  ⟨d.source.getD none, d.tokens.getD [], d.lines.getD []⟩

def fields (size depth : Nat) : List (Slot Draft) :=
  [ ⟨"source", fun cs => do
      let (s, cs) ← optional (Json.text size) cs
      return (fun d => { d with source := some s }, cs), (·.source.isSome)⟩,
    ⟨"tokens", fun cs => do
      let (ts, cs) ← listOf size depth (Token.read size) cs
      return (fun d => { d with tokens := some ts }, cs), (·.tokens.isSome)⟩,
    ⟨"lines", fun cs => do
      let (ls, cs) ← listOf size depth (Line.read size) cs
      return (fun d => { d with lines := some ls }, cs), (·.lines.isSome)⟩ ]

def read (size depth : Nat) : Reader Dump :=
  record size depth (fields size) {} (fun d => some d.finish)

def ofText (s : String) : Except Fault Dump := whole read s

def toJson (d : Dump) : Value :=
  .object [("source", match d.source with | none => .null | some s => .text s),
    ("tokens", .list (d.tokens.map Token.toJson)),
    ("lines", .list (d.lines.map Line.toJson))]

def stream (d : Dump) : Token.Stream := .ofList d.tokens

end Dump

end FeatureLint
