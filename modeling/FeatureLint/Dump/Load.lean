import FeatureLint.Disk
import FeatureLint.Issue

namespace FeatureLint

inductive Dump.LoadError where
  | unreadable (path : String) (e : FileError)
  | invalid (path : String) (fault : Json.Fault)
  deriving DecidableEq, Repr

def Dump.LoadError.message : Dump.LoadError → String
  | .unreadable path e => "Failed to read " ++ path ++ ": " ++ e.message
  | .invalid path _ => "Failed to parse dump: " ++ path

/-- The message with the reason why a text is no dump, in the given words. -/
def Dump.LoadError.detail (words : Json.Fault → String) (e : Dump.LoadError) : String :=
  match e with
  | .unreadable _ _ => e.message
  | .invalid _ fault => e.message ++ ": " ++ words fault

def Dump.load (d : Disk) (path : String) : Except Dump.LoadError Dump := do
  let text ← (d.readText path).mapError (.unreadable path)
  (Dump.ofText text).mapError (.invalid path)

/-- What came of checking files: the issues in order, the number of files that could be loaded, and
the others. -/
structure Findings where
  issues : List Issue
  checked : Nat
  failures : List (String × Dump.LoadError)

namespace Checker

/-- The issues of one file, which go by the name of the feature file. -/
def checkFile (c : Checker) (d : Disk) (path : String) : Except Dump.LoadError (List Issue) := do
  return c.checkDump (Path.featurePath path) (← Dump.load d path)

/-- A dump that cannot be loaded is set aside and stops nothing. -/
def checkFiles (c : Checker) (d : Disk) (paths : List String) : Findings :=
  let outcomes := paths.map fun path => (path, c.checkFile d path)
  let passed := outcomes.filterMap fun o => o.2.toOption
  ⟨Issue.sort passed.flatten, passed.length,
    outcomes.filterMap fun o =>
      match o.2 with
      | .error e => some (o.1, e)
      | .ok _ => none⟩

end Checker

end FeatureLint
