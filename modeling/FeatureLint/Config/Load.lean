import FeatureLint.Config
import FeatureLint.Disk
import FeatureLint.Text.Escaped

namespace FeatureLint.Config

inductive LoadError where
  | unreadable (e : FileError)
  | invalid (path : String) (fault : Json.Fault)
  | problem (p : Problem)
  deriving DecidableEq, Repr

def LoadError.message : LoadError → String
  | .unreadable e => e.message
  | .invalid path _ => "Failed to parse config file: " ++ Text.escaped path
  | .problem p => p.message

/-- A path and those that are left when its last component is taken off again and again, `n` times
at most. -/
def ancestors : Nat → String → List String
  | 0, path => [path]
  | n + 1, path =>
    match Path.parent? path with
    | none => [path]
    | some up => path :: ancestors n up

/-- The configuration of the first directory that has one. A repository ends the search. -/
def firstConfig? (d : Disk) : List String → Option String
  | [] => none
  | dir :: rest =>
    if d.pathExists (Path.join dir fileName) then some (Path.join dir fileName)
    else if d.pathExists (Path.join dir ".git") then none
    else firstConfig? d rest

/-- A path has no more components than characters. -/
def find? (d : Disk) (start : String) : Option String :=
  firstConfig? d (ancestors start.length start)

/-- The configuration and whether it comes from a file. -/
structure Loaded where
  config : Config
  fromFile : Bool
  deriving DecidableEq, Repr

def loadFile (d : Disk) (path : String) : Except LoadError Config := do
  let text ← (d.readText path).mapError .unreadable
  let config ← (ofText text).mapError (.invalid path)
  config.validate.mapError .problem
  return config

/-- Relative paths cannot be followed upwards, so the search starts from the place they lead to. -/
def load (d : Disk) (start : String) : Except LoadError Loaded :=
  match find? d ((d.canonical? start).getD start) with
  | some path => do return ⟨← loadFile d path, true⟩
  | none => .ok ⟨standard, false⟩

end FeatureLint.Config
