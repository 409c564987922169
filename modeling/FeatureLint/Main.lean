import FeatureLint.Command.Arguments
import FeatureLint.Command.Run

namespace FeatureLint.Main

def faultText : Json.Fault → String
  | .malformed => "malformed JSON"
  | .unfinished => "the text ends inside a value"
  | .mismatch => "a value of another shape is expected"

/-- The names on the way to an absolute path. -/
def namesOf (path : String) : List String :=
  (Path.segments path).filter fun s => s != "" && s != "."

/-- Makes the directories on the way to a place. -/
def makeAt (d : Disk) (names : List String) : Disk := d.makeDirs (String.intercalate "/" names)

/-- Puts a node at a place, with the directories that lead to it. -/
def graft (d : Disk) (names : List String) (n : Node) : Disk :=
  match names.getLast? with
  | some name =>
    (makeAt d names.dropLast).put names.dropLast name n
  | none => { d with root := n }

/-- The components of a pattern in front of the first with wildcards. -/
def fixedPart (pattern : String) : String :=
  let fixed := (Path.segments pattern).takeWhile fun s =>
    !s.toList.any fun c => c = '*' || c = '?' || c = '['
  match fixed with
  | [] => "."
  | [""] => "/"
  | _ => String.intercalate "/" fixed

/-- The places where a check looks for dumps. -/
def places (options : CheckOptions) (config : Config) : List String :=
  if !options.paths.isEmpty then options.paths.map fixedPart
  else if config.includes.isEmpty then [options.path]
  else config.includes.map fun i => fixedPart (Path.join options.path i)

/-- Only dumps and configurations are ever read. -/
def isReadable (path : String) : Bool :=
  Path.isDump path || Path.fileName? path == some Config.fileName

def content (path : String) : IO (Option String) := do
  if isReadable path then
    try
      return String.fromUTF8? (← IO.FS.readBinFile path)
    catch _ => return none
  else return none

mutual

/-- What an entry of a directory is. A link to a file counts as that file. -/
partial def entryNode (e : IO.FS.DirEntry) : IO (Option Node) := do
  let path := e.path.toString
  try
    match (← e.path.symlinkMetadata).type with
    | .dir => return some (.dir (← entriesOf path))
    | .file => return some (.file (← content path))
    | .symlink =>
      if (← e.path.metadata).type == .dir then
        return some (.link (← IO.FS.realPath path).toString)
      else return some (.file (← content path))
    | .other => return none
  catch _ => return none

partial def entriesOf (path : String) : IO (List (String × Node)) := do
  try
    let found ← (← IO.FS.realPath path).readDir
    let nodes ← found.toList.mapM fun e => return (← entryNode e).map fun n => (e.fileName, n)
    return nodes.filterMap id
  catch _ => return []

end

/-- Adds a link if one is needed to get from a path to the place it leads to. -/
def addLink (d : Disk) (names : List String) : IO Disk := do
  try
    let real := namesOf (← IO.FS.realPath (Disk.absolute names)).toString
    if real = names || names.contains ".." then return d
    else return graft (makeAt d real) names (.link (Disk.absolute real))
  catch _ => return d

/-- Reads what is at a path and below it. -/
def addPlace (here : String) (d : Disk) (path : String) : IO Disk := do
  try
    let real ← IO.FS.realPath path
    let node ← if ← real.isDir then pure (Node.dir (← entriesOf real.toString))
      else pure (Node.file (← content real.toString))
    let given := namesOf (Path.join here path)
    let prefixes := (List.range (given.length + 1)).map given.take
    prefixes.foldlM addLink (graft d (namesOf real.toString) node)
  catch _ => return d

/-- Reads what ends the search for a configuration in a directory and in those above it. -/
def addMarks (d : Disk) (path : String) : IO Disk := do
  let mut d := d
  let names := namesOf path
  for n in List.range (names.length + 1) do
    let dir := names.take n
    for mark in [Config.fileName, ".git"] do
      let place := Disk.absolute (dir ++ [mark])
      try
        if (← (← IO.FS.realPath place).metadata).type == .dir then
          d := graft d (dir ++ [mark]) (.dir [])
        else d := graft d (dir ++ [mark]) (.file (← content place))
      catch _ => pure ()
  return d

/-- A disk with some directories and what ends the search for a configuration there. -/
def diskWith (paths : List String) : IO Disk := do
  let d ← paths.foldlM addMarks ⟨.dir [], []⟩
  return (paths.map namesOf).foldl makeAt d

/-- The part of the files that a check looks at. -/
def diskFor (env : Environment) (here : String) (options : CheckOptions) : IO Disk := do
  let start ← try pure (← IO.FS.realPath options.path).toString catch _ => pure here
  let d ← diskWith [here, start]
  match Command.settings env { d with current := namesOf here } options with
  | .error _ => return { d with current := namesOf here }
  | .ok loaded =>
    let d ← (places options loaded.config).foldlM (addPlace here) d
    return { d with current := namesOf here }

def finish (o : Outcome) : IO UInt32 := do
  IO.print o.stdout
  IO.eprint o.stderr
  match o.ending with
  | .ok _ => pure ()
  | .error failure => IO.eprintln ("Error: " ++ failure.message)
  return UInt32.ofNat o.code

end FeatureLint.Main

open FeatureLint FeatureLint.Main in
/-- Reads the arguments, runs what they ask for, and gives its exit code. -/
def main (arguments : List String) : IO UInt32 := do
  match Request.ofArguments arguments with
  | .error e =>
    IO.eprintln ("error: " ++ e.message)
    return UInt32.ofNat Status.failed.code
  | .ok request =>
    let colors := (← (← IO.getStdout).isTty) && (← IO.getEnv "NO_COLOR").isNone
    let env : Environment := ⟨colors, ← IO.getEnv ignoreTagVariable, faultText⟩
    let here := (← IO.currentDir).toString
    match request with
    | .run (.check options) => finish (request.answer env (← diskFor env here options))
    | .run .init =>
      let outcome := request.answer env { ← diskWith [here] with current := namesOf here }
      try
        match outcome.ending with
        | .ok _ => IO.FS.writeFile Config.fileName Command.standardConfigText
        | .error _ => pure ()
        finish outcome
      catch e =>
        IO.eprintln ("Error: " ++ toString e)
        return UInt32.ofNat Status.failed.code
    | _ => finish (request.answer env ⟨.dir [], []⟩)
