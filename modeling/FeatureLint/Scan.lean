import FeatureLint.Glob.Expand
import FeatureLint.Text.Style

namespace FeatureLint

namespace Scan

/-- What to leave out: everything below some paths, and what some patterns match. -/
structure Ignores where
  bases : List String
  globs : List Glob

/-- What is left out depends on how a path is spelled on the walk, not on where it leads. -/
def Ignores.covers (i : Ignores) (path : String) : Bool :=
  i.bases.any (Path.startsWith path) || i.globs.any (·.accepts path)

/-- What the user is told on request. -/
inductive Warning where
  | badIgnore (pattern : String) (e : Glob.Error)
  | badInclude (pattern : String) (e : Glob.Error)
  | missingInclude (path : String)
  | noAccess (path : String) (e : FileError)
  deriving DecidableEq, Repr

def Warning.message : Warning → String
  | .badIgnore pattern e => "Invalid ignore pattern '" ++ pattern ++ "': " ++ e.message
  | .badInclude pattern e => "Invalid glob pattern '" ++ pattern ++ "': " ++ e.message
  | .missingInclude path => "Include path does not exist: " ++ path
  | .noAccess path e =>
    "Cannot access path: IO error for operation on " ++ path ++ ": " ++ e.message

/-- A pattern without wildcards is a path below the base. -/
def addIgnore (base : String) (i : Ignores × List Warning) (pattern : String) :
    Ignores × List Warning :=
  if Glob.isPattern pattern then
    match Glob.parse pattern with
    | .ok glob => ({ i.1 with globs := i.1.globs ++ [glob] }, i.2)
    | .error e => (i.1, i.2 ++ [.badIgnore pattern e])
  else ({ i.1 with bases := i.1.bases ++ [Path.join base pattern] }, i.2)

def ignores (base : String) (patterns : List String) : Ignores × List Warning :=
  patterns.foldl (addIgnore base) (⟨[], []⟩, [])

/-- The roots that an include stands for. -/
def rootsOf (d : Disk) (base pattern : String) : List String × List Warning :=
  let path := Path.join base pattern
  if Glob.isPattern pattern then
    match Glob.expand d path with
    | .ok roots => (roots, [])
    | .error e => ([], [.badInclude pattern e])
  else if d.pathExists path then ([path], [])
  else ([], [.missingInclude path])

/-- Without includes the walk starts from the base. -/
def roots (d : Disk) (base : String) (includes : List String) : List String × List Warning :=
  if includes.isEmpty then ([base], [])
  else
    let found := includes.map (rootsOf d base)
    (found.flatMap (·.1), found.flatMap (·.2))

/-- What a walk came upon: files, and what it could not look into. -/
structure Walked where
  files : List String
  warnings : List Warning

/-- Walks put together in the order of the names they started from. -/
def Walked.inOrder (walks : List (String × Walked)) : Walked :=
  let sorted := walks.mergeSort fun a b => a.1 ≤ b.1
  ⟨sorted.flatMap (·.2.files), sorted.flatMap (·.2.warnings)⟩

mutual

/-- The walk over a node that it comes upon as `path`. Links are not followed, but one that leads to
a file counts as a file. A path may grow too long to be of use. -/
def walk (d : Disk) (ignored : String → Bool) (path : String) : Node → Walked
  | .dir entries =>
    if ignored path then ⟨[], []⟩
    else
      match d.stat path with
      | .error e => ⟨[], [.noAccess path e]⟩
      | .ok _ => .inOrder (walkEntries d ignored path entries)
  | _ => ⟨if !ignored path && d.isFile path then [path] else [], []⟩

def walkEntries (d : Disk) (ignored : String → Bool) (path : String) :
    List (String × Node) → List (String × Walked)
  | [] => []
  | (name, n) :: rest =>
    (name, walk d ignored (Path.join path name) n) :: walkEntries d ignored path rest

end

/-- The walk from a root. Of a root that is a link the directory behind it is walked, even if the
link itself is ignored. -/
def walkRoot (d : Disk) (ignored : String → Bool) (root : String) : Walked :=
  match d.lstat root with
  | .error e => ⟨[], [.noAccess root e]⟩
  | .ok (.link target) =>
    match d.stat root with
    | .error e => ⟨[], [.noAccess root e]⟩
    | .ok (.dir entries) => .inOrder (walkEntries d ignored root entries)
    | .ok _ => walk d ignored root (.link target)
  | .ok n => walk d ignored root n

/-- Adds a text to ascending ones, unless it is among them. -/
def insertSorted (s : String) : List String → List String
  | [] => [s]
  | t :: rest =>
    if s < t then s :: t :: rest else if s = t then t :: rest else t :: insertSorted s rest

/-- The dumps among some files, ascending and each once. -/
def dumps (files : List String) : List String :=
  ((files.filter Path.isDump).map Path.withoutHere).foldr insertSorted []

end Scan

/-- The dumps found, the number of places that could not be looked into, and the warnings. -/
structure Scan where
  files : List String
  skipped : Nat
  warnings : List Scan.Warning

def scan (d : Disk) (base : String) (includes ignorePatterns : List String) : Scan :=
  let (ignores, ignoreWarnings) := Scan.ignores base ignorePatterns
  let (roots, rootWarnings) := Scan.roots d base includes
  let walks := roots.map (Scan.walkRoot d ignores.covers)
  let walkWarnings := walks.flatMap (·.warnings)
  ⟨Scan.dumps (walks.flatMap (·.files)), walkWarnings.length,
    ignoreWarnings ++ rootWarnings ++ walkWarnings⟩

end FeatureLint
