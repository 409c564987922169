import FeatureLint.Disk
import FeatureLint.Glob

namespace FeatureLint.Glob

/-- The components of a pattern in order, and whether only directories are wanted. -/
structure Search where
  components : List Glob
  dirsOnly : Bool

/-- The start of the search, and the segments of the pattern from there. -/
def searchStart (pattern : String) : String × String :=
  if Path.isAbsolute pattern then ("/", String.ofList (pattern.toList.dropWhile (· == '/')))
  else (".", pattern)

/-- The texts between the slashes; a slash at the end only tells that directories are wanted. -/
def patternSegments (pattern : String) : List String :=
  let segments := Path.segments pattern
  if segments.getLast? = some "" then segments.dropLast else segments

def Search.ofPattern (pattern : String) : Except Error Search := do
  let _ ← parse pattern
  let components ← (patternSegments (searchStart pattern).2).mapM parse
  return ⟨components, pattern.toList.getLast? == some '/'⟩

/-- The path of an entry; the current directory does not show in it. -/
def entryPath (dir name : String) : String :=
  if Path.components dir = [.here] then name else Path.join dir name

/-- Something is there, be it a link that leads nowhere. -/
def isThere (d : Disk) (path : String) : Bool :=
  d.pathExists path || (match d.lstat path with | .ok _ => true | .error _ => false)

/-- `.` and `..` match patterns that start with a dot. -/
def specialNames (g : Glob) : List String :=
  if g.tokens.head? = some (.char '.') then ["..", "."].filter g.accepts else []

/-- The search for the rest of the components. -/
inductive Task where
  /-- In a directory. -/
  | inside (components : List Glob)
  /-- At an entry whose name is still to be matched. -/
  | entry (components : List Glob)

/-- Paths that the components stand for, from a path on. The first argument bounds the steps, each
of which goes to the next component or down the tree. -/
def expandFrom (d : Disk) (dirsOnly : Bool) : Nat → Task → String → List String
  | 0, _, _ => []
  | _ + 1, .inside [], _ => []
  | n + 1, .inside (g :: rest), dir =>
    let go (path : String) : List String :=
      if rest.isEmpty then (if dirsOnly && !d.isDir path then [] else [path])
      else expandFrom d dirsOnly n (.inside rest) path
    match g.literal? with
    | some name =>
      let path := entryPath dir name
      if (name = "." || name = "..") then (if d.isDir dir then go path else [])
      else if isThere d path then go path
      else []
    | none =>
      if d.isDir dir then
        (specialNames g).flatMap (fun name => go (Path.join dir name))
          ++ (d.namesIn dir).flatMap fun name =>
            expandFrom d dirsOnly n (.entry (g :: rest)) (entryPath dir name)
      else []
  | _ + 1, .entry [], _ => []
  | n + 1, .entry (g :: rest), path =>
    if g.isRecursive then
      let later := rest.dropWhile isRecursive
      if d.isDir path then
        (if later.isEmpty then [path] else expandFrom d dirsOnly n (.entry later) path)
          ++ expandFrom d dirsOnly n (.inside (g :: later)) path
      else if later.isEmpty then []
      else expandFrom d dirsOnly n (.entry later) path
    else if (Path.fileName? path).any g.accepts then
      if rest.isEmpty then (if dirsOnly && !d.isDir path then [] else [path])
      else expandFrom d dirsOnly n (.inside rest) path
    else []

/-- The levels of a tree. -/
def depth : Node → Nat
  | .dir entries => depthOf entries + 1
  | _ => 0
where
  depthOf : List (String × Node) → Nat
    | [] => 0
    | (_, n) :: rest => max (depth n) (depthOf rest)

/-- Every link that is followed may lead through the whole tree once more. -/
def stepBound (d : Disk) (components : List Glob) : Nat :=
  2 * (components.length + (Disk.linkLimit + 1) * (depth d.root + 1)) + 2

/-- The paths that a pattern stands for, in the order of a walk from the start. -/
def expand (d : Disk) (pattern : String) : Except Error (List String) := do
  let search ← Search.ofPattern pattern
  return expandFrom d search.dirsOnly (stepBound d search.components) (.inside search.components)
    (searchStart pattern).1

end FeatureLint.Glob
