import FeatureLint.Path

namespace FeatureLint

/-- A file holds a text, or bytes that are none. -/
inductive Node where
  | file (text : Option String)
  | dir (entries : List (String × Node))
  | link (target : String)
  deriving Repr, Inhabited

/-- Why a file operation failed. -/
inductive FileError where
  | notFound
  | notDirectory
  | isDirectory
  | tooManyLinks
  | nameTooLong
  | badName
  | notText
  deriving DecidableEq, Repr

def FileError.message : FileError → String
  | .notFound => "No such file or directory (os error 2)"
  | .notDirectory => "Not a directory (os error 20)"
  | .isDirectory => "Is a directory (os error 21)"
  | .tooManyLinks => "Too many levels of symbolic links (os error 40)"
  | .nameTooLong => "File name too long (os error 36)"
  | .badName => "file name contained an unexpected NUL byte"
  | .notText => "stream did not contain valid UTF-8"

namespace Node

def child? (entries : List (String × Node)) (name : String) : Option Node :=
  (entries.find? (·.1 == name)).map (·.2)

/-- The node that names lead to, links not followed. -/
def at? : List String → Node → Option Node
  | [], n => some n
  | name :: names, .dir entries => (child? entries name).bind (at? names)
  | _ :: _, _ => none

/-- The entries with one put in, in place of the one of its name. -/
def putEntry (name : String) (n : Node) : List (String × Node) → List (String × Node)
  | [] => [(name, n)]
  | e :: rest => if e.1 == name then (name, n) :: rest else e :: putEntry name n rest

/-- Changes the entries of the directory that names lead to. -/
def editDir (edit : List (String × Node) → List (String × Node)) : List String → Node → Node
  | [], .dir entries => .dir (edit entries)
  | name :: names, .dir entries =>
    match child? entries name with
    | some child => .dir (putEntry name (editDir edit names child) entries)
    | none => .dir entries
  | _, n => n

end Node

/-- Files as a command sees them. Every name is a text: names whose bytes are no UTF-8 are left out,
as are files that are neither regular nor directories nor links. Nothing is forbidden: whatever is
there may be read, and whatever is missing may be made. -/
structure Disk where
  root : Node
  /-- The names that lead from the root to the current directory. -/
  current : List String

namespace Disk

/-- How far a path leads. -/
inductive Step where
  /-- All the way, to the node with these names. -/
  | reached (names : List String)
  /-- To a directory that has no entry of the last name. -/
  | vacant (names : List String) (name : String)
  /-- To a link in a directory, from which the rest of the path goes on. -/
  | linked (names : List String) (target : String) (rest : List String)
  | blocked (e : FileError)

/-- Bytes that a name may have. -/
def nameLimit : Nat := 255

/-- Bytes that stop a path from being one. -/
def pathLimit : Nat := 4096

/-- Links that may be followed on one path. -/
def linkLimit : Nat := 40

/-- Follows segments of a path up to a link. A link at the end counts as one only if `follow` is
set. -/
def step (root : Node) (follow : Bool) : List String → List String → Step
  | names, [] => .reached names
  | names, segment :: rest =>
    match root.at? names with
    | some (.dir entries) =>
      if segment = "" || segment = "." then step root follow names rest
      else if segment = ".." then step root follow names.dropLast rest
      else if nameLimit < segment.utf8ByteSize then .blocked .nameTooLong
      else
        match Node.child? entries segment with
        | none => if rest.isEmpty then .vacant names segment else .blocked .notFound
        | some (.link target) =>
          if rest.isEmpty && !follow then .reached (names ++ [segment])
          else .linked names target rest
        | some _ => step root follow (names ++ [segment]) rest
    | some _ => .blocked .notDirectory
    | none => .blocked .notFound

/-- The directory where the segments of a path start. -/
def origin (path : String) (names : List String) : List String :=
  if Path.isAbsolute path then [] else names

/-- Follows segments over as many links as allowed. -/
def follow (root : Node) (last : Bool) : Nat → List String → List String → Step
  | links, names, segments =>
    match step root last names segments, links with
    | .linked _ _ _, 0 => .blocked .tooManyLinks
    | .linked names target rest, links + 1 =>
      follow root last links (origin target names) (Path.segments target ++ rest)
    | stop, _ => stop

def locate (d : Disk) (last : Bool) (path : String) : Step :=
  if path.isEmpty then .blocked .notFound
  else if path.toList.contains '\x00' then .blocked .badName
  else if pathLimit ≤ path.utf8ByteSize then .blocked .nameTooLong
  else follow d.root last linkLimit (origin path d.current) (Path.segments path)

def nodeAt (d : Disk) : Step → Except FileError Node
  | .reached names =>
    match d.root.at? names with
    | some n => .ok n
    | none => .error .notFound
  | .blocked e => .error e
  | _ => .error .notFound

/-- What a path leads to; a link at its end is followed. -/
def stat (d : Disk) (path : String) : Except FileError Node := d.nodeAt (d.locate true path)

/-- What a path leads to, which may be a link. -/
def lstat (d : Disk) (path : String) : Except FileError Node := d.nodeAt (d.locate false path)

def pathExists (d : Disk) (path : String) : Bool :=
  match d.stat path with
  | .ok _ => true
  | .error _ => false

def isFile (d : Disk) (path : String) : Bool :=
  match d.stat path with
  | .ok (.file _) => true
  | _ => false

def isDir (d : Disk) (path : String) : Bool :=
  match d.stat path with
  | .ok (.dir _) => true
  | _ => false

/-- The names in a directory, in order. -/
def namesIn (d : Disk) (path : String) : List String :=
  match d.stat path with
  | .ok (.dir entries) => (entries.map (·.1)).mergeSort
  | _ => []

def absolute (names : List String) : String :=
  if names.isEmpty then "/" else String.join (names.map ("/" ++ ·))

/-- The path without links and detours, if it leads somewhere. -/
def canonical? (d : Disk) (path : String) : Option String :=
  match d.locate true path with
  | .reached names => some (absolute names)
  | _ => none

def readText (d : Disk) (path : String) : Except FileError String := do
  match ← d.stat path with
  | .file (some text) => .ok text
  | .file none => .error .notText
  | _ => .error .isDirectory

/-- Puts an entry into a directory. -/
def put (d : Disk) (names : List String) (name : String) (n : Node) : Disk :=
  { d with root := d.root.editDir (Node.putEntry name n) names }

/-- Writes a file, in place of one that is there. -/
def write (d : Disk) (path : String) (text : Option String) : Except FileError Disk :=
  match d.locate true path with
  | .vacant names name => .ok (d.put names name (.file text))
  | .reached names =>
    match d.root.at? names, names.getLast? with
    | some (.file _), some name => .ok (d.put names.dropLast name (.file text))
    | _, _ => .error .isDirectory
  | .blocked e => .error e
  | .linked _ _ _ => .error .notFound

/-- Makes a directory, unless something is there already. -/
def makeDir (d : Disk) (path : String) : Disk :=
  match d.locate true path with
  | .vacant names name => d.put names name (.dir [])
  | _ => d

/-- Makes a directory and the ones above it that are missing. -/
def makeDirs (d : Disk) (path : String) : Disk :=
  (List.range (Path.segments path).length).foldl
    (fun d i => d.makeDir (String.intercalate "/" ((Path.segments path).take (i + 1)))) d

def makeLink (d : Disk) (path target : String) : Disk :=
  match d.locate false path with
  | .vacant names name => d.put names name (.link target)
  | _ => d

/-- Removes what a path leads to, with everything in it; of a link only itself. -/
def remove (d : Disk) (path : String) : Disk :=
  match d.locate false path with
  | .reached names =>
    match names.getLast? with
    | some name => { d with root := d.root.editDir (·.filter (·.1 != name)) names.dropLast }
    | none => d
  | _ => d

/-- The same files seen from another directory, if it is one. -/
def enter (d : Disk) (path : String) : Disk :=
  match d.locate true path with
  | .reached names => { d with current := names }
  | _ => d

end Disk

end FeatureLint
