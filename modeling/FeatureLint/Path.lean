namespace FeatureLint.Path

/-- A component of a path. `.` counts only at the beginning of a relative path. -/
inductive Component where
  | root
  | here
  | up
  | name (s : String)
  deriving DecidableEq, Repr

def segmentsLoop : List Char → List Char → List String → List String
  | [], segment, done => (String.ofList segment.reverse :: done).reverse
  | c :: cs, segment, done =>
    if c = '/' then segmentsLoop cs [] (String.ofList segment.reverse :: done)
    else segmentsLoop cs (c :: segment) done

/-- The texts between the slashes. -/
def segments (path : String) : List String := segmentsLoop path.toList [] []

def isAbsolute (path : String) : Bool := path.toList.head? == some '/'

def Component.ofSegment? : String → Option Component
  | "" => none
  | "." => none
  | ".." => some .up
  | s => some (.name s)

def components (path : String) : List Component :=
  let inner := (segments path).filterMap Component.ofSegment?
  if isAbsolute path then .root :: inner
  else if (segments path).head? = some "." then .here :: inner
  else inner

/-- A path taken from a place; an absolute one stays itself. Nothing is normalised: what a path was
made from stays visible in reports and to patterns. -/
def join (base path : String) : String :=
  if isAbsolute path then path
  else if base.isEmpty || base.toList.getLast? == some '/' then base ++ path
  else base ++ "/" ++ path

/-- The components of the second path begin those of the first. -/
def startsWith (path base : String) : Bool := (components base).isPrefixOf (components path)

/-- Drops slashes and components `.` from the end of a path, which is given backwards. -/
def trimBack : List Char → List Char
  | '/' :: c :: cs => trimBack (c :: cs)
  | '.' :: '/' :: cs => trimBack ('/' :: cs)
  | cs => cs

/-- The path without its last component, unless it has none. -/
def parent? (path : String) : Option String :=
  match trimBack path.toList.reverse with
  | [] => none
  | ['/'] => none
  | cs => some (String.ofList (trimBack (cs.dropWhile (· != '/'))).reverse)

/-- The last component, if it is a name. -/
def fileName? (path : String) : Option String :=
  match (components path).getLast? with
  | some (.name s) => some s
  | _ => none

/-- Drops slashes and components `.` from the beginning of a path, `n` times at most. -/
def trimFront : Nat → List Char → List Char
  | n + 1, '/' :: cs => trimFront n cs
  | n + 1, '.' :: '/' :: cs => trimFront n ('/' :: cs)
  | _ + 1, ['.'] => []
  | _, cs => cs

/-- A path that starts at `.` without that start. -/
def withoutHere (path : String) : String :=
  if (components path).head? = some .here then
    let cs := (path.toList.drop 1)
    String.ofList (trimBack (trimFront cs.length cs).reverse).reverse
  else path

def dumpSuffix : String := ".feature.json"

/-- The characters in front of a suffix. -/
def stem? (suffix path : String) : Option String :=
  if suffix.toList.isSuffixOf path.toList then
    some (String.ofList (path.toList.take (path.length - suffix.length)))
  else none

/-- The path names a parse dump: its last component is more than the suffix of dumps. -/
def isDump (path : String) : Bool :=
  match fileName? path with
  | some name => (stem? dumpSuffix name).any (!·.isEmpty)
  | none => false

/-- The feature file that a dump belongs to. -/
def featurePath (path : String) : String :=
  match stem? dumpSuffix path with
  | some stem => if stem.isEmpty then path else stem ++ ".feature"
  | none => path

end FeatureLint.Path
