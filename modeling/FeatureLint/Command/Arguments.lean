import FeatureLint.Command

namespace FeatureLint

inductive UsageError where
  | unknownArgument
  | unknownCommand
  /-- A value is missing or empty. -/
  | invalidValue
  /-- A value for an option that takes none. -/
  | unneededValue
  | repeatedOption
  deriving DecidableEq, Repr

def UsageError.message : UsageError → String
  | .unknownArgument => "unexpected argument"
  | .unknownCommand => "unrecognized subcommand"
  | .invalidValue => "a value is required but none was supplied"
  | .unneededValue => "unexpected value for an option that takes none"
  | .repeatedOption => "an option cannot be used multiple times"

/-- A word by the dashes it starts with. -/
inductive Word where
  | stop
  | long (name : String) (value : Option String)
  | short (letters : List Char)
  | plain (text : String)
  deriving DecidableEq, Repr

def Word.ofText (s : String) : Word :=
  match s.toList with
  | ['-', '-'] => .stop
  | '-' :: '-' :: cs =>
    .long (String.ofList (cs.takeWhile (· != '=')))
      (match cs.dropWhile (· != '=') with
        | [] => none
        | _ :: value => some (String.ofList value))
  | ['-'] => .plain s
  | '-' :: cs => .short cs
  | _ => .plain s

namespace CheckOptions

/-- The options that take a value. -/
inductive Setting where
  | path
  | ignoreTag
  deriving DecidableEq, Repr

/-- The words that are read but not judged yet. -/
inductive Pending where
  | nothing
  | missing (s : Setting)
  | value (s : Setting) (text : String)
  | paths (texts : List String)
  deriving DecidableEq, Repr

/-- The arguments read so far. Options may stand between the paths. A value is judged only when the
next option is recognised or the arguments end, so a word that is no option at all is reported before
a bad value in front of it. -/
structure Draft where
  paths : List String := []
  path : Option String := none
  ignoreTag : Option String := none
  verbose : Bool := false
  pending : Pending := .nothing
  deriving DecidableEq, Repr

namespace Draft

/-- A tag may be empty here, a path may not. -/
def set (d : Draft) (text : String) : Setting → Except UsageError Draft
  | .path =>
    if d.path.isSome then .error .repeatedOption
    else if text.isEmpty then .error .invalidValue
    else .ok { d with path := some text }
  | .ignoreTag =>
    if d.ignoreTag.isSome then .error .repeatedOption else .ok { d with ignoreTag := some text }

def setVerbose (d : Draft) : Except UsageError Draft :=
  if d.verbose then .error .repeatedOption else .ok { d with verbose := true }

/-- Judges the pending words. -/
def settle (d : Draft) : Except UsageError Draft :=
  let rest := { d with pending := .nothing }
  match d.pending with
  | .nothing => .ok rest
  | .missing _ => .error .invalidValue
  | .value s text => rest.set text s
  | .paths texts =>
    if texts.any (·.isEmpty) then .error .invalidValue
    else .ok { rest with paths := d.paths ++ texts }

/-- Takes a word as a path. -/
def addPath (d : Draft) (text : String) : Except UsageError Draft :=
  match d.pending with
  | .paths texts => .ok { d with pending := .paths (texts ++ [text]) }
  | _ => do return { ← d.settle with pending := .paths [text] }

def options (d : Draft) : CheckOptions :=
  ⟨d.paths, d.path.getD ".", d.ignoreTag, d.verbose⟩

/-- The end of the arguments. -/
def finish (d : Draft) : Except UsageError Request := do
  return .run (.check (← d.settle).options)

/-- Flags written together behind one dash. The result is empty if they ask for help. -/
def addFlags (d : Draft) : List Char → Except UsageError (Option Draft)
  | [] => .ok (some d)
  | 'v' :: rest => do addFlags (← (← d.settle).setVerbose) rest
  | 'h' :: _ => do
    let _ ← d.settle
    return none
  | _ => .error .unknownArgument

/-- An option of several letters, with its value if it is written in the same word. -/
def addLong (d : Draft) (name : String) (value : Option String) :
    Except UsageError (Option Draft) := do
  match name, value with
  | "path", none => return some { ← d.settle with pending := .missing .path }
  | "path", some text => return some (← (← d.settle).set text .path)
  | "ignore-tag", none => return some { ← d.settle with pending := .missing .ignoreTag }
  | "ignore-tag", some text => return some (← (← d.settle).set text .ignoreTag)
  | "verbose", none => return some (← (← d.settle).setVerbose)
  | "help", none =>
    let _ ← d.settle
    return none
  | "verbose", some _ => .error .unneededValue
  | "help", some _ => .error .unneededValue
  | _, _ => .error .unknownArgument

def addPlain (d : Draft) (text : String) : Except UsageError Draft :=
  match d.pending with
  | .missing s => .ok { d with pending := .value s text }
  | _ => d.addPath text

end Draft

/-- Reads the words behind `check`. -/
def read (d : Draft) : List String → Except UsageError Request
  | [] => d.finish
  | word :: words =>
    match Word.ofText word with
    | .stop => do (← words.foldlM Draft.addPath d).finish
    | .long name value => do
      match ← d.addLong name value with
      | some d => read d words
      | none => return .help .check
    | .short letters => do
      match ← d.addFlags letters with
      | some d => read d words
      | none => return .help .check
    | .plain text => do read (← d.addPlain text) words

end CheckOptions

namespace Request

/-- Reads the words behind `init`. -/
def readInit : List String → Except UsageError Request
  | [] => .ok (.run .init)
  | word :: words =>
    match Word.ofText word with
    | .stop => if words.isEmpty then .ok (.run .init) else .error .unknownArgument
    | .long "help" none => .ok (.help .init)
    | .long "help" (some _) => .error .unneededValue
    | .short ('h' :: _) => .ok (.help .init)
    | _ => .error .unknownArgument

/-- Reads the words behind `help`. -/
def readHelp : List String → Except UsageError Request
  | [] => .ok (.help .overview)
  | ["check"] => .ok (.help .check)
  | ["init"] => .ok (.help .init)
  | ["help"] => .ok (.help .help)
  | _ => .error .unknownCommand

def commandNames : List String := ["check", "init", "help"]

/-- Reads the words behind a `--` in front of every command: there is nothing they could be. -/
def readRest : List String → Except UsageError Request
  | [] => .ok .nothing
  | word :: _ => .error (if word ∈ commandNames then .unknownArgument else .unknownCommand)

/-- What the arguments ask for. -/
def ofArguments : List String → Except UsageError Request
  | [] => .ok .nothing
  | "check" :: words => CheckOptions.read {} words
  | "init" :: words => readInit words
  | "help" :: words => readHelp words
  | word :: words =>
    match Word.ofText word with
    | .stop => readRest words
    | .long "help" none => .ok (.help .overview)
    | .long "version" none => .ok .version
    | .long "help" (some _) => .error .unneededValue
    | .long "version" (some _) => .error .unneededValue
    | .long _ _ => .error .unknownArgument
    | .short ('h' :: _) => .ok (.help .overview)
    | .short ('V' :: _) => .ok .version
    | .short _ => .error .unknownArgument
    | .plain _ => .error .unknownCommand

end Request

end FeatureLint
