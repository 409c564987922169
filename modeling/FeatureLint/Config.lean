import FeatureLint.Glob
import FeatureLint.Json.Printer
import FeatureLint.Json.Record
import FeatureLint.Rule

namespace FeatureLint

open Json

/-- The settings of the rule as they are written. -/
structure RuleSettings where
  ignoreTag : String
  suppressionPattern : String
  deriving DecidableEq, Repr

def RuleSettings.standard : RuleSettings := ⟨Rule.standardIgnoreTag, Comment.standardSuppression⟩

/-- Where dumps are looked for, what is left out, and the settings of the rule. -/
structure Config where
  /-- Directories or patterns of directories; none means all. -/
  includes : List String
  ignores : List String
  rule : RuleSettings
  deriving DecidableEq, Repr

namespace Config

def fileName : String := ".gherkinlintrc.json"

def standardIgnores : List String := ["**/target/**", "**/node_modules/**"]

def standard : Config := ⟨[], standardIgnores, .standard⟩

/-- Values that a configuration cannot be used with. -/
inductive Problem where
  | badIgnore (pattern : String) (e : Glob.Error)
  | badInclude (pattern : String) (e : Glob.Error)
  | emptyIgnoreTag
  | badSuppression (pattern : String)
  deriving DecidableEq, Repr

def Problem.message : Problem → String
  | .badIgnore pattern e =>
    "Invalid glob pattern in 'ignores': \"" ++ pattern ++ "\": " ++ e.message
  | .badInclude pattern e =>
    "Invalid glob pattern in 'includes': \"" ++ pattern ++ "\": " ++ e.message
  | .emptyIgnoreTag => "'ignoreTag' must not be empty"
  | .badSuppression pattern =>
    "Invalid regex in 'suppressionPattern': \"" ++ pattern ++ "\""

def checkIgnores : List String → Except Problem Unit
  | [] => .ok ()
  | pattern :: rest =>
    match Glob.parse pattern with
    | .ok _ => checkIgnores rest
    | .error e => .error (.badIgnore pattern e)

/-- Includes without wildcards are plain paths. -/
def checkIncludes : List String → Except Problem Unit
  | [] => .ok ()
  | pattern :: rest =>
    if Glob.isPattern pattern then
      match Glob.parse pattern with
      | .ok _ => checkIncludes rest
      | .error e => .error (.badInclude pattern e)
    else checkIncludes rest

/-- Every pattern is checked as it is written. -/
def validate (c : Config) (fits : String → Regex → Bool := Regex.roughlyFits) :
    Except Problem Unit := do
  checkIgnores c.ignores
  checkIncludes c.includes
  if c.rule.ignoreTag.isEmpty then .error .emptyIgnoreTag
  match Regex.compile? c.rule.suppressionPattern fits with
  | some _ => .ok ()
  | none => .error (.badSuppression c.rule.suppressionPattern)

/-- A configuration some of whose fields were read. The settings of the rule are among the other
fields, which are kept as values, backwards. -/
structure Draft where
  includes : Option (List String) := none
  ignores : Option (List String) := none
  others : List (String × Value) := []

def readPatterns (size depth : Nat) : Reader (List String) :=
  listOf size depth fun _ => Json.text size

def readField (size depth : Nat) (d : Draft) (key : String) : Reader Draft := fun cs =>
  if key = "includes" then
    if d.includes.isSome then .error .mismatch
    else do
      let (ps, cs) ← readPatterns size depth (← colon cs)
      return ({ d with includes := some ps }, cs)
  else if key = "ignores" then
    if d.ignores.isSome then .error .mismatch
    else do
      let (ps, cs) ← readPatterns size depth (← colon cs)
      return ({ d with ignores := some ps }, cs)
  else do
    let (v, cs) ← value size depth (← colon cs)
    return ({ d with others := (key, v) :: d.others }, cs)

/-- A text among the other fields, or what stands for it if there is none. -/
def setting? (absent : String) : Option Value → Option String
  | none => some absent
  | some v => v.text?

def Draft.rule? (d : Draft) : Option RuleSettings :=
  match (Value.object d.others.reverse).namedFields ["ignoreTag", "suppressionPattern"] with
  | some [ignoreTag, suppressionPattern] => do
    return ⟨← setting? Rule.standardIgnoreTag ignoreTag,
      ← setting? Comment.standardSuppression suppressionPattern⟩
  | _ => none

def read (size depth : Nat) : Reader Config := fun cs => do
  let (d, cs) ← match skipBlank cs, depth with
    | '\x7b' :: _, 0 => .error .malformed
    | '\x7b' :: cs, depth + 1 => fields size (readField size depth) (size + 1) true {} cs
    | cs, _ => unexpected size cs
  match d.rule? with
  | some rule => .ok (⟨d.includes.getD [], d.ignores.getD standardIgnores, rule⟩, cs)
  | none => .error .mismatch

def ofText (s : String) : Except Fault Config := whole read s

def toJson (c : Config) : Value :=
  .object [("includes", .list (c.includes.map .text)), ("ignores", .list (c.ignores.map .text)),
    ("ignoreTag", .text c.rule.ignoreTag),
    ("suppressionPattern", .text c.rule.suppressionPattern)]

end Config

/-- The rule with the given settings. -/
def Rule.ofSettings (s : RuleSettings) (fits : String → Regex → Bool := Regex.roughlyFits) :
    Except Config.Problem Rule :=
  match Comment.Classifier.ofPattern? s.suppressionPattern fits with
  | some classifier => .ok ⟨s.ignoreTag, classifier⟩
  | none => .error (.badSuppression s.suppressionPattern)

end FeatureLint
