import FeatureLint.Command.Help
import FeatureLint.Config.Load
import FeatureLint.Dump.Load
import FeatureLint.Report
import FeatureLint.Scan

namespace FeatureLint

/-- What a run depends on besides its arguments and the disk. -/
structure Environment where
  colors : Bool
  /-- Stands in for the option of the same name. -/
  ignoreTag : Option String
  /-- The words for what is wrong with a JSON text. -/
  faultText : Json.Fault → String

/-- Why a run could not be completed. -/
inductive Failure where
  | load (e : Config.LoadError)
  | problem (p : Config.Problem)
  | configExists
  | unwritable (e : FileError)
  | report (fault : Report.Fault)
  deriving DecidableEq, Repr

namespace Failure

def message : Failure → String
  | .load e => e.message
  | .problem p => p.message
  | .configExists => Config.fileName ++ " already exists"
  | .unwritable e => e.message
  | .report fault => fault.message

/-- A report that breaks off has an exit code of its own. -/
def code : Failure → Nat
  | .report _ => 101
  | _ => Status.failed.code

end Failure

/-- A run writes to two channels, may fail on its way, and leaves a disk. What it wrote before it
failed stays. -/
structure Outcome where
  stdout : String
  stderr : String
  ending : Except Failure Status
  disk : Disk

def Outcome.code (o : Outcome) : Nat :=
  match o.ending with
  | .ok status => status.code
  | .error failure => failure.code

namespace Command

/-- The tag of the options wins over that of the environment, and this over the configuration. -/
def withIgnoreTag (env : Environment) (options : CheckOptions) (config : Config) : Config :=
  match options.ignoreTag.or env.ignoreTag with
  | some tag => { config with rule := { config.rule with ignoreTag := tag } }
  | none => config

/-- The configuration that a check goes by, and whether it comes from a file. -/
def settings (env : Environment) (d : Disk) (options : CheckOptions) :
    Except Failure Config.Loaded := do
  let loaded ← (Config.load d options.path).mapError .load
  let config := withIgnoreTag env options loaded.config
  config.validate.mapError .problem
  return { loaded with config := config }

/-- Paths on the command line are taken as they are, configured ones from the given directory. -/
def dumps (d : Disk) (options : CheckOptions) (config : Config) : Scan :=
  if options.paths.isEmpty then scan d options.path config.includes config.ignores
  else scan d "" options.paths config.ignores

def warn (env : Environment) (text : String) : String :=
  Text.warning env.colors ++ " " ++ text ++ "\n"

def defaultsNote (env : Environment) (fromFile : Bool) : String :=
  if fromFile then ""
  else
    Text.paint env.colors { bold := true } "note:" ++ " no " ++ Config.fileName
      ++ " found, using defaults\n"

def scanNotes (env : Environment) (s : Scan) : String :=
  String.join (s.warnings.map fun w => warn env w.message)

def skippedNote (env : Environment) (s : Scan) : String :=
  if s.skipped = 0 then ""
  else warn env (toString s.skipped ++ " path(s) could not be accessed")

def failureNotes (env : Environment) (f : Findings) : String :=
  String.join (f.failures.map fun e => warn env (e.1 ++ ": " ++ e.2.detail env.faultText))

/-- A text that is written on request only. -/
def whenVerbose (options : CheckOptions) (text : String) : String :=
  if options.verbose then text else ""

/-- The report on findings, or the good news. -/
def reportText (env : Environment) (f : Findings) : Report.Written :=
  if f.issues.isEmpty then ⟨Report.success env.colors f.checked, none⟩
  else Report.render env.colors f.issues

def runCheck (env : Environment) (d : Disk) (options : CheckOptions) : Outcome :=
  match settings env d options with
  | .error failure => ⟨"", "", .error failure, d⟩
  | .ok loaded =>
    let found := dumps d options loaded.config
    let notes := whenVerbose options
      (defaultsNote env loaded.fromFile ++ scanNotes env found ++ skippedNote env found)
    match Rule.ofSettings loaded.config.rule with
    | .error problem => ⟨"", notes, .error (.problem problem), d⟩
    | .ok rule =>
      let findings := Checker.checkFiles ⟨[rule]⟩ d found.files
      let notes := notes ++ whenVerbose options (failureNotes env findings)
      let report := reportText env findings
      match report.fault with
      | some fault => ⟨report.text, notes, .error (.report fault), d⟩
      | none =>
        ⟨report.text,
          notes ++ Report.parseWarning env.colors findings.failures.length options.verbose,
          .ok (.ofIssueCount findings.issues.length), d⟩

/-- The configuration that `init` writes. -/
def standardConfigText : String := Config.standard.toJson.pretty

def createdText (env : Environment) : String :=
  Text.colored env.colors .green Report.successMark ++ " "
    ++ Text.colored env.colors .green ("Created " ++ Config.fileName) ++ "\n"

/-- Writes the standard configuration to the current directory, unless there is one. -/
def runInit (env : Environment) (d : Disk) : Outcome :=
  if d.pathExists Config.fileName then ⟨"", "", .error .configExists, d⟩
  else
    match d.write Config.fileName (some standardConfigText) with
    | .ok d => ⟨createdText env, "", .ok .clean, d⟩
    | .error e => ⟨"", "", .error (.unwritable e), d⟩

def run (env : Environment) (d : Disk) : Command → Outcome
  | .check options => runCheck env d options
  | .init => runInit env d

end Command

namespace Request

def answer (env : Environment) (d : Disk) : Request → Outcome
  | .nothing => ⟨Page.text env.ignoreTag .overview, "", .ok .clean, d⟩
  | .run command => command.run env d
  | .help page => ⟨page.text env.ignoreTag, "", .ok .clean, d⟩
  | .version => ⟨versionText, "", .ok .clean, d⟩

end Request

end FeatureLint
