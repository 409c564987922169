import FeatureLint.Issue
import FeatureLint.Text.Style
import FeatureLint.Text.Width

namespace FeatureLint.Report

open Text (paint colored padLeft displayWidth)

/-- Why a report breaks off. -/
inductive Fault where
  /-- The column after the last one that 64 bits can hold. -/
  | columnOverflow
  /-- The mark stands too far to the right. -/
  | tooWide
  deriving DecidableEq, Repr

def Fault.message : Fault → String
  | .columnOverflow => "attempt to add with overflow"
  | .tooWide => "Formatting argument out of range"

/-- The text written, and why nothing follows if something should. -/
structure Written where
  text : String
  fault : Option Fault
  deriving DecidableEq, Repr

/-- Columns that a mark may be moved to the right. -/
def widthLimit : Nat := 65535

def successMark : String := "✓"
def failureMark : String := "✘"

/-- The width of line numbers: that of the largest among the lines shown. -/
def gutterWidth (issues : List Issue) : Nat :=
  let shown := (issues.filter (·.sourceLine.isSome)).map (·.violation.line)
  match shown.max? with
  | none => 1
  | some n => (toString n).length

def bar (colors : Bool) : String := colored colors .blue "|"

def headLines (colors : Bool) (i : Issue) : String :=
  paint colors { bold := true, color := some .red } "error" ++ ": " ++ i.message ++ "  "
    ++ paint colors { dimmed := true, color := some .cyan } i.label ++ "\n"
    ++ "  " ++ colored colors .blue "-->" ++ " " ++ i.file ++ ":" ++ toString i.violation.line
    ++ ":" ++ toString (i.violation.column + 1) ++ "\n"

/-- The columns in front of the mark. -/
def caretOffset (i : Issue) (source : String) : Nat :=
  displayWidth (source.toList.take i.violation.column)

/-- The line of the source below an empty one. -/
def sourceLines (colors : Bool) (width : Nat) (i : Issue) (source : String) : String :=
  padLeft width "" ++ " " ++ bar colors ++ "\n"
    ++ colored colors .blue (padLeft width (toString i.violation.line)) ++ " " ++ bar colors ++ " "
    ++ source ++ "\n"

def caretLine (colors : Bool) (width : Nat) (i : Issue) (source : String) : String :=
  padLeft width "" ++ " " ++ bar colors ++ " " ++ padLeft (caretOffset i source) ""
    ++ colored colors .red "^" ++ "\n"

def block (colors : Bool) (width : Nat) (i : Issue) : Written :=
  if i.violation.column + 1 = Json.wordLimit then ⟨"", some .columnOverflow⟩
  else
    match i.sourceLine with
    | none => ⟨headLines colors i ++ "\n", none⟩
    | some source =>
      let shown := headLines colors i ++ sourceLines colors width i source
      if widthLimit < caretOffset i source then ⟨shown, some .tooWide⟩
      else ⟨shown ++ caretLine colors width i source ++ "\n", none⟩

def summary (colors : Bool) (issues : List Issue) : String :=
  let files := (issues.map (·.file)).eraseDups.length
  colored colors .red failureMark ++ " " ++ toString issues.length ++ " "
    ++ colored colors .red (if issues.length = 1 then "problem" else "problems")
    ++ " in " ++ toString files ++ " " ++ (if files = 1 then "file" else "files") ++ "\n"

/-- The blocks up to the first that breaks off, then the end if there is no such block. -/
def blocks (colors : Bool) (width : Nat) (last : String) : List Issue → Written
  | [] => ⟨last, none⟩
  | i :: rest =>
    let first := block colors width i
    match first.fault with
    | some fault => ⟨first.text, some fault⟩
    | none =>
      let more := blocks colors width last rest
      ⟨first.text ++ more.text, more.fault⟩

/-- The issues in order and a summary; nothing if there are none. -/
def render (colors : Bool) (issues : List Issue) : Written :=
  if issues.isEmpty then ⟨"", none⟩
  else
    let sorted := Issue.sort issues
    blocks colors (gutterWidth sorted) (summary colors sorted) sorted

def success (colors : Bool) (files : Nat) : String :=
  colored colors .green successMark ++ " "
    ++ colored colors .green ("Checked " ++ toString files ++ " feature "
      ++ (if files = 1 then "file" else "files") ++ " - no issues found") ++ "\n"

/-- A hint at files that could not be read. In verbose mode each of them was named before. -/
def parseWarning (colors : Bool) (count : Nat) (verbose : Bool) : String :=
  if 0 < count && !verbose then
    Text.warning colors ++ " " ++ toString count ++ " file(s) could not be parsed (use "
      ++ colored colors .cyan "-v" ++ " for details)\n"
  else ""

end FeatureLint.Report
