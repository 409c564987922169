import FeatureLint.Proofs.Gutter

namespace FeatureLint

/-- The numbers of an issue are those that 64 bits can hold. -/
structure Issue.InRange (i : Issue) : Prop where
  line : i.violation.line < Json.wordLimit
  column : i.violation.column < Json.wordLimit

namespace Report

open Text

section

variable {colors : Bool} {width : Nat} {i : Issue}

end

/-- What a step of printing can break off at. -/
inductive Trap where
  /-- A sum that 64 bits cannot hold. -/
  | addition
  /-- A difference below zero. -/
  | subtraction
  /-- Padding beyond the limit. -/
  | padding
  deriving DecidableEq, Repr

def Trap.ofFault : Fault → Trap
  | .columnOverflow => .addition
  | .tooWide => .padding

def plus (m n : Nat) : Except Trap Nat :=
  if m + n < Json.wordLimit then .ok (m + n) else .error .addition

def minus (m n : Nat) : Except Trap Nat :=
  if n ≤ m then .ok (m - n) else .error .subtraction

def padded (width : Nat) (text : String) : Except Trap String :=
  if width ≤ widthLimit then .ok (padLeft width text) else .error .padding

def upperStep (colors : Bool) (width : Nat) : Except Trap String := do
  let margin ← padded width ""
  return margin ++ " " ++ bar colors ++ "\n"

def middleStep (colors : Bool) (width : Nat) (i : Issue) (source : String) :
    Except Trap String := do
  let number ← padded width (toString i.violation.line)
  return colored colors .blue number ++ " " ++ bar colors ++ " " ++ source ++ "\n"

def lowerStep (colors : Bool) (width : Nat) (i : Issue) (source : String) :
    Except Trap String := do
  let column ← plus i.violation.column 1
  let length ← minus column 1
  let margin ← padded width ""
  let gap ← padded (displayWidth (source.toList.take length)) ""
  return margin ++ " " ++ bar colors ++ " " ++ gap ++ colored colors .red "^" ++ "\n"

/-- The parts of a block that are written at once, each with all that is computed for it. -/
def steps (colors : Bool) (width : Nat) (i : Issue) : List (Except Trap String) :=
  -- The head lines show the sum, and nothing of them is written without it.
  (plus i.violation.column 1).map (fun _ => headLines colors i) ::
    (i.sourceLine.elim [] (fun source =>
      [upperStep colors width, middleStep colors width i source,
        lowerStep colors width i source]) ++ [.ok "\n"])

/-- What was printed, and what broke it off. -/
structure Printed where
  text : String
  trap : Option Trap
  deriving DecidableEq, Repr

/-- The texts of steps up to the first that breaks off. -/
def printed : List (Except Trap String) → Printed
  | [] => ⟨"", none⟩
  | .error trap :: _ => ⟨"", some trap⟩
  | .ok text :: rest => ⟨text ++ (printed rest).text, (printed rest).trap⟩

def Written.printed (w : Written) : Printed := ⟨w.text, w.fault.map Trap.ofFault⟩

section

variable {width : Nat} {i : Issue}

end

end Report

end FeatureLint
