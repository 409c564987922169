import FeatureLint.Proofs.LookBack
import FeatureLint.Proofs.StableSort
import FeatureLint.Proofs.Tally

namespace FeatureLint

namespace Issue

/-- Where an issue is in its file. -/
def place (i : Issue) : Nat × Nat := (i.violation.line, i.violation.column)

/-- The comparison that issues are sorted by. -/
def before (a b : Issue) : Bool := (a.order b).isLE

theorem order_eq_lex : Issue.order =
    compareLex (compareLex (compareLex (compareOn Issue.file) (compareOn (·.violation.line)))
      (compareOn (·.violation.column))) (compareOn (·.violation.rule)) := rfl

instance : Std.TransCmp Issue.order := by
  rw [order_eq_lex]
  infer_instance

theorem before_ordered : Ordered before where
  trans _ _ _ hab hbc := Std.TransCmp.isLE_trans hab hbc
  total a b := by
    have hswap : b.order a = (a.order b).swap := Std.OrientedCmp.eq_swap
    simp only [before, Bool.or_eq_true]
    rw [hswap]
    cases a.order b <;> simp

/-- Issues stand level if they are found at one place of one file by one rule. -/
theorem level_iff {a b : Issue} : Ordered.level before a b = true ↔
    a.file = b.file ∧ a.place = b.place ∧ a.violation.rule = b.violation.rule := by
  have hlevel : Ordered.level before a b = true ↔ a.order b = .eq := by
    have hswap : b.order a = (a.order b).swap := Std.OrientedCmp.eq_swap
    simp only [Ordered.level, before, Bool.and_eq_true]
    rw [hswap]
    cases a.order b <;> simp
  rw [hlevel, Issue.order]
  simp [Ordering.then_eq_eq, place, and_assoc]

end Issue

namespace Checker

/-- Two dumps with a comment in front of a scenario, and a file that is no text. -/
def sampleDisk : Disk :=
  ⟨.dir [("a.feature.json", .file (some Command.sampleText)), ("b.feature.json", .file none),
    ("c.feature.json", .file (some Command.sampleText))], []⟩

end Checker

end FeatureLint
