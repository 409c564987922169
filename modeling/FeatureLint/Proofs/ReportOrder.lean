import FeatureLint.Proofs.ByteOrder
import FeatureLint.Proofs.FileOrder
import Mathlib.Data.Finset.Card

namespace FeatureLint

namespace Issue

/-- What an issue is sorted by: its file, the place in it, and the rule. -/
def key (i : Issue) : String × Nat × Nat × Nat :=
  (i.file, i.violation.line, i.violation.column, i.violation.rule)

/-- An issue does not come behind another: by the bytes of their files, then by their lines, columns
and rules. -/
def Precedes (a b : Issue) : Prop :=
  Text.bytes a.file < Text.bytes b.file ∨ a.file = b.file ∧
    (a.violation.line < b.violation.line ∨ a.violation.line = b.violation.line ∧
      (a.violation.column < b.violation.column ∨ a.violation.column = b.violation.column ∧
        a.violation.rule ≤ b.violation.rule))

theorem compare_file {s t : String} : compare s t = .lt ↔ Text.bytes s < Text.bytes t := by
  rw [← Text.lt_iff_bytes]
  exact compareOfLessAndEq_eq_lt

theorem before_iff_precedes {a b : Issue} : before a b = true ↔ a.Precedes b := by
  simp only [before, order, Precedes, Ordering.isLE_then_iff_or, Ordering.then_eq_lt,
    Ordering.then_eq_eq, compare_file, Nat.compare_eq_lt, Nat.isLE_compare,
    Std.compare_eq_iff_eq]
  tauto

theorem ties_eq_filter (i : Issue) (issues : List Issue) :
    Ordered.ties before i issues = issues.filter (·.key = i.key) := by
  apply List.filter_congr
  intro j _
  rw [Bool.eq_iff_iff, level_iff, decide_eq_true_iff]
  simp only [key, place, Prod.mk.injEq]
  constructor
  · rintro ⟨hfile, ⟨hline, hcolumn⟩, hrule⟩
    exact ⟨hfile.symm, hline.symm, hcolumn.symm, hrule.symm⟩
  · rintro ⟨hfile, hline, hcolumn, hrule⟩
    exact ⟨hfile.symm, ⟨hline.symm, hcolumn.symm⟩, hrule.symm⟩

/-- Issues of one key keep their order. -/
theorem filter_sort (key : String × Nat × Nat × Nat) (issues : List Issue) :
    (sort issues).filter (·.key = key) = issues.filter (·.key = key) := by
  -- Any issue with the key will do to name the tie.
  obtain ⟨file, line, column, rule⟩ := key
  have hties := before_ordered.ties_mergeSort ⟨file, ⟨rule, line, column⟩, "", none⟩ issues
  rwa [ties_eq_filter, ties_eq_filter] at hties

theorem pairwise_sort (issues : List Issue) : (sort issues).Pairwise Precedes :=
  (before_ordered.pairwise_mergeSort issues).imp before_iff_precedes.mp

/-- The order of the keys and that of the issues of one key decide the order of all. -/
theorem sort_eq_of_keys {issues issues' : List Issue}
    (h : ∀ key, issues.filter (·.key = key) = issues'.filter (·.key = key)) :
    sort issues = sort issues' := by
  have o := before_ordered
  apply o.eq_of_ties (o.pairwise_mergeSort issues) (o.pairwise_mergeSort issues')
  intro i
  rw [o.ties_mergeSort, o.ties_mergeSort, ties_eq_filter, ties_eq_filter, h]

end Issue

namespace Report

theorem max?_perm {l m : List Nat} (h : l.Perm m) : l.max? = m.max? := by
  apply Option.ext
  intro n
  rw [List.max?_eq_some_iff, List.max?_eq_some_iff, h.mem_iff]
  simp only [h.mem_iff]

theorem gutterWidth_perm {issues issues' : List Issue} (h : issues.Perm issues') :
    gutterWidth issues = gutterWidth issues' := by
  have hshown := max?_perm ((h.filter fun i => i.sourceLine.isSome).map (·.violation.line))
  simp only [gutterWidth, hshown]

/-- Files are counted as a set. -/
theorem summary_eq (colors : Bool) (issues : List Issue) :
    summary colors issues =
      summaryLine colors issues.length (issues.map (·.file)).toFinset.card := by
  have hcount : (issues.map (·.file)).eraseDups.length = (issues.map (·.file)).toFinset.card := by
    rw [List.card_toFinset]
    exact length_eraseDups (List.nodup_dedup _) fun s => List.mem_dedup.symm
  rw [summary, summaryLine, hcount]

theorem summary_perm (colors : Bool) {issues issues' : List Issue} (h : issues.Perm issues') :
    summary colors issues = summary colors issues' := by
  rw [summary_eq, summary_eq, h.length_eq, List.toFinset_eq_of_perm _ _ (h.map _)]

/-- A report that does not break off: its blocks in order, and a summary. -/
theorem render_text {colors : Bool} {issues : List Issue} (hsome : issues ≠ [])
    (h : (render colors issues).fault = none) :
    (render colors issues).text =
      String.join ((Issue.sort issues).map fun i => (block colors (gutterWidth issues) i).text) ++
        summaryLine colors issues.length (issues.map (·.file)).toFinset.card := by
  have hperm := Issue.perm_sort issues
  rw [render, if_neg (by simpa using hsome)] at h ⊢
  rw [blocks_text h, summary_perm colors hperm, summary_eq, gutterWidth_perm hperm]

/-- Issues handed over in another order give the same report, to the same end, if those of one key
keep their order. Unless it breaks off, it has a block for every issue, in the order of their files
by bytes, their lines, columns and rules, those of one key in the order given, and behind them a
summary with the number of issues and of different files. Of no issues nothing is said. -/
theorem render_any_order (colors : Bool) (issues issues' : List Issue)
    (hperm : issues.Perm issues')
    (hkeys : ∀ key, issues.filter (·.key = key) = issues'.filter (·.key = key)) :
    render colors issues' = render colors issues ∧
      (issues = [] → render colors issues = ⟨"", none⟩) ∧
      (issues ≠ [] → (render colors issues).fault = none →
        ∃ shown : List Issue, shown.Perm issues ∧ shown.Pairwise Issue.Precedes ∧
          (∀ key, shown.filter (·.key = key) = issues.filter (·.key = key)) ∧
          (render colors issues).text =
            String.join (shown.map fun i => (block colors (gutterWidth issues) i).text) ++
              summaryLine colors issues.length (issues.map (·.file)).toFinset.card) := by
  refine ⟨?_, ?_, ?_⟩
  · have hempty : issues'.isEmpty = issues.isEmpty := by
      rw [Bool.eq_iff_iff, List.isEmpty_iff, List.isEmpty_iff]
      exact ⟨fun h => (h ▸ hperm).eq_nil, fun h => (h ▸ hperm).nil_eq.symm⟩
    rw [render, render, hempty, Issue.sort_eq_of_keys hkeys]
  · rintro rfl
    rfl
  · intro hsome hfault
    exact ⟨Issue.sort issues, Issue.perm_sort issues, Issue.pairwise_sort issues,
      fun key => Issue.filter_sort key issues, render_text hsome hfault⟩

/-- Two issues in one file. -/
def lowerIssue : Issue := ⟨"a.feature", ⟨11, 9, 0⟩, Rule.synopsis, none⟩

def upperIssue : Issue := ⟨"a.feature", ⟨11, 2, 4⟩, Rule.synopsis, none⟩

theorem render_any_order_sample :
    [upperIssue, lowerIssue].Perm [lowerIssue, upperIssue] ∧
      (∀ key, [upperIssue, lowerIssue].filter (·.key = key) =
        [lowerIssue, upperIssue].filter (·.key = key)) ∧
      render false [lowerIssue, upperIssue] = render false [upperIssue, lowerIssue] ∧
      (render false [upperIssue, lowerIssue]).fault = none ∧
      ∃ shown, (render false [upperIssue, lowerIssue]).text =
        shown ++ "✘ 2 problems in 1 file\n" := by
  have hperm : [upperIssue, lowerIssue].Perm [lowerIssue, upperIssue] := List.Perm.swap ..
  have hkeys : ∀ key, [upperIssue, lowerIssue].filter (·.key = key) =
      [lowerIssue, upperIssue].filter (·.key = key) := by
    intro key
    by_cases hlower : lowerIssue.key = key
    · subst hlower
      rfl
    · simp [List.filter_cons, hlower]
  have hsorted : Issue.sort [upperIssue, lowerIssue] = [upperIssue, lowerIssue] :=
    List.mergeSort_of_pairwise (by decide +kernel)
  have hfault : (render false [upperIssue, lowerIssue]).fault = none := by
    rw [render, if_neg (by decide), hsorted]
    decide +kernel
  obtain ⟨hsame, _, hshown⟩ := render_any_order false _ _ hperm hkeys
  obtain ⟨shown, _, _, _, htext⟩ := hshown (by decide) hfault
  exact ⟨hperm, hkeys, hsame, hfault, _, htext⟩

/-- An issue behind the last column that can be shown. -/
def lastColumnIssue : Issue := ⟨"a.feature", ⟨11, 1, 18446744073709551615⟩, Rule.synopsis, none⟩

/-- A report does not always end with a summary: of no issues nothing is said, and one that breaks
off does not get to it. -/
theorem render_without_summary :
    (¬ ∃ shown, (render false []).text = shown ++ summaryLine false 0 0) ∧
      ¬ ∃ shown, (render false [lastColumnIssue]).text = shown ++ summaryLine false 1 1 := by
  have hbroken : (render false [lastColumnIssue]).text = "" := by decide +kernel
  constructor
  · rintro ⟨shown, h⟩
    exact absurd (String.append_eq_empty_iff.mp h.symm).2 (by decide)
  · rintro ⟨shown, h⟩
    rw [hbroken] at h
    exact absurd (String.append_eq_empty_iff.mp h.symm).2 (by decide)

end Report

end FeatureLint
