import FeatureLint.Proofs.ReportOrder

namespace FeatureLint

namespace Text

def blanks (n : Nat) : String := String.ofList (List.replicate n ' ')

@[simp] theorem length_blanks (n : Nat) : (blanks n).length = n := by simp [blanks]

theorem padLeft_eq (width : Nat) (text : String) :
    padLeft width text = blanks (width - text.length) ++ text :=
  rfl

theorem padLeft_empty (width : Nat) : padLeft width "" = blanks width := by
  rw [padLeft_eq, String.append_empty]
  rfl

theorem length_padLeft {width : Nat} {text : String} (h : text.length ≤ width) :
    (padLeft width text).length = width := by
  rw [padLeft_eq, String.length_append, length_blanks, Nat.sub_add_cancel h]

/-- A larger number has as many digits or more. -/
theorem length_toString_mono {m n : Nat} (h : m ≤ n) :
    (toString m).length ≤ (toString n).length := by
  have hdigits : 0 < (toString n).length := Nat.length_repr_pos
  have hbelow : n < 10 ^ (toString n).length := (Nat.length_repr_le_iff hdigits).mp le_rfl
  exact (Nat.length_repr_le_iff hdigits).mpr (lt_of_le_of_lt h hbelow)

/-- A line with a margin of `width` characters, then a blank and a bar, and the rest behind them. -/
def Barred (width : Nat) (margin rest line : String) : Prop :=
  margin.length = width ∧ line = margin ++ " |" ++ rest

namespace Barred

variable {width : Nat} {margin rest line : String}

theorem toList_eq (h : Barred width margin rest line) :
    line.toList = margin.toList ++ ' ' :: '|' :: rest.toList := by
  simp [h.2]

theorem bar_at (h : Barred width margin rest line) : line.toList[width + 1]? = some '|' := by
  have hmargin : margin.toList.length = width := h.1
  rw [h.toList_eq, List.getElem?_append_right (by omega), hmargin]
  simp

theorem drop_eq (h : Barred width margin rest line) :
    line.toList.drop (width + 2) = rest.toList := by
  have hmargin : margin.toList.length = width := h.1
  rw [h.toList_eq, ← List.drop_drop, List.drop_left' hmargin]
  rfl

theorem getElem?_eq (h : Barred width margin rest line) (k : Nat) :
    line.toList[width + 2 + k]? = rest.toList[k]? := by
  rw [← h.drop_eq, List.getElem?_drop]

end Barred

end Text

namespace Report

open Text

/-- The largest number of a line that is shown. -/
structure LargestLine (issues : List Issue) (n : Nat) : Prop where
  shown : ∃ i ∈ issues, i.sourceLine.isSome ∧ i.violation.line = n
  largest : ∀ i ∈ issues, i.sourceLine.isSome → i.violation.line ≤ n

theorem max?_lines_iff (issues : List Issue) (n : Nat) :
    ((issues.filter (·.sourceLine.isSome)).map (·.violation.line)).max? = some n ↔
      LargestLine issues n := by
  rw [List.max?_eq_some_iff]
  simp only [List.mem_map, List.mem_filter, and_assoc, forall_exists_index, and_imp]
  constructor
  · rintro ⟨hshown, hlargest⟩
    exact ⟨hshown, fun i hi hsource => hlargest _ i hi hsource rfl⟩
  · rintro ⟨hshown, hlargest⟩
    refine ⟨hshown, ?_⟩
    rintro _ i hi hsource rfl
    exact hlargest i hi hsource

theorem gutterWidth_of_largest {issues : List Issue} {n : Nat} (h : LargestLine issues n) :
    gutterWidth issues = (toString n).length := by
  simp only [gutterWidth, (max?_lines_iff issues n).mpr h]

theorem exists_largest {issues : List Issue} {i : Issue} (hi : i ∈ issues)
    (hsource : i.sourceLine.isSome) : ∃ n, LargestLine issues n := by
  have hmem : i.violation.line ∈
      (issues.filter (·.sourceLine.isSome)).map (·.violation.line) :=
    List.mem_map.mpr ⟨i, List.mem_filter.mpr ⟨hi, hsource⟩, rfl⟩
  obtain ⟨n, hn⟩ := Option.isSome_iff_exists.mp (List.isSome_max?_of_mem hmem)
  exact ⟨n, (max?_lines_iff issues n).mp hn⟩

/-- No number that is shown is too long for the width. -/
theorem length_line_le {issues : List Issue} {i : Issue} (hi : i ∈ issues)
    (hsource : i.sourceLine.isSome) :
    (toString i.violation.line).length ≤ gutterWidth issues := by
  obtain ⟨n, hn⟩ := exists_largest hi hsource
  rw [gutterWidth_of_largest hn]
  exact length_toString_mono (hn.largest i hi hsource)

/-- Of a column behind the end of the source only the end matters. -/
theorem caretOffset_eq (i : Issue) (source : String) : caretOffset i source =
    displayWidth (source.toList.take (min i.violation.column source.length)) := by
  rw [caretOffset, List.take_eq_take_min]
  rfl

/-- The lines that show a source: one with nothing but a bar, one with the number of the line and
the source, and one with a mark below the source. -/
structure Gutter (width number : Nat) (source : String) (mark : Nat)
    (upper middle lower : String) : Prop where
  upper_barred : Barred width (blanks width) "" upper
  middle_barred : ∃ k, Barred width (blanks k ++ toString number) (" " ++ source) middle
  lower_barred : Barred width (blanks width) (" " ++ blanks mark ++ "^") lower

namespace Gutter

variable {width number mark : Nat} {source upper middle lower : String}

theorem bar_at (h : Gutter width number source mark upper middle lower) :
    ∀ line ∈ [upper, middle, lower], line.toList[width + 1]? = some '|' := by
  obtain ⟨k, hmiddle⟩ := h.middle_barred
  simp only [List.forall_mem_cons]
  exact ⟨h.upper_barred.bar_at, hmiddle.bar_at, h.lower_barred.bar_at, by simp⟩

theorem source_at (h : Gutter width number source mark upper middle lower) :
    middle.toList.drop (width + 3) = source.toList := by
  obtain ⟨k, hmiddle⟩ := h.middle_barred
  calc middle.toList.drop (width + 3)
      = (middle.toList.drop (width + 2)).drop 1 := by rw [List.drop_drop]
    _ = source.toList := by simp [hmiddle.drop_eq]

theorem caret_at (h : Gutter width number source mark upper middle lower) :
    lower.toList[width + 3 + mark]? = some '^' := by
  have hplace : width + 3 + mark = width + 2 + (mark + 1) := by omega
  rw [hplace, h.lower_barred.getElem?_eq]
  simp [blanks]

end Gutter

/-- What a block shows that does not break off. -/
theorem block_text {colors : Bool} {width : Nat} {i : Issue}
    (h : (block colors width i).fault = none) :
    (block colors width i).text = headLines colors i ++ i.sourceLine.elim "" (fun source =>
      sourceLines colors width i source ++ caretLine colors width i source) ++ "\n" := by
  unfold block at h ⊢
  split at h
  · simp at h
  · rename_i hcolumn
    rw [if_neg hcolumn]
    cases hsource : i.sourceLine with
    | none => simp
    | some source =>
      simp only [hsource] at h ⊢
      split at h
      · simp at h
      · rename_i hoffset
        rw [if_neg hoffset]
        simp only [Option.elim_some, String.append_assoc]

/-- A number that is not too long is padded to the width of the blanks above and below it. -/
theorem block_with_source {width : Nat} {i : Issue} {source : String}
    (h : (block false width i).fault = none) (hsource : i.sourceLine = some source)
    (hwidth : (toString i.violation.line).length ≤ width) :
    ∃ upper middle lower,
      Gutter width i.violation.line source (caretOffset i source) upper middle lower ∧
      (block false width i).text =
        headLines false i ++ upper ++ "\n" ++ middle ++ "\n" ++ lower ++ "\n" ++ "\n" := by
  refine ⟨blanks width ++ " |" ++ "",
    padLeft width (toString i.violation.line) ++ " |" ++ (" " ++ source),
    blanks width ++ " |" ++ (" " ++ blanks (caretOffset i source) ++ "^"),
    ⟨⟨length_blanks width, rfl⟩, ⟨_, length_padLeft hwidth, rfl⟩, ⟨length_blanks width, rfl⟩⟩, ?_⟩
  rw [block_text h, hsource, ← String.toList_inj]
  simp [sourceLines, caretLine, bar, colored, paint, padLeft_empty]

/-- If a report does not break off, none of its blocks does. -/
theorem fault_block {colors : Bool} {width : Nat} {last : String} {issues : List Issue}
    (h : (blocks colors width last issues).fault = none) :
    ∀ i ∈ issues, (block colors width i).fault = none := by
  induction issues with
  | nil => simp
  | cons j issues ih =>
    rw [blocks] at h
    cases hfault : (block colors width j).fault with
    | some fault => simp [hfault] at h
    | none =>
      simp only [hfault] at h
      exact List.forall_mem_cons.mpr ⟨hfault, ih h⟩

theorem fault_block_of_render {colors : Bool} {issues : List Issue}
    (h : (render colors issues).fault = none) :
    ∀ i ∈ issues, (block colors (gutterWidth issues) i).fault = none := by
  intro i hi
  have hperm := Issue.perm_sort issues
  rw [render, if_neg (by simpa using List.ne_nil_of_mem hi)] at h
  rw [← gutterWidth_perm hperm]
  exact fault_block h i (hperm.mem_iff.mpr hi)

/-- A report without colours that does not break off is made of a part for every issue, and a
summary. A part without a source ends below the head lines. In a part with one, all three bars stand
behind a blank and as many characters as the largest number shown has digits. The source starts two
columns behind its bar, and the mark stands behind the columns that the source takes in front of the
place. -/
theorem render_aligned (issues : List Issue) (h : (render false issues).fault = none) :
    ∃ (shown : List Issue) (part : Issue → String) (width : Nat), shown.Perm issues ∧
      (issues ≠ [] → (render false issues).text = String.join (shown.map part) ++
        summaryLine false issues.length (issues.map (·.file)).toFinset.card) ∧
      (∀ i ∈ issues, i.sourceLine = none → part i = headLines false i ++ "\n") ∧
      ∀ i ∈ issues, ∀ source, i.sourceLine = some source →
        ∃ mark upper middle lower,
          mark = displayWidth (source.toList.take (min i.violation.column source.length)) ∧
          part i = headLines false i ++ upper ++ "\n" ++ middle ++ "\n" ++ lower ++ "\n" ++ "\n" ∧
          Gutter width i.violation.line source mark upper middle lower ∧
          (∃ n, LargestLine issues n ∧ width = (toString n).length) ∧
          (∀ line ∈ [upper, middle, lower], line.toList[width + 1]? = some '|') ∧
          middle.toList.drop (width + 3) = source.toList ∧
          lower.toList[width + 3 + mark]? = some '^' := by
  have hblock := fault_block_of_render h
  refine ⟨Issue.sort issues, fun i => (block false (gutterWidth issues) i).text,
    gutterWidth issues, Issue.perm_sort issues, fun hsome => render_text hsome h, ?_, ?_⟩
  · intro i hi hsource
    simp only [block_text (hblock i hi), hsource, Option.elim_none, String.append_empty]
  · intro i hi source hsource
    have hshown : i.sourceLine.isSome := by simp [hsource]
    obtain ⟨upper, middle, lower, hgutter, htext⟩ :=
      block_with_source (hblock i hi) hsource (length_line_le hi hshown)
    obtain ⟨n, hn⟩ := exists_largest hi hshown
    exact ⟨_, upper, middle, lower, caretOffset_eq i source, htext, hgutter,
      ⟨n, hn, gutterWidth_of_largest hn⟩, hgutter.bar_at, hgutter.source_at, hgutter.caret_at⟩

/-- An issue on a line of a short number, behind the end of its source. -/
def nearIssue : Issue := ⟨"a.feature", ⟨11, 9, 40⟩, Rule.synopsis, some "# one"⟩

def farIssue : Issue := ⟨"a.feature", ⟨11, 120, 2⟩, Rule.synopsis, some "  # two"⟩

theorem render_aligned_sample :
    (render false [nearIssue, farIssue]).fault = none ∧ LargestLine [nearIssue, farIssue] 120 ∧
      ∃ upper middle lower : String,
        Gutter 3 9 "# one" 5 upper middle lower ∧
        (∀ line ∈ [upper, middle, lower], line.toList[4]? = some '|') ∧
        middle.toList.drop 6 = "# one".toList ∧ lower.toList[11]? = some '^' := by
  have hsorted : Issue.sort [nearIssue, farIssue] = [nearIssue, farIssue] :=
    List.mergeSort_of_pairwise (by decide +kernel)
  have hfault : (render false [nearIssue, farIssue]).fault = none := by
    rw [render, if_neg (by decide), hsorted]
    decide +kernel
  have hlargest : LargestLine [nearIssue, farIssue] 120 := by
    rw [← max?_lines_iff]
    rfl
  obtain ⟨_, _, width, _, _, _, hparts⟩ := render_aligned [nearIssue, farIssue] hfault
  obtain ⟨mark, upper, middle, lower, hmark, _, hgutter, ⟨n, hn, hwidth⟩, hbars, hsource, hcaret⟩ :=
    hparts nearIssue (by simp) "# one" rfl
  have hn' : n = 120 := by
    rw [← max?_lines_iff] at hn
    exact (Option.some.inj hn).symm
  have hmark' : mark = 5 := by
    rw [hmark]
    decide +kernel
  subst hn' hmark' hwidth
  exact ⟨hfault, hlargest, upper, middle, lower, hgutter, hbars, hsource, hcaret⟩

end Report

end FeatureLint
