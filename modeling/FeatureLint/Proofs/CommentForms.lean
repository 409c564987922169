import FeatureLint.Comment

namespace FeatureLint

theorem exists_append_dropWhile {α : Type} (p : α → Bool) (l : List α) :
    ∃ w, l = w ++ l.dropWhile p ∧ ∀ b ∈ w, p b = true :=
  ⟨l.takeWhile p, List.takeWhile_append_dropWhile.symm, List.all_eq_true.mp List.all_takeWhile⟩

/-- What dropping leaves begins where the property ends. -/
theorem dropWhile_eq_cons_iff {α : Type} {p : α → Bool} {l rest : List α} {a : α} :
    l.dropWhile p = a :: rest ↔ p a = false ∧ ∃ w, l = w ++ a :: rest ∧ ∀ b ∈ w, p b = true := by
  constructor
  · intro h
    refine ⟨?_, ?_⟩
    · simpa [h] using List.head?_dropWhile_not p l
    · simpa [h] using exists_append_dropWhile p l
  · intro h
    obtain ⟨ha, w, rfl, hw⟩ := h
    rw [List.dropWhile_append_of_pos hw, List.dropWhile_cons_of_neg (by simp [ha])]

namespace Comment

/-- White space of ASCII and nothing else. -/
def Blank (s : String) : Prop := ∀ c ∈ s.toList, isSpace c = true

def OneLine (s : String) : Prop := '\n' ∉ s.toList ∧ '\r' ∉ s.toList

/-- A text that opens as a comment behind white space. -/
def Opens (text : String) : Prop :=
  ∃ lead opener rest : String, text = lead ++ opener ++ rest ∧ Blank lead ∧
    (opener = "#" ∨ opener = "\"\"\"" ∨ opener = "```")

/-- A text that names a tag behind its number sign, with white space behind the tag and no line
break behind that. The white space may be cut anywhere. -/
def Echoes (text tag : String) : Prop :=
  ∃ lead gap trail rest : String, text = lead ++ "#" ++ gap ++ tag ++ trail ++ rest ∧
    Blank lead ∧ Blank gap ∧ Blank trail ∧ trail ≠ "" ∧ OneLine rest

theorem oneLine_iff (s : String) : OneLine s ↔ ∀ c ∈ s.toList, isLineBreak c = false := by
  simp only [OneLine, isLineBreak, Bool.or_eq_false_iff, decide_eq_false_iff_not]
  constructor
  · rintro ⟨hn, hr⟩ c hc
    exact ⟨fun h => hn (h ▸ hc), fun h => hr (h ▸ hc)⟩
  · intro h
    exact ⟨fun hn => (h _ hn).1 rfl, fun hr => (h _ hr).2 rfl⟩

theorem afterStart?_eq_some_iff {start cs rest : List Char} :
    afterStart? start cs = some rest ↔ cs = start ++ rest := by
  fun_induction afterStart? start cs with
  | case1 cs => simp
  | case2 p ps => simp
  | case3 p ps cs ih => simp [ih]
  | case4 p ps c cs hne =>
    simp only [reduceCtorEq, List.cons_append, List.cons.injEq, false_iff]
    exact fun h => hne h.1.symm

/-- What the test for a tag goes over, step by step. -/
theorem startsWithTag_eq_true_iff {text tag : String} :
    startsWithTag text tag = true ↔ ∃ behind c rest,
      text.toList.dropWhile isSpace = '#' :: behind ∧
        behind.dropWhile isSpace = tag.toList ++ c :: rest ∧ isSpace c = true ∧
        ∀ d ∈ rest.dropWhile isSpace, isLineBreak d = false := by
  unfold startsWithTag
  constructor
  · intro h
    split at h
    · rename_i behind hbehind
      split at h
      · rename_i c rest hrest
        simp only [Bool.and_eq_true, Bool.not_eq_true', List.any_eq_false] at h
        exact ⟨behind, c, rest, hbehind, afterStart?_eq_some_iff.mp hrest, h.1, by simpa using h.2⟩
      · cases h
    · cases h
  · intro h
    obtain ⟨behind, c, rest, hbehind, htag, hc, hrest⟩ := h
    simp only [hbehind, afterStart?_eq_some_iff.mpr htag, hc, Bool.true_and, Bool.not_eq_true',
      List.any_eq_false]
    simpa using hrest

/-- Behind white space that was passed over as a whole stands no further white space, so a tag found
there is not empty and does not start with any. -/
theorem firm_of_dropWhile {cs rest : List Char} {tag : String} {c : Char} (hc : isSpace c = true)
    (h : cs.dropWhile isSpace = tag.toList ++ c :: rest) :
    tag ≠ "" ∧ ∀ a ∈ tag.toList.head?, isSpace a = false := by
  cases htag : tag.toList with
  | nil =>
    rw [htag] at h
    have hfree := (dropWhile_eq_cons_iff.mp h).1
    rw [hc] at hfree
    cases hfree
  | cons a as =>
    rw [htag] at h
    refine ⟨?_, by simpa using (dropWhile_eq_cons_iff.mp h).1⟩
    rintro rfl
    cases htag

/-- The cuts that the test for a tag makes. -/
theorem echoes_of_startsWithTag {text tag : String} (h : startsWithTag text tag = true) :
    Echoes text tag := by
  obtain ⟨behind, c, rest, hbehind, htag, hc, hrest⟩ := startsWithTag_eq_true_iff.mp h
  obtain ⟨lead, htext, hlead⟩ := exists_append_dropWhile isSpace text.toList
  obtain ⟨gap, hgapped, hgap⟩ := exists_append_dropWhile isSpace behind
  obtain ⟨trail, htrailed, htrail⟩ := exists_append_dropWhile isSpace rest
  refine ⟨.ofList lead, .ofList gap, .ofList (c :: trail), .ofList (rest.dropWhile isSpace),
    ?_, ?_, ?_, ?_, ?_, ?_⟩
  · rw [← String.toList_inj, htext, hbehind, hgapped, htag]
    simpa using htrailed
  · simpa [Blank] using hlead
  · simpa [Blank] using hgap
  · rw [Blank, String.toList_ofList, List.forall_mem_cons]
    exact ⟨hc, htrail⟩
  · intro hempty
    simpa using congrArg String.toList hempty
  · rw [oneLine_iff, String.toList_ofList]
    exact hrest

/-- However the text is cut, the test makes cuts of its own: the white space in front of the tag
ends where the tag starts, and of that behind the tag it may take more. -/
theorem startsWithTag_of_echoes {text tag : String} (hne : tag ≠ "")
    (hfirm : ∀ a ∈ tag.toList.head?, isSpace a = false) (h : Echoes text tag) :
    startsWithTag text tag = true := by
  obtain ⟨lead, gap, trail, rest, rfl, hlead, hgap, htrail, hsome, hline⟩ := h
  obtain ⟨a, as, htag⟩ : ∃ a as, tag.toList = a :: as := by
    cases htag : tag.toList with
    | nil => exact absurd (String.toList_eq_nil_iff.mp htag) hne
    | cons a as => exact ⟨a, as, rfl⟩
  obtain ⟨c, more, hmore⟩ : ∃ c more, trail.toList = c :: more := by
    cases hmore : trail.toList with
    | nil => exact absurd (String.toList_eq_nil_iff.mp hmore) hsome
    | cons c more => exact ⟨c, more, rfl⟩
  rw [Blank, hmore, List.forall_mem_cons] at htrail
  rw [startsWithTag_eq_true_iff]
  refine ⟨gap.toList ++ tag.toList ++ trail.toList ++ rest.toList, c, more ++ rest.toList,
    ?_, ?_, htrail.1, ?_⟩
  · exact dropWhile_eq_cons_iff.mpr ⟨rfl, lead.toList, by simp, hlead⟩
  · rw [htag, List.cons_append]
    refine dropWhile_eq_cons_iff.mpr ⟨hfirm a (by simp [htag]), gap.toList, ?_, hgap⟩
    simp [hmore]
  · rw [List.dropWhile_append_of_pos htrail.2]
    intro d hd
    exact (oneLine_iff rest).mp hline d ((List.dropWhile_suffix isSpace).subset hd)

/-- A tag is found in front of a comment exactly if the text can be cut into the parts of an echo,
for tags that are not empty and do not start with white space; others are found nowhere. -/
theorem startsWithTag_iff_echoes (text tag : String) :
    startsWithTag text tag = true ↔
      tag ≠ "" ∧ (∀ a ∈ tag.toList.head?, isSpace a = false) ∧ Echoes text tag := by
  constructor
  · intro h
    obtain ⟨behind, c, rest, hbehind, htag, hc, hrest⟩ := startsWithTag_eq_true_iff.mp h
    obtain ⟨hne, hfirm⟩ := firm_of_dropWhile hc htag
    exact ⟨hne, hfirm, echoes_of_startsWithTag h⟩
  · intro h
    obtain ⟨hne, hfirm, h⟩ := h
    exact startsWithTag_of_echoes hne hfirm h

-- White space may hold line breaks, also behind the tag; the rest of the line may not.
example : startsWithTag "# smoke \n  ticket" "smoke" = true := by decide

example : startsWithTag "# smoke note\nsecond line" "smoke" = false := by decide

/-- A text is a comment exactly if it opens as one behind white space. -/
theorem isComment_iff_opens (text : String) : isComment text = true ↔ Opens text := by
  have hlist : isComment text = true ↔
      ∃ opener ∈ openers, opener.toList <+: text.toList.dropWhile isSpace := by
    simp only [isComment, List.any_eq_true, List.isPrefixOf_iff_prefix]
  have hopeners : ∀ opener, opener ∈ openers ↔
      opener = "#" ∨ opener = "\"\"\"" ∨ opener = "```" := by
    simp [openers]
  rw [hlist]
  constructor
  · intro h
    obtain ⟨opener, hopener, rest, hrest⟩ := h
    obtain ⟨lead, htext, hlead⟩ := exists_append_dropWhile isSpace text.toList
    refine ⟨.ofList lead, opener, .ofList rest, ?_, by simpa [Blank] using hlead,
      (hopeners opener).mp hopener⟩
    rw [← String.toList_inj, htext, ← hrest]
    simp
  · intro h
    obtain ⟨lead, opener, rest, rfl, hlead, hopener⟩ := h
    refine ⟨opener, (hopeners opener).mpr hopener, rest.toList, ?_⟩
    rw [String.toList_append, String.toList_append, List.append_assoc,
      List.dropWhile_append_of_pos hlead]
    -- None of the openers starts with white space.
    rcases hopener with rfl | rfl | rfl <;> rfl

theorem isComment_of_startsWithTag {text tag : String} (h : startsWithTag text tag = true) :
    isComment text = true := by
  obtain ⟨lead, gap, trail, rest, htext, hlead, _⟩ := echoes_of_startsWithTag h
  rw [isComment_iff_opens]
  exact ⟨lead, "#", gap ++ tag ++ trail ++ rest, by simp [htext, String.append_assoc], hlead,
    Or.inl rfl⟩

end Comment

end FeatureLint
