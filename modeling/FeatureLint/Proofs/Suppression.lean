import FeatureLint.Proofs.CommentForms
import FeatureLint.Proofs.LookBack
import FeatureLint.Proofs.Matching

namespace FeatureLint.Comment

open Regex
open Unicode (CodeSet)

/-- A text that is, as a whole, a directive for another tool: its marker behind white space of some
kind, and no line feed behind the marker. -/
def Directs (space : Char → Bool) (text : String) : Prop :=
  ∃ lead rest : String, text = lead ++ "#//TICS" ++ rest ∧ (∀ c ∈ lead.toList, space c = true) ∧
    '\n' ∉ rest.toList

def isUnicodeSpace (c : Char) : Bool := Unicode.whiteSpace.contains c.toNat

/-- The expression of the standard pattern. It is anchored twice, by the pattern itself and by what
is put around every pattern. -/
def directive : Regex :=
  .cat (.look .textStart) (.cat (.cat (.look .textStart)
    (.cat (.rep (.set Unicode.whiteSpace) 0 none) (spelled "#//TICS".toList
      (.cat (.rep (.set (CodeSet.compl (.single 0x0A))) 0 none) (.look .textStop)))))
    (.look .textStop))

theorem compile?_standard : Regex.compile? (anchored standardSuppression) = some directive := by
  decide +kernel

theorem ofPattern?_standard : Classifier.ofPattern? standardSuppression = some .standard := by
  rw [Classifier.ofPattern?, Classifier.standard, compile?_standard]
  rfl

/-- A dot stands for any character but the line feed. -/
theorem contains_dot (c : Char) :
    (CodeSet.compl (.single 0x0A)).contains c.toNat = true ↔ c ≠ '\n' := by
  have hset : CodeSet.compl (.single 0x0A) = ⟨[(0, 9), (11, 0xD7FF), (0xE000, 0x10FFFF)]⟩ := by
    decide
  have hvalid : c.toNat < 0xD800 ∨ 0xDFFF < c.toNat ∧ c.toNat < 0x110000 := c.valid
  have hline : c ≠ '\n' ↔ c.toNat ≠ 10 := not_congr Char.toNat_inj.symm
  simp only [hset, hline, CodeSet.contains, List.any_cons, List.any_nil, Bool.or_false,
    Bool.or_eq_true, Bool.and_eq_true, decide_eq_true_eq]
  omega

theorem covers_directive {front piece rest : List Char} :
    directive.Covers front piece rest ↔ front = [] ∧ rest = [] ∧ ∃ lead tail,
      piece = lead ++ "#//TICS".toList ++ tail ∧ (∀ c ∈ lead, isUnicodeSpace c = true) ∧
        '\n' ∉ tail := by
  rw [directive, covers_textStart, covers_textStop, covers_textStart, covers_cat]
  simp only [covers_rep_set, covers_spelled, covers_textStop, contains_dot, true_and]
  apply and_congr_right
  intro _
  apply and_congr_right
  intro _
  constructor
  · intro h
    obtain ⟨lead, _, rfl, hlead, tail, rfl, htail⟩ := h
    exact ⟨lead, tail, by rw [List.append_assoc], hlead, fun h => htail _ h rfl⟩
  · intro h
    obtain ⟨lead, tail, rfl, hlead, htail⟩ := h
    exact ⟨lead, _, List.append_assoc .., hlead, tail, rfl, fun c hc hnl => htail (hnl ▸ hc)⟩

/-- The standard classifier suppresses the directives behind white space of Unicode. -/
theorem isSuppressed_standard (text : String) :
    Classifier.standard.isSuppressed text = true ↔ Directs isUnicodeSpace text := by
  rw [Classifier.isSuppressed, Classifier.standard, compile?_standard, Option.getD_some,
    matchesIn_iff_covers]
  constructor
  · intro h
    obtain ⟨_, piece, _, htext, hcovers⟩ := h
    obtain ⟨rfl, rfl, lead, tail, rfl, hlead, htail⟩ := covers_directive.mp hcovers
    refine ⟨.ofList lead, .ofList tail, ?_, by simpa using hlead, by simpa using htail⟩
    rw [← String.toList_inj, htext]
    simp
  · intro h
    obtain ⟨lead, rest, rfl, hlead, hrest⟩ := h
    refine ⟨[], (lead ++ "#//TICS" ++ rest).toList, [], by simp, covers_directive.mpr ?_⟩
    exact ⟨rfl, rfl, lead.toList, rest.toList, by simp, hlead, hrest⟩

theorem contains_asciiSpace (c : Char) :
    (Shorthand.asciiSet .space).contains c.toNat = true ↔ isSpace c = true := by
  simp only [CodeSet.contains, Shorthand.asciiSet, isSpace, List.any_cons, List.any_nil,
    Bool.or_false, Bool.or_eq_true, Bool.and_eq_true, decide_eq_true_eq, ← Char.toNat_inj,
    Char.reduceToNat]
  omega

theorem isUnicodeSpace_of_isSpace {c : Char} (h : isSpace c = true) : isUnicodeSpace c = true := by
  rw [← contains_asciiSpace] at h
  simp only [CodeSet.contains, Shorthand.asciiSet, isUnicodeSpace, Unicode.whiteSpace,
    List.any_cons, List.any_nil, Bool.or_false, Bool.or_eq_true, Bool.and_eq_true,
    decide_eq_true_eq] at h ⊢
  omega

/-- What stands in front of the first element without a property is known by that. -/
theorem eq_of_append_cons {α : Type} {p : α → Bool} {v w x y : List α} {a b : α}
    (hv : ∀ c ∈ v, p c = true) (ha : p a = false) (hw : ∀ c ∈ w, p c = true) (hb : p b = false)
    (h : v ++ a :: x = w ++ b :: y) : v = w := by
  have htake := congrArg (List.takeWhile p) h
  rw [List.takeWhile_append_of_pos hv, List.takeWhile_append_of_pos hw,
    List.takeWhile_cons_of_neg (by simp [ha]), List.takeWhile_cons_of_neg (by simp [hb])] at htake
  simpa using htake

/-- In front of the marker of a directive that is a comment stands white space of ASCII only: what
opens the comment is no white space of any kind, so both stand behind the same characters. -/
theorem Opens.directs {text : String} (ho : Opens text) (hd : Directs isUnicodeSpace text) :
    Directs isSpace text := by
  obtain ⟨lead, opener, rest, htext, hlead, hopener⟩ := ho
  obtain ⟨front, tail, rfl, hfront, htail⟩ := hd
  obtain ⟨a, as, ha, hfree⟩ : ∃ a as, opener.toList = a :: as ∧ isUnicodeSpace a = false := by
    rcases hopener with rfl | rfl | rfl <;> exact ⟨_, _, rfl, by decide⟩
  have hsame : front.toList = lead.toList := by
    have hchars := congrArg String.toList htext
    simp only [String.toList_append, List.append_assoc, ha, List.cons_append] at hchars
    exact eq_of_append_cons hfront (by decide : isUnicodeSpace '#' = false)
      (fun c hc => isUnicodeSpace_of_isSpace (hlead c hc)) hfree hchars
  refine ⟨front, tail, rfl, ?_, htail⟩
  rw [hsame]
  exact hlead

theorem isSuppressed_standard_of_opens {text : String} (h : Opens text) :
    Classifier.standard.isSuppressed text = true ↔ Directs isSpace text := by
  rw [isSuppressed_standard]
  constructor
  · exact h.directs
  · intro h
    obtain ⟨lead, rest, htext, hlead, hrest⟩ := h
    exact ⟨lead, rest, htext, fun c hc => isUnicodeSpace_of_isSpace (hlead c hc), hrest⟩

/-- The pattern of comments: white space of ASCII, and one of the openers. -/
def commentPattern : String := "^(?-u:\\s)*(?:#|\"\"\"|```)"

def commentRegex : Regex :=
  .cat (.look .textStart) (.cat (.rep (.set (Shorthand.asciiSet .space)) 0 none)
    (.alt (spelled [] (.set (.single '#'.toNat)))
      (.alt (spelled "\"\"".toList (.set (.single '"'.toNat)))
        (spelled "``".toList (.set (.single (Char.ofNat 96).toNat))))))

theorem compile?_commentPattern : Regex.compile? commentPattern = some commentRegex := by
  decide +kernel

theorem covers_commentRegex {front piece rest : List Char} :
    commentRegex.Covers front piece rest ↔ front = [] ∧ ∃ (lead : List Char) (opener : String),
      piece = lead ++ opener.toList ∧ (∀ c ∈ lead, isSpace c = true) ∧
        (opener = "#" ∨ opener = "\"\"\"" ∨ opener = "```") := by
  rw [commentRegex, covers_textStart, covers_cat]
  simp only [covers_rep_set, contains_asciiSpace, covers_alt, covers_spelled_last]
  apply and_congr_right
  intro _
  constructor
  · intro h
    obtain ⟨lead, opener, rfl, hlead, hopener⟩ := h
    refine ⟨lead, .ofList opener, by rw [String.toList_ofList], hlead, ?_⟩
    simp only [← String.toList_inj, String.toList_ofList]
    exact hopener
  · intro h
    obtain ⟨lead, opener, rfl, hlead, hopener⟩ := h
    refine ⟨lead, opener.toList, rfl, hlead, ?_⟩
    simp only [← String.toList_inj] at hopener
    exact hopener

/-- The comments are the texts in which that pattern is found. -/
theorem isComment_eq_matchesIn (text : String) : isComment text = commentRegex.matchesIn text := by
  rw [Bool.eq_iff_iff, isComment_iff_opens, matchesIn_iff_covers]
  constructor
  · intro h
    obtain ⟨lead, opener, rest, rfl, hlead, hopener⟩ := h
    refine ⟨[], (lead ++ opener).toList, rest.toList, by simp, covers_commentRegex.mpr ?_⟩
    exact ⟨rfl, lead.toList, opener, String.toList_append, hlead, hopener⟩
  · intro h
    obtain ⟨_, _, rest, htext, hcovers⟩ := h
    obtain ⟨rfl, lead, opener, rfl, hlead, hopener⟩ := covers_commentRegex.mp hcovers
    refine ⟨.ofList lead, opener, .ofList rest, ?_, by simpa [Blank] using hlead, hopener⟩
    rw [← String.toList_inj, htext]
    simp

theorem classify_standard_iff (t : Token) :
    Classifier.standard.classify [] t = some t.violation ↔
      Opens t.text ∧ ¬ Directs isSpace t.text := by
  rw [Classifier.classify_eq, ite_eq_left_iff]
  simp only [reduceCtorEq, imp_false, not_not, Classifier.rejects_iff, List.not_mem_nil,
    false_imp_iff, implies_true, and_true, isComment_iff_opens]
  apply and_congr_right
  intro ho
  rw [← isSuppressed_standard_of_opens ho, Bool.not_eq_true]

/-- Without tags the standard classifier reports a token, at its place, exactly if its text opens as
a comment behind white space of ASCII and is no directive behind such white space. Whatever echoes a
tag is a comment. Both tests are those of patterns: the standard pattern compiles to the classifier,
and that of comments to an expression that is found in the comments and nowhere else. -/
theorem standard_classifier_forms :
    (∀ t : Token, Classifier.standard.classify [] t = some ⟨11, t.line, t.column⟩ ↔
      Opens t.text ∧ ¬ Directs isSpace t.text) ∧
    (∀ text tag, startsWithTag text tag = true → isComment text = true) ∧
    Classifier.ofPattern? standardSuppression = some .standard ∧
    ∃ r, Regex.compile? commentPattern = some r ∧ ∀ text, isComment text = r.matchesIn text :=
  ⟨classify_standard_iff, fun _ _ => isComment_of_startsWithTag, ofPattern?_standard,
    commentRegex, compile?_commentPattern, isComment_eq_matchesIn⟩

/-- A line feed behind the marker makes a directive a comment like any other. -/
theorem standard_classifier_forms_sample :
    (Opens " #//TICS\n" ∧ ¬ Directs isSpace " #//TICS\n") ∧ isComment "# smoke test" = true := by
  obtain ⟨hforms, hechoes, _⟩ := standard_classifier_forms
  refine ⟨(hforms ⟨0, 1, 0, " #//TICS\n", true⟩).mp ?_, hechoes "# smoke test" "smoke" ?_⟩
  · decide +kernel
  · decide

end FeatureLint.Comment
