import FeatureLint.Report
import Mathlib.Data.List.Basic

namespace FeatureLint

namespace Text

/-- The character that starts an escape sequence. -/
def escape : Char := '\x1b'

/-- Leaves out escape sequences, each up to the next `m`. The text may start inside of one. -/
def stripLoop : Bool → List Char → List Char
  | _, [] => []
  | true, c :: cs => stripLoop (c != 'm') cs
  | false, c :: cs => if c = escape then stripLoop true cs else c :: stripLoop false cs

def withoutEscapes (s : String) : String := String.ofList (stripLoop false s.toList)

/-- A text reads as another one, whatever follows. -/
def ReadsAs (styled plain : String) : Prop :=
  ∀ rest, stripLoop false (styled.toList ++ rest) = plain.toList ++ stripLoop false rest

theorem ReadsAs.withoutEscapes {styled plain : String} (h : ReadsAs styled plain) :
    withoutEscapes styled = plain := by
  have hend := h []
  rw [List.append_nil, stripLoop, List.append_nil] at hend
  rw [Text.withoutEscapes, hend, String.ofList_toList]

theorem ReadsAs.append {a b a' b' : String} (ha : ReadsAs a a') (hb : ReadsAs b b') :
    ReadsAs (a ++ b) (a' ++ b') := by
  intro rest
  rw [String.toList_append, String.toList_append, List.append_assoc, List.append_assoc, ha, hb]

theorem stripLoop_plain {cs : List Char} (h : escape ∉ cs) (rest : List Char) :
    stripLoop false (cs ++ rest) = cs ++ stripLoop false rest := by
  induction cs with
  | nil => rfl
  | cons c cs ih =>
    rw [List.mem_cons, not_or] at h
    rw [List.cons_append, stripLoop, if_neg (Ne.symm h.1), ih h.2, List.cons_append]

theorem readsAs_self {s : String} (h : escape ∉ s.toList) : ReadsAs s s := stripLoop_plain h

theorem ReadsAs.plain {a a' s : String} (ha : ReadsAs a a') (h : escape ∉ s.toList) :
    ReadsAs (a ++ s) (a' ++ s) :=
  ha.append (readsAs_self h)

theorem stripLoop_inside {codes : List Char} (h : 'm' ∉ codes) (rest : List Char) :
    stripLoop true (codes ++ 'm' :: rest) = stripLoop false rest := by
  induction codes with
  | nil => rfl
  | cons c codes ih =>
    rw [List.mem_cons, not_or] at h
    have hgoes : (c != 'm') = true := by simpa using Ne.symm h.1
    rw [List.cons_append, stripLoop, hgoes, ih h.2]

/-- An escape sequence does not show. -/
theorem readsAs_sequence {codes : String} (h : 'm' ∉ codes.toList) :
    ReadsAs ("\x1b[" ++ codes ++ "m") "" := by
  intro rest
  have hfree : 'm' ∉ '[' :: codes.toList := by simpa using h
  have hsplit : ("\x1b[" ++ codes ++ "m").toList ++ rest =
      escape :: (('[' :: codes.toList) ++ 'm' :: rest) := by
    simp [escape]
  rw [hsplit, stripLoop, if_pos rfl, stripLoop_inside hfree]
  rfl

theorem codes_free (s : Style) : 'm' ∉ (String.intercalate ";" s.codes).toList := by
  obtain ⟨bold, dimmed, color⟩ := s
  cases bold <;> cases dimmed <;> (cases color with | none => decide | some c => cases c <;> decide)

/-- Of a styled text only the text itself shows. -/
theorem readsAs_paint (s : Style) {text : String} (h : escape ∉ text.toList) :
    ReadsAs (paint true s text) (paint false s text) := by
  have hstart := readsAs_sequence (codes_free s)
  have hend : ReadsAs ("\x1b[" ++ "0" ++ "m") "" := readsAs_sequence (by decide)
  have hall := (hstart.append (readsAs_self h)).append hend
  rwa [String.empty_append, String.append_empty] at hall

theorem readsAs_colored (c : Color) {text : String} (h : escape ∉ text.toList) :
    ReadsAs (colored true c text) (colored false c text) :=
  readsAs_paint _ h

theorem escape_free_nat (n : Nat) : escape ∉ (toString n).toList := by
  intro h
  have hdigit : escape.isDigit = true := by
    apply Nat.isDigit_of_mem_toDigits (b := 10) (by decide) (by decide)
    simpa [Nat.toString_eq_ofList_toDigits] using h
  exact absurd hdigit (by decide)

theorem escape_free_padLeft (width : Nat) {text : String} (h : escape ∉ text.toList) :
    escape ∉ (padLeft width text).toList := by
  have hblank : escape ≠ ' ' := by decide
  simp [padLeft, h, hblank]

end Text

/-- No text of an issue that a report shows has an escape character. -/
structure Issue.EscapeFree (i : Issue) : Prop where
  file : Text.escape ∉ i.file.toList
  message : Text.escape ∉ i.message.toList
  source : ∀ source, i.sourceLine = some source → Text.escape ∉ source.toList

namespace Report

open Text

theorem readsAs_bar : ReadsAs (bar true) (bar false) := readsAs_colored .blue (by decide)

theorem readsAs_headLines {i : Issue} (h : i.EscapeFree) :
    ReadsAs (headLines true i) (headLines false i) := by
  have hlabel : escape ∉ i.label.toList := by
    simpa [Issue.label, escape] using escape_free_nat i.violation.rule
  exact (readsAs_paint _ (by decide)).plain (by decide) |>.plain h.message |>.plain (by decide)
    |>.append (readsAs_paint _ hlabel) |>.plain (by decide) |>.plain (by decide)
    |>.append (readsAs_colored .blue (by decide)) |>.plain (by decide) |>.plain h.file
    |>.plain (by decide) |>.plain (escape_free_nat _) |>.plain (by decide)
    |>.plain (escape_free_nat _) |>.plain (by decide)

theorem readsAs_sourceLines (width : Nat) (i : Issue) {source : String}
    (h : escape ∉ source.toList) :
    ReadsAs (sourceLines true width i source) (sourceLines false width i source) := by
  have hblank : escape ∉ (padLeft width "").toList := escape_free_padLeft width (by decide)
  have hline : escape ∉ (padLeft width (toString i.violation.line)).toList :=
    escape_free_padLeft width (escape_free_nat _)
  exact (readsAs_self hblank).plain (by decide) |>.append readsAs_bar |>.plain (by decide)
    |>.append (readsAs_colored .blue hline) |>.plain (by decide) |>.append readsAs_bar
    |>.plain (by decide) |>.plain h |>.plain (by decide)

theorem readsAs_caretLine (width : Nat) (i : Issue) (source : String) :
    ReadsAs (caretLine true width i source) (caretLine false width i source) := by
  have hblank : ∀ n, escape ∉ (padLeft n "").toList := fun n => escape_free_padLeft n (by decide)
  exact (readsAs_self (hblank width)).plain (by decide) |>.append readsAs_bar |>.plain (by decide)
    |>.plain (hblank _) |>.append (readsAs_colored .red (by decide)) |>.plain (by decide)

theorem readsAs_summary (issues : List Issue) :
    ReadsAs (summary true issues) (summary false issues) := by
  have hproblems : escape ∉ (if issues.length = 1 then "problem" else "problems").toList := by
    split <;> decide
  have hfiles : escape ∉
      (if (issues.map (·.file)).eraseDups.length = 1 then "file" else "files").toList := by
    split <;> decide
  exact (readsAs_colored .red (by decide)).plain (by decide) |>.plain (escape_free_nat _)
    |>.plain (by decide) |>.append (readsAs_colored .red hproblems) |>.plain (by decide)
    |>.plain (escape_free_nat _) |>.plain (by decide) |>.plain hfiles |>.plain (by decide)

/-- Two reports break off alike, and one reads as the other. -/
def Written.ReadsAs (styled plain : Written) : Prop :=
  styled.fault = plain.fault ∧ Text.ReadsAs styled.text plain.text

theorem readsAs_block (width : Nat) {i : Issue} (h : i.EscapeFree) :
    (block true width i).ReadsAs (block false width i) := by
  have hhead := readsAs_headLines h
  unfold block
  split
  · exact ⟨rfl, readsAs_self (by decide)⟩
  · cases hsource : i.sourceLine with
    | none => exact ⟨rfl, hhead.plain (by decide)⟩
    | some source =>
      have hshown := hhead.append (readsAs_sourceLines width i (h.source source hsource))
      dsimp only
      split
      · exact ⟨rfl, hshown⟩
      · exact ⟨rfl, hshown.append (readsAs_caretLine width i source) |>.plain (by decide)⟩

/-- Block by block, up to the first that breaks off. -/
theorem readsAs_blocks (width : Nat) {last last' : String} (hlast : Text.ReadsAs last last')
    {issues : List Issue} (h : ∀ i ∈ issues, i.EscapeFree) :
    (blocks true width last issues).ReadsAs (blocks false width last' issues) := by
  induction issues with
  | nil => exact ⟨rfl, hlast⟩
  | cons i issues ih =>
    obtain ⟨hfault, htext⟩ := readsAs_block width (h i (by simp))
    obtain ⟨hmore, hrest⟩ := ih fun j hj => h j (by simp [hj])
    rw [blocks, blocks]
    simp only [hfault]
    split
    · exact ⟨rfl, htext⟩
    · exact ⟨hmore, htext.append hrest⟩

/-- A report in colours breaks off where the plain one does, if at all, and says the same as far as
it gets: without its escape sequences it is the plain one, character by character, unless the issues
themselves have escape characters. -/
theorem render_colors (issues : List Issue) (h : ∀ i ∈ issues, i.EscapeFree) :
    (render true issues).fault = (render false issues).fault ∧
      withoutEscapes (render true issues).text = (render false issues).text := by
  have hsorted : ∀ i ∈ Issue.sort issues, i.EscapeFree := fun i hi =>
    h i (List.mem_mergeSort.mp hi)
  have hreads : (render true issues).ReadsAs (render false issues) := by
    unfold render
    split
    · exact ⟨rfl, readsAs_self (by decide)⟩
    · exact readsAs_blocks _ (readsAs_summary _) hsorted
  exact ⟨hreads.1, hreads.2.withoutEscapes⟩

/-- Two issues in order, one of them with the line of the source that it is on. -/
def sampleIssues : List Issue :=
  [⟨"a.feature", ⟨11, 9, 0⟩, Rule.synopsis, none⟩,
    ⟨"b.feature", ⟨11, 120, 2⟩, Rule.synopsis, some "  # note"⟩]

theorem render_sampleIssues (colors : Bool) : render colors sampleIssues =
    blocks colors 3 (summary colors sampleIssues) sampleIssues := by
  have hsorted : Issue.sort sampleIssues = sampleIssues :=
    List.mergeSort_of_pairwise (by decide +kernel)
  rw [render, if_neg (by decide), hsorted]
  rfl

theorem render_colors_sample :
    (∀ i ∈ sampleIssues, i.EscapeFree) ∧ (render true sampleIssues).fault = none ∧
      withoutEscapes (render true sampleIssues).text = (render false sampleIssues).text := by
  have hfree : ∀ i ∈ sampleIssues, i.EscapeFree := by
    simp only [sampleIssues, List.forall_mem_cons]
    refine ⟨⟨by decide, by decide, by simp⟩, ⟨by decide, by decide, ?_⟩, by simp⟩
    rintro source ⟨⟩
    decide
  refine ⟨hfree, ?_, (render_colors sampleIssues hfree).2⟩
  rw [render_sampleIssues]
  decide +kernel

end Report

end FeatureLint
