import FeatureLint.Proofs.WholeValues

namespace FeatureLint.Json

theorem skipText_escaped (s : List Char) {bound : Nat} (hbound : s.length < bound)
    (rest : List Char) : skipText bound (s.flatMap escapeChar ++ '"' :: rest) = .ok rest := by
  induction s generalizing bound with
  | nil =>
    cases bound with
    | zero => cases hbound
    | succ bound => simp [skipText]
  | cons c s ih =>
    cases bound with
    | zero => cases hbound
    | succ bound =>
      have hlater := ih (Nat.succ_lt_succ_iff.mp hbound)
      rw [List.flatMap_cons, List.append_assoc]
      rcases escapeChar_cases c with ⟨hself, hquote, hslash, hsmall⟩ |
        ⟨letter, hletter, _, hsimple⟩ | ⟨hnumber, hsmall⟩
      · rw [hself, List.singleton_append, skipText.eq_def]
        simp [hquote, hslash, hsmall, hlater]
      · rw [hletter, List.cons_append, List.singleton_append, skipText.eq_def]
        simp [hsimple, hlater]
      · rw [hnumber]
        simp only [List.cons_append, List.nil_append]
        rw [skipText.eq_def]
        simp [hexFour_low hsmall, bind, Except.bind, hlater]

theorem skipText_quoted {s : String} {size : Nat} (hsize : (quoted s).length ≤ size)
    (rest : List Char) :
    skipText (size + 1) (s.toList.flatMap escapeChar ++ '"' :: rest) = .ok rest := by
  have hlt := length_lt_quoted s
  exact skipText_escaped _ (by omega) rest

theorem skipNumber_chars {n : Number} (hn : n.Sound) {rest : List Char} (hrest : Ended rest) :
    skipNumber (n.chars ++ rest) = .ok rest := by
  rw [skipNumber, numeral_chars hn hrest]

theorem skipScalar_spells {v : Value} {cs : List Char} (h : Spells v cs) (hplain : v.Plain)
    {depth size : Nat} (hv : v.Fits depth) (hsize : cs.length ≤ size) {rest : List Char}
    (hrest : Ended rest) : skipScalar size (cs ++ rest) = .ok rest := by
  cases h with
  | null => exact word_append "ull".toList rest
  | bool b =>
    cases b with
    | true => exact word_append "rue".toList rest
    | false => exact word_append "alse".toList rest
  | text s =>
    rw [quoted_append, skipScalar]
    exact skipText_quoted hsize rest
  | number n =>
    have hn : n.Sound := hv.sound n rfl
    obtain ⟨c, tail, hchars, hc⟩ := chars_start hn
    obtain ⟨hnull, htrue, hfalse, hquote, _⟩ := ne_of_start hc
    have hnumber := skipNumber_chars hn hrest
    rw [hchars, List.cons_append] at hnumber ⊢
    rw [skipScalar, if_pos (by simpa using hc), hnumber]
    all_goals assumption
  | list items listing => exact hplain.elim
  | object fields listing => exact hplain.elim

/-- The text of a value is passed over in at most two turns for every character, whatever brackets
are open around it. -/
def Passes (size : Nat) (text : List Char) : Prop :=
  ∃ turns ≤ 2 * text.length, ∀ k opened gap rest, Blank gap → Ended rest →
    skipLoop size (k + turns) .value opened (gap ++ (text ++ rest)) =
      skipLoop size k .next opened rest

/-- A piece inside an open bracket is passed over, its key included if it has one. -/
def PassesPiece (size : Nat) (b : Bracket) (piece : List Char) : Prop :=
  ∃ turns ≤ 2 * piece.length, ∀ k opened gap rest, Blank gap → Ended rest →
    (do skipLoop size (k + turns) .value opened (← skipKey size b (gap ++ (piece ++ rest)))) =
      skipLoop size k .next opened rest

theorem Passes.piece {size : Nat} {text : List Char} (h : Passes size text) :
    PassesPiece size .list text := h

/-- A key costs no turn. -/
theorem Passes.field {size : Nat} {text behind : List Char} (h : Passes size text)
    (hbehind : Assigns text behind) {key : String} (hsize : (quoted key).length ≤ size) :
    PassesPiece size .object (quoted key ++ behind) := by
  obtain ⟨turns, hturns, hpass⟩ := h
  have hlength := hbehind.length_le
  refine ⟨turns, by rw [List.length_append]; omega, ?_⟩
  intro k opened gap rest hgap hrest
  rw [List.append_assoc, quoted_append, skipKey, skipBlank_gap hgap rfl]
  simp only [bind, Except.bind, skipText_quoted hsize]
  cases hbehind with
  | colon blank blank' =>
    rw [List.append_assoc, List.cons_append, List.append_assoc, ← List.nil_append (_ ++ _),
      colon_gap blank_nil blank]
    exact hpass k opened _ rest blank' hrest

section

variable {size : Nat} {b : Bracket} {pieces : List (List Char)} {text : List Char}

theorem closing_cases (b : Bracket) : b.closing = ']' ∨ b.closing = '\x7d' := by
  cases b with
  | list => exact Or.inl rfl
  | object => exact Or.inr rfl

theorem skipLoop_following (hf : Following b.closing pieces text)
    (hpass : ∀ piece ∈ pieces, PassesPiece size b piece) :
    ∃ turns < 2 * text.length, ∀ k opened rest,
      skipLoop size (k + turns) .next (b :: opened) (text ++ rest) =
        skipLoop size k .next opened rest := by
  have hclosing : isBlank b.closing = false := by
    cases b <;> rfl
  induction hf with
  | done blank =>
    refine ⟨1, by rw [List.length_append, List.length_singleton]; omega, ?_⟩
    intro k opened rest
    rw [List.append_assoc, List.singleton_append, skipLoop, skipBlank_gap blank hclosing]
    simp
  | @more gap gap' piece text pieces blank blank' following ih =>
    rw [List.forall_mem_cons] at hpass
    obtain ⟨turns, hturns, hpiece⟩ := hpass.1
    obtain ⟨turns', hturns', hothers⟩ := ih hpass.2
    refine ⟨turns' + turns + 1, ?_, ?_⟩
    · simp only [List.length_append, List.length_cons]
      omega
    intro k opened rest
    have hcomma : ',' ≠ b.closing := by
      cases b <;> decide
    have hended := following.ended (closing_cases b) rest
    rw [List.append_assoc, List.cons_append, ← Nat.add_assoc, ← Nat.add_assoc, skipLoop,
      skipBlank_gap blank rfl]
    simp only [if_neg hcomma, if_pos]
    rw [List.append_assoc, List.append_assoc, hpiece _ _ _ _ blank' hended, hothers]

/-- The pieces behind an opening bracket are passed over together with the closing one. -/
theorem skipLoop_listing (hl : Listing b.closing pieces text)
    (hsolid : ∀ piece ∈ pieces, Solid piece) (hpass : ∀ piece ∈ pieces, PassesPiece size b piece) :
    ∃ turns ≤ 2 * text.length, ∀ k opened rest,
      skipLoop size (k + turns) .first (b :: opened) (text ++ rest) =
        skipLoop size k .next opened rest := by
  have hclosing : isBlank b.closing = false := by
    cases b <;> rfl
  cases hl with
  | nothing blank =>
    refine ⟨1, by rw [List.length_append, List.length_singleton]; omega, ?_⟩
    intro k opened rest
    rw [List.append_assoc, List.singleton_append, skipLoop, skipBlank_gap blank hclosing]
    simp
  | @first gap piece text pieces blank following =>
    rw [List.forall_mem_cons] at hpass hsolid
    obtain ⟨turns, hturns, hpiece⟩ := hpass.1
    obtain ⟨turns', hturns', hothers⟩ := skipLoop_following following hpass.2
    refine ⟨turns' + turns + 1, ?_, ?_⟩
    · simp only [List.length_append]
      omega
    intro k opened rest
    have hended := following.ended (closing_cases b) rest
    have hbare := hpiece (k + turns') (b :: opened) [] _ blank_nil hended
    obtain ⟨c, tail, rfl, hblank, hlist, hobject⟩ := hsolid.1
    have hother : c ≠ b.closing := by
      cases b with
      | list => exact hlist
      | object => exact hobject
    rw [List.append_assoc, List.append_assoc, List.cons_append, ← Nat.add_assoc, ← Nat.add_assoc,
      skipLoop, skipBlank_gap blank hblank]
    simp only [if_neg hother]
    rw [List.nil_append, List.cons_append] at hbare
    rw [hbare, hothers]

/-- An opening bracket takes a turn of its own. -/
theorem passes_listing {start : Char}
    (hopen : ∀ k opened gap rest, Blank gap →
      skipLoop size (k + 1) .value opened (gap ++ start :: rest) =
        skipLoop size k .first (b :: opened) rest)
    (hl : Listing b.closing pieces text) (hsolid : ∀ piece ∈ pieces, Solid piece)
    (hpass : ∀ piece ∈ pieces, PassesPiece size b piece) : Passes size (start :: text) := by
  obtain ⟨turns, hturns, hlisting⟩ := skipLoop_listing hl hsolid hpass
  refine ⟨turns + 1, by rw [List.length_cons]; omega, ?_⟩
  intro k opened gap rest hgap _
  rw [List.cons_append, ← Nat.add_assoc, hopen _ _ _ _ hgap, hlisting]

end

theorem passes_plain {size depth : Nat} {v : Value} {cs : List Char} (h : Spells v cs)
    (hplain : v.Plain) (hv : v.Fits depth) (hsize : cs.length ≤ size) : Passes size cs := by
  obtain ⟨c, tail, rfl, hlist, hobject⟩ := h.start_plain hplain hv
  obtain ⟨c', tail', heq, hblank, _⟩ := h.solid hv.sound
  obtain ⟨rfl, rfl⟩ := List.cons.inj heq
  refine ⟨1, by rw [List.length_cons]; omega, ?_⟩
  intro k opened gap rest hgap hrest
  rw [List.cons_append, skipLoop, skipBlank_gap hgap hblank]
  split
  · simp_all
  · simp_all
  · rw [← List.cons_append, skipScalar_spells h hplain hv hsize hrest]
    rfl

theorem SpellsFields.solid {fs : List (String × Value)} {pieces : List (List Char)}
    (h : SpellsFields fs pieces) : ∀ piece ∈ pieces, Solid piece := by
  induction fs generalizing pieces with
  | nil =>
    cases h
    simp
  | cons f fs ih =>
    cases h with
    | cons spells assigns others =>
      rw [List.forall_mem_cons]
      exact ⟨⟨'"', _, quoted_append _ _, by decide⟩, ih others⟩

theorem passes_fields {size : Nat} {fs : List (String × Value)}
    (hpass : ∀ f ∈ fs, ∀ text, Spells f.2 text → text.length ≤ size → Passes size text)
    {pieces : List (List Char)} (hspells : SpellsFields fs pieces)
    (hsize : ∀ piece ∈ pieces, piece.length ≤ size) :
    ∀ piece ∈ pieces, PassesPiece size .object piece := by
  induction fs generalizing pieces with
  | nil =>
    cases hspells
    simp
  | cons f fs ih =>
    cases hspells with
    | cons spells assigns others =>
      rw [List.forall_mem_cons] at hpass hsize ⊢
      have hlength := assigns.length_le
      rw [List.length_append] at hsize
      have hvalue := hpass.1 _ spells (by omega)
      exact ⟨hvalue.field assigns (by omega), ih hpass.2 others hsize.2⟩

theorem forall_of_forall₂ {α β : Type} {R : α → β → Prop} {P : β → Prop} {as : List α} {bs : List β}
    (h : List.Forall₂ R as bs) (himp : ∀ a ∈ as, ∀ b ∈ bs, R a b → P b) : ∀ b ∈ bs, P b := by
  induction h with
  | nil => simp
  | cons hhead _ ih =>
    rw [List.forall_mem_cons]
    refine ⟨himp _ (by simp) _ (by simp) hhead, ih ?_⟩
    intro a ha b hb
    exact himp a (List.mem_cons_of_mem _ ha) b (List.mem_cons_of_mem _ hb)

theorem passes_value {size depth : Nat} {v : Value} {cs : List Char} (h : Spells v cs)
    (hv : v.Fits depth) (hsize : cs.length ≤ size) : Passes size cs := by
  induction depth generalizing v cs with
  | zero =>
    refine passes_plain h ?_ hv hsize
    cases v with
    | list vs => exact hv.elim
    | object fs => exact hv.elim
    | _ => trivial
  | succ depth ih =>
    cases h with
    | @list vs pieces body items listing =>
      rw [List.length_cons] at hsize
      have hpieces := forall_of_forall₂ (P := fun piece => Solid piece ∧ Passes size piece) items
        fun v hmem piece hpiece hspells => by
          have hle := listing.length_le piece hpiece
          exact ⟨hspells.solid (hv v hmem).sound, ih hspells (hv v hmem) (by omega)⟩
      refine passes_listing (b := .list) ?_ listing (fun piece hp => (hpieces piece hp).1)
        fun piece hp => (hpieces piece hp).2.piece
      intro k opened gap rest hgap
      rw [skipLoop, skipBlank_gap hgap rfl]
      rfl
    | @object fs pieces body fields listing =>
      rw [List.length_cons] at hsize
      have hpieces := passes_fields
        (fun f hmem text hspells hle => ih hspells (hv f hmem) hle) fields
        fun piece hpiece => Nat.le_trans (listing.length_le piece hpiece) (by omega)
      refine passes_listing (b := .object) ?_ listing fields.solid hpieces
      intro k opened gap rest hgap
      rw [skipLoop, skipBlank_gap hgap rfl]
      rfl
    | null => exact passes_plain .null trivial hv hsize
    | bool b => exact passes_plain (.bool b) trivial hv hsize
    | number n => exact passes_plain (.number n) trivial hv hsize
    | text s => exact passes_plain (.text s) trivial hv hsize

/-- The text of a value is passed over to its end and no further. -/
theorem skipValue_spells {size depth : Nat} {v : Value} {cs : List Char} (h : Spells v cs)
    (hv : v.Fits depth) (hsize : cs.length ≤ size) {gap rest : List Char} (hgap : Blank gap)
    (hrest : Ended rest) : skipValue size (gap ++ (cs ++ rest)) = .ok rest := by
  obtain ⟨turns, hturns, hpass⟩ := passes_value h hv hsize
  obtain ⟨spare, hspare⟩ : ∃ spare, 2 * size + 2 = spare + 1 + turns :=
    ⟨2 * size + 1 - turns, by omega⟩
  rw [skipValue, hspare, hpass _ _ _ _ hgap hrest, skipLoop]
  decide

end FeatureLint.Json
