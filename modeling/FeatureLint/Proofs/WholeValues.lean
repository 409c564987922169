import FeatureLint.Proofs.Numerals

namespace FeatureLint.Json

/-- A value with at most so many lists and objects open at once, all of whose numbers can be
read. -/
def Value.Fits : Nat → Value → Prop
  | _, .null => True
  | _, .bool _ => True
  | _, .number n => n.Sound
  | _, .text _ => True
  | 0, .list _ => False
  | 0, .object _ => False
  | depth + 1, .list vs => ∀ v ∈ vs, v.Fits depth
  | depth + 1, .object fs => ∀ f ∈ fs, f.2.Fits depth

theorem Value.Fits.mono {depth depth' : Nat} (h : depth ≤ depth') {v : Value} (hv : v.Fits depth) :
    v.Fits depth' := by
  induction depth generalizing depth' v with
  | zero =>
    cases v with
    | list vs => exact absurd hv (by simp [Value.Fits])
    | object fs => exact absurd hv (by simp [Value.Fits])
    | number n => simpa [Value.Fits] using hv
    | _ => simp [Value.Fits]
  | succ depth ih =>
    cases depth' with
    | zero => omega
    | succ depth' =>
      cases v with
      | list vs => exact fun v hm => ih (by omega) (hv v hm)
      | object fs => exact fun f hm => ih (by omega) (hv f hm)
      | number n => simpa [Value.Fits] using hv
      | _ => simp [Value.Fits]

theorem word_append (ws cs : List Char) : word ws (ws ++ cs) = .ok cs := by
  induction ws with
  | nil => rfl
  | cons w ws ih => simp [word, ih]

theorem Spells.solid {v : Value} {cs : List Char} (h : Spells v cs)
    (hnumber : ∀ n, v = .number n → n.Sound) : Solid cs := by
  cases h with
  | null => exact ⟨'n', _, rfl, by decide⟩
  | bool b =>
    cases b with
    | true => exact ⟨'t', _, rfl, by decide⟩
    | false => exact ⟨'f', _, rfl, by decide⟩
  | text s => exact ⟨'"', _, quoted_eq s, by decide⟩
  | list items listing => exact ⟨'[', _, rfl, by decide⟩
  | object fields listing => exact ⟨'\x7b', _, rfl, by decide⟩
  | number n =>
    obtain ⟨c, tail, hchars, hc⟩ := chars_start (hnumber n rfl)
    refine ⟨c, tail, hchars, not_blank_of_start hc, ?_⟩
    constructor <;> rintro rfl <;> rcases hc with hc | hc <;> exact absurd hc (by decide)

theorem Value.Fits.sound {depth : Nat} {v : Value} (hv : v.Fits depth) :
    ∀ n, v = .number n → n.Sound := by
  rintro n rfl
  simpa [Value.Fits] using hv

/-- A value that holds no other values. -/
def Value.Plain : Value → Prop
  | .list _ => False
  | .object _ => False
  | _ => True

/-- What starts a number starts nothing else. -/
theorem ne_of_start {c : Char} (h : c = '-' ∨ c.isDigit = true) :
    c ≠ 'n' ∧ c ≠ 't' ∧ c ≠ 'f' ∧ c ≠ '"' ∧ c ≠ '[' ∧ c ≠ '\x7b' := by
  refine ⟨?_, ?_, ?_, ?_, ?_, ?_⟩ <;> rintro rfl <;> rcases h with h | h <;>
    exact absurd h (by decide)

section

variable {v : Value} {cs rest : List Char} (h : Spells v cs) (hplain : v.Plain) {depth size : Nat}
  (hv : v.Fits depth) (hsize : cs.length ≤ size) (hrest : Ended rest)

include h hplain hv

theorem Spells.start_plain : ∃ c tail, cs = c :: tail ∧ c ≠ '[' ∧ c ≠ '\x7b' := by
  cases h with
  | null => exact ⟨'n', _, rfl, by decide⟩
  | bool b =>
    cases b with
    | true => exact ⟨'t', _, rfl, by decide⟩
    | false => exact ⟨'f', _, rfl, by decide⟩
  | text s => exact ⟨'"', _, quoted_eq s, by decide⟩
  | number n =>
    obtain ⟨c, tail, hchars, hc⟩ := chars_start (hv.sound n rfl)
    obtain ⟨_, _, _, _, hlist, hobject⟩ := ne_of_start hc
    exact ⟨c, tail, hchars, hlist, hobject⟩
  | list items listing => exact hplain.elim
  | object fields listing => exact hplain.elim

include hsize hrest

theorem scalar_spells : scalar size (cs ++ rest) = .ok (v, rest) := by
  cases h with
  | null =>
    change scalar size ('n' :: ("ull".toList ++ rest)) = _
    rw [scalar, word_append]
    rfl
  | bool b =>
    cases b with
    | true =>
      change scalar size ('t' :: ("rue".toList ++ rest)) = _
      rw [scalar, word_append]
      rfl
    | false =>
      change scalar size ('f' :: ("alse".toList ++ rest)) = _
      rw [scalar, word_append]
      rfl
  | text s =>
    rw [quoted_append, scalar, textBody_quoted hsize]
    rfl
  | number n =>
    have hn : n.Sound := hv.sound n rfl
    obtain ⟨c, tail, hchars, hc⟩ := chars_start hn
    obtain ⟨hnull, htrue, hfalse, hquote, _⟩ := ne_of_start hc
    have hnumber := number_chars hn hrest
    rw [hchars, List.cons_append] at hnumber ⊢
    rw [scalar, if_pos (by simpa using hc), hnumber]
    · rfl
    all_goals assumption
  | list items listing => exact hplain.elim
  | object fields listing => exact hplain.elim

end

theorem takes_boolean (b : Bool) (size : Nat) : Takes (boolean size) (Value.bool b).chars b := by
  intro gap rest hgap _
  cases b with
  | true =>
    change boolean size (gap ++ 't' :: ("rue".toList ++ rest)) = _
    rw [boolean, skipBlank_gap hgap rfl]
    simp only [word_append]
    rfl
  | false =>
    change boolean size (gap ++ 'f' :: ("alse".toList ++ rest)) = _
    rw [boolean, skipBlank_gap hgap rfl]
    simp only [word_append]
    rfl

theorem takes_optional_null {α : Type} (item : Reader α) :
    Takes (optional item) Value.null.chars none := by
  intro gap rest hgap _
  change optional item (gap ++ 'n' :: ("ull".toList ++ rest)) = _
  rw [optional, skipBlank_gap hgap rfl]
  simp only [word_append]
  rfl

theorem takes_optional_text {s : String} {size : Nat} (hsize : (quoted s).length ≤ size) :
    Takes (optional (text size)) (quoted s) (some s) := by
  intro gap rest hgap hrest
  have htext := (takes_text hsize).bare hrest
  rw [quoted_append] at htext ⊢
  rw [optional, skipBlank_gap hgap rfl]
  split
  · simp_all
  · rw [htext]
    rfl

/-- A relation between the items of two lists that holds for the members of these lists. -/
theorem forall₂_of_mem {α β : Type} {R S : α → β → Prop} {as : List α} {bs : List β}
    (h : List.Forall₂ R as bs) (himp : ∀ a ∈ as, ∀ b ∈ bs, R a b → S a b) :
    List.Forall₂ S as bs := by
  induction h with
  | nil => exact .nil
  | cons hhead _ ih =>
    refine .cons (himp _ (by simp) _ (by simp) hhead) (ih ?_)
    intro a ha b hb
    exact himp a (List.mem_cons_of_mem _ ha) b (List.mem_cons_of_mem _ hb)

theorem Assigns.length_le {text behind : List Char} (h : Assigns text behind) :
    text.length < behind.length := by
  cases h with
  | colon blank blank' =>
    simp only [List.length_append, List.length_cons]
    omega

/-- Fields are collected backwards. -/
theorem steps_collect {size depth : Nat} {fs : List (String × Value)}
    (hread : ∀ f ∈ fs, ∀ text, Spells f.2 text → text.length ≤ size →
      Takes (value size depth) text f.2)
    {pieces : List (List Char)} (hspells : SpellsFields fs pieces)
    (hsize : ∀ piece ∈ pieces, piece.length ≤ size) (done : List (String × Value)) :
    Steps (fun done key cs => do
      let (v, cs) ← value size depth (← colon cs)
      .ok ((key, v) :: done, cs)) done pieces (fs.reverse ++ done) := by
  induction fs generalizing pieces done with
  | nil =>
    cases hspells
    exact .done done
  | cons f fs ih =>
    cases hspells with
    | cons spells assigns others =>
      rw [List.forall_mem_cons] at hread hsize
      have hlength := assigns.length_le
      rw [List.length_append] at hsize
      have htakes := hread.1 _ spells (by omega)
      rw [List.reverse_cons, List.append_assoc, List.singleton_append]
      exact .step (htakes.field assigns (fun v => (_, v) :: done)) (ih hread.2 others hsize.2 _)

/-- The reader of values on the text of a plain one. -/
theorem value_plain {size depth : Nat} {gap : List Char} (hgap : Blank gap) {c : Char}
    (hblank : isBlank c = false) (hlist : c ≠ '[') (hobject : c ≠ '\x7b') (cs : List Char) :
    value size depth (gap ++ c :: cs) = scalar size (c :: cs) := by
  cases depth <;>
  · rw [value, skipBlank_gap hgap hblank]
    split
    · simp_all
    · simp_all
    · rfl

theorem takes_plain {size depth : Nat} {v : Value} {cs : List Char} (h : Spells v cs)
    (hplain : v.Plain) (hv : v.Fits depth) (hsize : cs.length ≤ size) :
    Takes (value size depth) cs v := by
  intro gap rest hgap hrest
  obtain ⟨c, tail, rfl, hlist, hobject⟩ := h.start_plain hplain hv
  obtain ⟨c', tail', heq, hblank, _⟩ := h.solid hv.sound
  obtain ⟨rfl, rfl⟩ := List.cons.inj heq
  rw [List.cons_append, value_plain hgap hblank hlist hobject, ← List.cons_append]
  exact scalar_spells h hplain hv hsize hrest

theorem takes_value {size depth : Nat} {v : Value} {cs : List Char} (h : Spells v cs)
    (hv : v.Fits depth) (hsize : cs.length ≤ size) : Takes (value size depth) cs v := by
  -- The depth bounds the nesting of the value and the recursion of the reader alike.
  induction depth generalizing v cs with
  | zero =>
    refine takes_plain h ?_ hv hsize
    cases v with
    | list vs => exact hv.elim
    | object fs => exact hv.elim
    | _ => trivial
  | succ depth ih =>
    cases h with
    | list items listing =>
      intro gap rest hgap _
      have hlength := listing.length_lt
      rw [List.length_cons] at hsize
      rw [value, List.cons_append, skipBlank_gap hgap rfl]
      simp only [bind, Except.bind]
      rw [items_listing listing (forall₂_of_mem items ?_) (by omega)]
      intro v hmem piece hpiece hspells
      have hle := listing.length_le piece hpiece
      exact ⟨hspells.solid (hv v hmem).sound, ih hspells (hv v hmem) (by omega)⟩
    | object fields listing =>
      intro gap rest hgap _
      rw [List.length_cons] at hsize
      have hsteps := steps_collect
        (fun f hmem text hspells hle => ih hspells (hv f hmem) hle) fields
        (fun piece hpiece => Nat.le_trans (listing.length_le piece hpiece) (by omega)) []
      rw [value, List.cons_append, skipBlank_gap hgap rfl]
      simp only [bind, Except.bind] at hsteps ⊢
      rw [fields_listing listing (by omega) hsteps]
      simp
    | null => exact takes_plain .null trivial hv hsize
    | bool b => exact takes_plain (.bool b) trivial hv hsize
    | number n => exact takes_plain (.number n) trivial hv hsize
    | text s => exact takes_plain (.text s) trivial hv hsize

/-- A text is read to its end, blanks around the value included. -/
theorem whole_of_takes {α : Type} {read : (size depth : Nat) → Reader α} {text : String}
    {v : Value} (h : SpelledBy text v) {a : α}
    (htakes : ∀ cs, Spells v cs → cs.length ≤ text.toList.length →
      Takes (read text.toList.length depthLimit) cs a) : whole read text = .ok a := by
  obtain ⟨before, cs, after, hbefore, hspells, hafter, htext⟩ := h
  have hlength : cs.length ≤ text.toList.length := by
    rw [htext]
    simp only [List.length_append]
    omega
  have hended : Ended after := by simpa using ended_gap hafter ended_nil
  have hread := htakes cs hspells hlength before after hbefore hended
  rw [← htext] at hread
  have hblank : skipBlank after = [] := by
    rw [← List.append_nil after, skipBlank_append hafter]
    rfl
  simp [whole, hread, hblank, bind, Except.bind]

end FeatureLint.Json
