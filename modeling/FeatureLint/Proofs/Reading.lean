import FeatureLint.Json.Record
import FeatureLint.Proofs.Spelling

namespace FeatureLint.Json

/-- No character that could belong to a number comes next. -/
def Ended (rest : List Char) : Prop :=
  ∀ c ∈ rest.head?, isBlank c = true ∨ c = ',' ∨ c = ']' ∨ c = '\x7d'

/-- The reader takes a text, and blanks in front of it, off what follows it. -/
def Takes {α : Type} (read : Reader α) (text : List Char) (a : α) : Prop :=
  ∀ gap rest, Blank gap → Ended rest → read (gap ++ (text ++ rest)) = .ok (a, rest)

/-- A text that starts with neither a blank nor a closing bracket. -/
def Solid (text : List Char) : Prop :=
  ∃ c tail, text = c :: tail ∧ isBlank c = false ∧ c ≠ ']' ∧ c ≠ '\x7d'

theorem skipBlank_append {gap : List Char} (h : Blank gap) (cs : List Char) :
    skipBlank (gap ++ cs) = skipBlank cs :=
  List.dropWhile_append_of_pos h

theorem skipBlank_cons {c : Char} (h : isBlank c = false) (cs : List Char) :
    skipBlank (c :: cs) = c :: cs := by
  simp [skipBlank, h]

theorem skipBlank_gap {gap : List Char} (hgap : Blank gap) {c : Char} (h : isBlank c = false)
    (cs : List Char) : skipBlank (gap ++ c :: cs) = c :: cs := by
  rw [skipBlank_append hgap, skipBlank_cons h]

theorem ended_nil : Ended [] := by simp [Ended]

theorem ended_gap {gap : List Char} (hgap : Blank gap) {rest : List Char} (h : Ended rest) :
    Ended (gap ++ rest) := by
  cases gap with
  | nil => exact h
  | cons c gap =>
    intro x hx
    obtain rfl : c = x := by simpa using hx
    exact Or.inl (hgap c (by simp))

theorem ended_cons {c : Char} (h : c = ',' ∨ c = ']' ∨ c = '\x7d') (cs : List Char) :
    Ended (c :: cs) := by
  intro x hx
  obtain rfl : c = x := by simpa using hx
  exact Or.inr h

section

variable {close : Char} {pieces : List (List Char)} {text : List Char}

theorem Following.ended (h : Following close pieces text) (hclose : close = ']' ∨ close = '\x7d')
    (rest : List Char) : Ended (text ++ rest) := by
  cases h with
  | done blank =>
    rw [List.append_assoc]
    exact ended_gap blank (ended_cons (Or.inr hclose) _)
  | more blank blank' others =>
    rw [List.append_assoc]
    exact ended_gap blank (ended_cons (Or.inl rfl) _)

theorem Following.length_lt (h : Following close pieces text) : pieces.length < text.length := by
  induction h with
  | done blank => simp
  | more blank blank' rest ih =>
    simp only [List.length_cons, List.length_append]
    omega

theorem Following.length_le (h : Following close pieces text) :
    ∀ piece ∈ pieces, piece.length ≤ text.length := by
  induction h with
  | done blank => simp
  | more blank blank' rest ih =>
    rw [List.forall_mem_cons]
    constructor
    · simp only [List.length_cons, List.length_append]
      omega
    · intro piece hpiece
      have hle := ih piece hpiece
      simp only [List.length_cons, List.length_append]
      omega

theorem Listing.length_lt (h : Listing close pieces text) : pieces.length < text.length + 1 := by
  cases h with
  | nothing blank => simp
  | first blank rest =>
    have hlt := rest.length_lt
    simp only [List.length_cons, List.length_append]
    omega

theorem Listing.length_le (h : Listing close pieces text) :
    ∀ piece ∈ pieces, piece.length ≤ text.length := by
  cases h with
  | nothing blank => simp
  | first blank rest =>
    rw [List.forall_mem_cons]
    constructor
    · simp only [List.length_append]
      omega
    · intro piece hpiece
      have hle := rest.length_le piece hpiece
      simp only [List.length_append]
      omega

end

section

variable {gap gap' piece : List Char} (hgap : Blank gap) (hgap' : Blank gap') (hsolid : Solid piece)
  (rest : List Char)

include hgap

theorem nextItem_close (first : Bool) :
    nextItem first (gap ++ ']' :: rest) = .ok (false, ']' :: rest) := by
  rw [nextItem, skipBlank_gap hgap rfl]
  rfl

include hsolid

theorem nextItem_first : nextItem true (gap ++ (piece ++ rest)) = .ok (true, piece ++ rest) := by
  obtain ⟨c, tail, rfl, hblank, hclose, _⟩ := hsolid
  rw [nextItem, List.cons_append, skipBlank_gap hgap hblank]
  split
  · contradiction
  · simp_all
  · simp_all

include hgap'

theorem nextItem_more :
    nextItem false (gap ++ ',' :: (gap' ++ (piece ++ rest))) = .ok (true, piece ++ rest) := by
  obtain ⟨c, tail, rfl, hblank, hclose, _⟩ := hsolid
  have hnext : skipBlank (gap' ++ (c :: tail ++ rest)) = c :: (tail ++ rest) :=
    skipBlank_gap hgap' hblank _
  rw [nextItem, skipBlank_gap hgap rfl]
  split
  · contradiction
  · simp_all
  · rename_i hcomma
    obtain ⟨rfl, rfl⟩ := List.cons.inj hcomma
    rw [if_neg Bool.false_ne_true, if_pos rfl, hnext]
    split
    · contradiction
    · simp_all
    · rfl

end

theorem closeList_close (rest : List Char) : closeList (']' :: rest) = .ok rest := rfl

/-- A reader does not mind that the blanks in front are gone already. -/
theorem Takes.bare {α : Type} {read : Reader α} {text : List Char} {a : α} (h : Takes read text a)
    {rest : List Char} (hrest : Ended rest) : read (text ++ rest) = .ok (a, rest) :=
  h [] rest blank_nil hrest

section

variable {α : Type} {item : Reader α}

theorem items_following {pieces : List (List Char)} {text : List Char}
    (hf : Following ']' pieces text) {as : List α}
    (hread : List.Forall₂ (fun a piece => Solid piece ∧ Takes item piece a) as pieces) {bound : Nat}
    (hbound : pieces.length < bound) (done : List α) (rest : List Char) :
    items item bound false done (text ++ rest) = .ok (done.reverse ++ as, rest) := by
  induction hf generalizing as bound done with
  | done blank =>
    cases hread
    cases bound with
    | zero => cases hbound
    | succ bound =>
      rw [List.append_assoc, List.cons_append, List.nil_append, items, nextItem_close blank]
      simp [bind, Except.bind, closeList_close]
  | more blank blank' following ih =>
    cases hread with
    | cons hhead htail =>
      cases bound with
      | zero => cases hbound
      | succ bound =>
        simp only [List.append_assoc, List.cons_append]
        rw [items, nextItem_more blank blank' hhead.1]
        simp only [bind, Except.bind]
        rw [hhead.2.bare (following.ended (Or.inl rfl) rest)]
        dsimp only
        rw [ih htail (by simpa using hbound)]
        simp

/-- The items of a list behind its opening bracket. -/
theorem items_listing {pieces : List (List Char)} {text : List Char}
    (hl : Listing ']' pieces text) {as : List α}
    (hread : List.Forall₂ (fun a piece => Solid piece ∧ Takes item piece a) as pieces) {bound : Nat}
    (hbound : pieces.length < bound) (rest : List Char) :
    items item bound true [] (text ++ rest) = .ok (as, rest) := by
  cases hl with
  | nothing blank =>
    cases hread
    cases bound with
    | zero => cases hbound
    | succ bound =>
      rw [List.append_assoc, List.cons_append, List.nil_append, items, nextItem_close blank]
      simp [bind, Except.bind, closeList_close]
  | first blank following =>
    cases hread with
    | cons hhead htail =>
      cases bound with
      | zero => cases hbound
      | succ bound =>
        simp only [List.append_assoc]
        rw [items, nextItem_first blank hhead.1]
        simp only [bind, Except.bind]
        rw [hhead.2.bare (following.ended (Or.inl rfl) rest)]
        dsimp only
        rw [items_following following htail (by simpa using hbound)]
        simp

theorem takes_listOf {size depth : Nat} {item : Nat → Reader α} {pieces : List (List Char)}
    {text : List Char} (hl : Listing ']' pieces text) (hsize : text.length ≤ size) {as : List α}
    (hread : List.Forall₂ (fun a piece => Solid piece ∧ Takes (item depth) piece a) as pieces) :
    Takes (listOf size (depth + 1) item) ('[' :: text) as := by
  intro gap rest hgap _
  unfold listOf
  rw [List.cons_append, skipBlank_gap hgap rfl]
  exact items_listing hl hread (by have := hl.length_lt; omega) rest

end

theorem hexValue?_hexDigit : ∀ n < 16, hexValue? (hexDigit n) = some n := by decide

theorem hexFour_low {n : Nat} (h : n < 32) (rest : List Char) :
    hexFour ('0' :: '0' :: hexDigit (n / 16) :: hexDigit (n % 16) :: rest) = .ok (n, rest) := by
  have hhigh := hexValue?_hexDigit (n / 16) (by omega)
  have hlow := hexValue?_hexDigit (n % 16) (by omega)
  have hzero : hexValue? '0' = some 0 := by decide
  have hvalue : n / 16 * 16 + n % 16 = n := by omega
  have hsize :
      ¬ (String.ofList ['0', '0', hexDigit (n / 16), hexDigit (n % 16)]).utf8ByteSize < 4 := by
    have hdigit (c : Char) : 0 < c.utf8Size := c.utf8Size_pos
    have hfirst := hdigit (hexDigit (n / 16))
    have hsecond := hdigit (hexDigit (n % 16))
    have hnought := hdigit '0'
    simp only [String.ofList_cons, String.utf8ByteSize_append, String.utf8ByteSize_singleton]
    omega
  rw [hexFour, List.take_succ_cons, List.take_succ_cons, List.take_succ_cons,
    List.take_succ_cons, List.take_zero, if_neg hsize]
  simp [hhigh, hlow, hzero, hvalue]

/-- A character is written as itself, by a letter behind a backslash, or by its number. -/
theorem escapeChar_cases (c : Char) :
    (escapeChar c = [c] ∧ c ≠ '"' ∧ c ≠ '\\' ∧ ¬ c.toNat < 32) ∨
      (∃ letter, escapeChar c = ['\\', letter] ∧ letter ≠ 'u' ∧ simpleEscape? letter = some c) ∨
      (escapeChar c =
          ['\\', 'u', '0', '0', hexDigit (c.toNat / 16), hexDigit (c.toNat % 16)] ∧
        c.toNat < 32) := by
  unfold escapeChar
  split
  · rename_i h
    exact Or.inr (Or.inl ⟨'"', rfl, by decide, by rw [h]; rfl⟩)
  split
  · rename_i h
    exact Or.inr (Or.inl ⟨'\\', rfl, by decide, by rw [h]; rfl⟩)
  split
  · rename_i h
    exact Or.inr (Or.inl ⟨'n', rfl, by decide, by rw [h]; rfl⟩)
  split
  · rename_i h
    exact Or.inr (Or.inl ⟨'r', rfl, by decide, by rw [h]; rfl⟩)
  split
  · rename_i h
    exact Or.inr (Or.inl ⟨'t', rfl, by decide, by rw [h]; rfl⟩)
  split
  · rename_i h
    exact Or.inr (Or.inl ⟨'b', rfl, by decide, by rw [h]; rfl⟩)
  split
  · rename_i h
    exact Or.inr (Or.inl ⟨'f', rfl, by decide, by rw [h]; rfl⟩)
  split
  · rename_i h
    exact Or.inr (Or.inr ⟨rfl, h⟩)
  · rename_i hquote hslash _ _ _ _ _ hsmall
    exact Or.inl ⟨rfl, hquote, hslash, hsmall⟩

theorem escape_simple {letter c : Char} (hletter : letter ≠ 'u')
    (h : simpleEscape? letter = some c) (rest : List Char) :
    escape (letter :: rest) = .ok (c, rest) := by
  unfold escape
  split
  · contradiction
  · simp_all
  · simp_all

theorem escape_low {c : Char} (h : c.toNat < 32) (rest : List Char) :
    escape ('u' :: '0' :: '0' :: hexDigit (c.toNat / 16) :: hexDigit (c.toNat % 16) :: rest) =
      .ok (c, rest) := by
  have htrailing : isTrailing c.toNat = false := by
    simp only [isTrailing, Bool.and_eq_false_iff, decide_eq_false_iff_not]
    omega
  have hleading : isLeading c.toNat = false := by
    simp only [isLeading, Bool.and_eq_false_iff, decide_eq_false_iff_not]
    omega
  rw [escape, unitEscape, hexFour_low h]
  simp [bind, Except.bind, htrailing, hleading]

theorem textBody_escaped (s : List Char) {bound : Nat} (hbound : s.length < bound)
    (done rest : List Char) :
    textBody bound done (s.flatMap escapeChar ++ '"' :: rest) =
      .ok (String.ofList (done.reverse ++ s), rest) := by
  induction s generalizing bound done with
  | nil =>
    cases bound with
    | zero => cases hbound
    | succ bound => simp [textBody]
  | cons c s ih =>
    cases bound with
    | zero => cases hbound
    | succ bound =>
      have hlater := ih (Nat.succ_lt_succ_iff.mp hbound) (c :: done)
      rw [List.reverse_cons, List.append_assoc, List.singleton_append] at hlater
      rw [List.flatMap_cons, List.append_assoc]
      rcases escapeChar_cases c with ⟨hself, hquote, hslash, hsmall⟩ |
        ⟨letter, hletter, hu, hsimple⟩ | ⟨hnumber, hsmall⟩
      · rw [hself, List.singleton_append, textBody, if_neg hquote, if_neg hslash, if_neg hsmall,
          hlater]
      · rw [hletter, List.cons_append, List.singleton_append, textBody, if_neg (by decide),
          if_pos rfl, escape_simple hu hsimple]
        exact hlater
      · rw [hnumber]
        simp only [List.cons_append, List.nil_append]
        rw [textBody, if_neg (by decide), if_pos rfl, escape_low hsmall]
        exact hlater

theorem quoted_eq (s : String) : quoted s = '"' :: (s.toList.flatMap escapeChar ++ ['"']) := rfl

theorem length_lt_quoted (s : String) : s.toList.length < (quoted s).length := by
  have hchar : ∀ c : Char, 1 ≤ (escapeChar c).length := by
    intro c
    rcases escapeChar_cases c with ⟨h, _⟩ | ⟨_, h, _⟩ | ⟨h, _⟩ <;> simp [h]
  have hchars : ∀ cs : List Char, cs.length ≤ (cs.flatMap escapeChar).length := by
    intro cs
    induction cs with
    | nil => simp
    | cons c cs ih =>
      have hc := hchar c
      simp only [List.length_cons, List.flatMap_cons, List.length_append]
      omega
  have hle := hchars s.toList
  simp only [quoted_eq, List.length_cons, List.length_append]
  omega

/-- The rest of a text behind its opening quote. -/
theorem textBody_quoted {s : String} {size : Nat} (hsize : (quoted s).length ≤ size)
    (rest : List Char) :
    textBody (size + 1) [] (s.toList.flatMap escapeChar ++ '"' :: rest) = .ok (s, rest) := by
  have hlt := length_lt_quoted s
  rw [textBody_escaped _ (by omega)]
  simp

theorem takes_text {s : String} {size : Nat} (hsize : (quoted s).length ≤ size) :
    Takes (text size) (quoted s) s := by
  intro gap rest hgap _
  rw [quoted_eq, List.cons_append, List.append_assoc, List.singleton_append, text,
    skipBlank_gap hgap rfl]
  exact textBody_quoted hsize rest

theorem quoted_append (s : String) (rest : List Char) :
    quoted s ++ rest = '"' :: (s.toList.flatMap escapeChar ++ '"' :: rest) := by
  simp [quoted_eq]

section

variable {gap gap' : List Char} (hgap : Blank gap) (hgap' : Blank gap') {size : Nat} {key : String}
  (hsize : (quoted key).length ≤ size) (rest : List Char)

include hgap

theorem nextKey_close (first : Bool) :
    nextKey size first (gap ++ '\x7d' :: rest) = .ok (none, rest) := by
  rw [nextKey, skipBlank_gap hgap rfl]
  rfl

include hsize

theorem nextKey_first : nextKey size true (gap ++ (quoted key ++ rest)) = .ok (some key, rest) := by
  rw [nextKey, quoted_append, skipBlank_gap hgap rfl]
  simp [nextKey.key, textBody_quoted hsize, bind, Except.bind]

include hgap'

theorem nextKey_more :
    nextKey size false (gap ++ ',' :: (gap' ++ (quoted key ++ rest))) = .ok (some key, rest) := by
  rw [nextKey, quoted_append, skipBlank_gap hgap rfl]
  simp [skipBlank_gap hgap' (c := '"') rfl, nextKey.key, textBody_quoted hsize, bind, Except.bind]

end

theorem colon_gap {gap gap' : List Char} (hgap : Blank gap) (hgap' : Blank gap')
    (rest : List Char) : colon (gap ++ (gap' ++ ':' :: rest)) = .ok rest := by
  unfold colon
  rw [skipBlank_append hgap, skipBlank_gap hgap' rfl]
  rfl

/-- What a reader makes of the text behind a key, put to use. -/
theorem Takes.field {α β : Type} {read : Reader α} {text behind : List Char} {a : α}
    (h : Takes read text a) (hbehind : Assigns text behind) (use : α → β) :
    Takes (fun cs => do
      let (x, cs) ← read (← colon cs)
      return (use x, cs)) behind (use a) := by
  intro gap rest hgap hrest
  cases hbehind with
  | colon blank blank' =>
    dsimp only
    rw [List.append_assoc, List.cons_append, List.append_assoc, colon_gap hgap blank]
    simp only [bind, Except.bind]
    rw [h _ rest blank' hrest]
    rfl

/-- What reading the fields of an object one by one does to a state. -/
inductive Steps {σ : Type} (field : σ → String → Reader σ) : σ → List (List Char) → σ → Prop where
  | done (s : σ) : Steps field s [] s
  | step {s t u : σ} {key : String} {behind : List Char} {pieces : List (List Char)}
      (takes : Takes (field s key) behind t) (rest : Steps field t pieces u) :
      Steps field s ((quoted key ++ behind) :: pieces) u

section

variable {σ : Type} {field : σ → String → Reader σ} {size : Nat} {pieces : List (List Char)}
  {text : List Char}

theorem fields_following (hf : Following '\x7d' pieces text)
    (hsize : ∀ piece ∈ pieces, piece.length ≤ size) {s t : σ} (hsteps : Steps field s pieces t)
    {bound : Nat} (hbound : pieces.length < bound) (rest : List Char) :
    fields size field bound false s (text ++ rest) = .ok (t, rest) := by
  induction hf generalizing s bound with
  | done blank =>
    cases hsteps
    cases bound with
    | zero => cases hbound
    | succ bound =>
      rw [List.append_assoc, List.singleton_append, fields, nextKey_close blank]
      rfl
  | more blank blank' following ih =>
    cases hsteps with
    | step takes others =>
      cases bound with
      | zero => cases hbound
      | succ bound =>
        rw [List.forall_mem_cons, List.length_append] at hsize
        simp only [List.append_assoc, List.cons_append]
        rw [fields, nextKey_more blank blank' (by omega)]
        simp only [bind, Except.bind]
        rw [takes.bare (following.ended (Or.inr rfl) rest)]
        exact ih hsize.2 others (by simpa using hbound)

/-- The fields of an object behind its opening brace. -/
theorem fields_listing (hl : Listing '\x7d' pieces text) (hsize : text.length ≤ size) {s t : σ}
    (hsteps : Steps field s pieces t) (rest : List Char) :
    fields size field (size + 1) true s (text ++ rest) = .ok (t, rest) := by
  have hpieces : ∀ piece ∈ pieces, piece.length ≤ size := fun piece hpiece =>
    Nat.le_trans (hl.length_le piece hpiece) hsize
  have hbound : pieces.length < size + 1 := by
    have hlt := hl.length_lt
    omega
  cases hl with
  | nothing blank =>
    cases hsteps
    rw [List.append_assoc, List.singleton_append, fields, nextKey_close blank]
    rfl
  | first blank following =>
    cases hsteps with
    | step takes others =>
      rw [List.forall_mem_cons, List.length_append] at hpieces
      simp only [List.append_assoc]
      rw [fields, nextKey_first blank (by omega)]
      simp only [bind, Except.bind]
      rw [takes.bare (following.ended (Or.inr rfl) rest)]
      exact fields_following following hpieces.2 others (by simpa using hbound) rest

end

end FeatureLint.Json
