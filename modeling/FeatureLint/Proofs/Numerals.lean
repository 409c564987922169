import FeatureLint.Proofs.Reading

namespace FeatureLint.Json

/-- A number as it may be written, of a size that can be read. -/
structure Number.Sound (n : Number) : Prop where
  whole : n.whole ≠ []
  wholeDigits : ∀ c ∈ n.whole, c.isDigit = true
  /-- A zero stands alone. -/
  zero : n.whole.head? = some '0' → n.whole = ['0']
  fractionDigits : ∀ c ∈ n.fraction, c.isDigit = true
  exponent : ∀ e ∈ n.exponent, e.2 ≠ [] ∧ ∀ c ∈ e.2, c.isDigit = true
  finite : n.finite = true

theorem not_digit_of_ended {rest : List Char} (h : Ended rest) :
    ∀ c ∈ rest.head?, c.isDigit = false ∧ c ≠ '.' ∧ c ≠ 'e' ∧ c ≠ 'E' := by
  intro c hc
  have hblank : isBlank c = true → c = ' ' ∨ c = '\t' ∨ c = '\n' ∨ c = '\r' := by
    simp [isBlank, or_assoc]
  rcases h c hc with hb | rfl | rfl | rfl
  · rcases hblank hb with rfl | rfl | rfl | rfl <;> decide
  all_goals decide

/-- Neither a blank nor a bracket starts a number. -/
theorem not_blank_of_start {c : Char} (h : c = '-' ∨ c.isDigit = true) : isBlank c = false := by
  rcases h with rfl | h
  · rfl
  · rw [← Bool.not_eq_true]
    intro hblank
    simp only [isBlank, Bool.or_eq_true, beq_iff_eq] at hblank
    rcases hblank with ((rfl | rfl) | rfl) | rfl <;> exact absurd h (by decide)

theorem digits_append {ds rest : List Char} (hne : ds ≠ []) (hds : ∀ c ∈ ds, c.isDigit = true)
    (hrest : ∀ c ∈ rest.head?, c.isDigit = false) : digits (ds ++ rest) = .ok (ds, rest) := by
  have hstop : rest.takeWhile Char.isDigit = [] ∧ rest.dropWhile Char.isDigit = rest := by
    cases rest with
    | nil => simp
    | cons c rest =>
      have hc := hrest c rfl
      simp [hc]
  cases ds with
  | nil => exact absurd rfl hne
  | cons d ds =>
    rw [List.cons_append, digits, if_pos (hds d (by simp)), ← List.cons_append,
      List.takeWhile_append_of_pos hds, List.dropWhile_append_of_pos hds, hstop.1, hstop.2,
      List.append_nil]

/-- The text of a fraction. -/
def fractionText (ds : List Char) : List Char := if ds.isEmpty then [] else '.' :: ds

/-- The text of an exponent. -/
def exponentText : Option (Bool × List Char) → List Char
  | none => []
  | some (down, ds) => 'e' :: (if down then ['-'] else []) ++ ds

theorem Number.chars_eq (n : Number) :
    n.chars = (if n.negative then ['-'] else []) ++ (n.whole ++
      (fractionText n.fraction ++ exponentText n.exponent)) := by
  rw [Number.chars, List.append_assoc, List.append_assoc]
  cases n.exponent <;> rfl

section

variable {rest : List Char}

theorem wholePart_append {ds : List Char} (hne : ds ≠ []) (hds : ∀ c ∈ ds, c.isDigit = true)
    (hzero : ds.head? = some '0' → ds = ['0']) (hrest : ∀ c ∈ rest.head?, c.isDigit = false) :
    wholePart (ds ++ rest) = .ok (ds, rest) := by
  rw [wholePart, digits_append hne hds hrest]
  simp only [bind, Except.bind]
  split
  · exact absurd (hzero rfl) (by simp)
  · rfl

theorem fractionPart_append {ds : List Char} (hds : ∀ c ∈ ds, c.isDigit = true)
    (hrest : ∀ c ∈ rest.head?, c.isDigit = false ∧ c ≠ '.') :
    fractionPart (fractionText ds ++ rest) = .ok (ds, rest) := by
  cases ds with
  | nil =>
    rw [fractionText, List.isEmpty_nil, if_pos rfl, List.nil_append]
    cases rest with
    | nil => rfl
    | cons c rest =>
      have hpoint := (hrest c rfl).2
      unfold fractionPart
      split
      · simp_all
      · rfl
  | cons d ds =>
    exact digits_append (by simp) hds fun c hc => (hrest c hc).1

theorem exponentPart_append {e : Option (Bool × List Char)}
    (he : ∀ x ∈ e, x.2 ≠ [] ∧ ∀ c ∈ x.2, c.isDigit = true) (hrest : Ended rest) :
    exponentPart (exponentText e ++ rest) = .ok (e, rest) := by
  have hend := not_digit_of_ended hrest
  cases e with
  | none =>
    rw [exponentText, List.nil_append]
    cases rest with
    | nil => rfl
    | cons c rest =>
      obtain ⟨_, _, hlower, hupper⟩ := hend c rfl
      simp [exponentPart, hlower, hupper]
  | some e =>
    obtain ⟨down, ds⟩ := e
    obtain ⟨hne, hds⟩ := he (down, ds) rfl
    have hdigits := digits_append hne hds fun c hc => (hend c hc).1
    have hsign : exponentSign ((if down then ['-'] else []) ++ (ds ++ rest)) =
        (down, ds ++ rest) := by
      cases down with
      | true => rfl
      | false =>
        cases ds with
        | nil => exact absurd rfl hne
        | cons d ds =>
          have hd := hds d (by simp)
          rw [if_neg Bool.false_ne_true, List.nil_append, List.cons_append]
          unfold exponentSign
          split
          · simp_all
          · simp_all
          · rfl
    rw [exponentText, List.cons_append, List.cons_append, List.append_assoc, exponentPart]
    simp [hsign, hdigits, bind, Except.bind]

/-- What follows the whole part of a number is no digit. -/
theorem not_digit_behind (n : Number) (hrest : Ended rest) :
    ∀ c ∈ (fractionText n.fraction ++ (exponentText n.exponent ++ rest)).head?,
      c.isDigit = false := by
  intro c hc
  cases hfraction : n.fraction with
  | cons d ds =>
    obtain rfl : '.' = c := by simpa [hfraction, fractionText] using hc
    rfl
  | nil =>
    cases hexponent : n.exponent with
    | some e =>
      obtain rfl : 'e' = c := by simpa [hfraction, hexponent, fractionText, exponentText] using hc
      rfl
    | none =>
      rw [hfraction, hexponent] at hc
      exact (not_digit_of_ended hrest c hc).1

theorem not_point_behind (n : Number) (hrest : Ended rest) :
    ∀ c ∈ (exponentText n.exponent ++ rest).head?, c.isDigit = false ∧ c ≠ '.' := by
  intro c hc
  cases hexponent : n.exponent with
  | some e =>
    obtain rfl : 'e' = c := by simpa [hexponent, exponentText] using hc
    decide
  | none =>
    rw [hexponent] at hc
    obtain ⟨hdigit, hpoint, _⟩ := not_digit_of_ended hrest c hc
    exact ⟨hdigit, hpoint⟩

theorem numeral_chars {n : Number} (hn : n.Sound) (hrest : Ended rest) :
    numeral (n.chars ++ rest) = .ok (n, rest) := by
  have hwhole := wholePart_append hn.whole hn.wholeDigits hn.zero (not_digit_behind n hrest)
  have hfraction := fractionPart_append hn.fractionDigits (not_point_behind n hrest)
  have hexponent := exponentPart_append hn.exponent hrest
  have hunsigned : ∀ tail, n.whole ++ (fractionText n.fraction ++ (exponentText n.exponent ++ rest))
      ≠ '-' :: tail := by
    intro tail heq
    cases hdigits : n.whole with
    | nil => exact hn.whole hdigits
    | cons d ds =>
      rw [hdigits, List.cons_append] at heq
      have hd := hn.wholeDigits d (by simp [hdigits])
      rw [(List.cons.inj heq).1] at hd
      exact absurd hd (by decide)
  rw [Number.chars_eq, List.append_assoc, List.append_assoc, List.append_assoc]
  cases hsign : n.negative with
  | true =>
    rw [if_pos rfl, List.singleton_append, numeral]
    simp [bind, Except.bind, hwhole, hfraction, hexponent, ← hsign]
  | false =>
    rw [if_neg Bool.false_ne_true, List.nil_append, numeral]
    · simp [bind, Except.bind, hwhole, hfraction, hexponent, ← hsign]
    · exact hunsigned

theorem number_chars {n : Number} (hn : n.Sound) (hrest : Ended rest) :
    number (n.chars ++ rest) = .ok (n, rest) := by
  rw [number, numeral_chars hn hrest]
  simp [bind, Except.bind, hn.finite]

/-- A number starts with a minus or a digit. -/
theorem chars_start {n : Number} (hn : n.Sound) :
    ∃ c tail, n.chars = c :: tail ∧ (c = '-' ∨ c.isDigit = true) := by
  rw [Number.chars_eq]
  cases n.negative with
  | true => exact ⟨'-', _, rfl, Or.inl rfl⟩
  | false =>
    cases hdigits : n.whole with
    | nil => exact absurd hdigits hn.whole
    | cons d ds => exact ⟨d, _, rfl, Or.inr (hn.wholeDigits d (by simp [hdigits]))⟩

end

theorem decimal_append (ds : List Char) (d : Char) :
    decimal (ds ++ [d]) = 10 * decimal ds + digitValue d := by
  simp [decimal]

theorem digitValue_digitChar : ∀ d < 10, digitValue (Nat.digitChar d) = d := by decide

/-- The digits of a number are its decimal digits. -/
theorem decimal_toDigits (n : Nat) : decimal (Nat.toDigits 10 n) = n := by
  by_cases hsmall : n < 10
  · rw [Nat.toDigits_of_lt_base hsmall]
    simp [decimal, digitValue_digitChar n hsmall]
  · rw [Nat.toDigits_of_base_le (by omega) (by omega), decimal_append, decimal_toDigits (n / 10),
      digitValue_digitChar _ (by omega)]
    omega
termination_by n
decreasing_by omega

theorem toDigits_ne_nil (n : Nat) : Nat.toDigits 10 n ≠ [] := by
  by_cases hsmall : n < 10
  · simp [Nat.toDigits_of_lt_base hsmall]
  · simp [Nat.toDigits_of_base_le (b := 10) (by omega) (Nat.not_lt.mp hsmall)]

/-- Only zero is written with a zero in front. -/
theorem toDigits_zero {n : Nat} (h : (Nat.toDigits 10 n).head? = some '0') : n = 0 := by
  by_cases hsmall : n < 10
  · rw [Nat.toDigits_of_lt_base hsmall] at h
    have hdigit : ∀ d < 10, Nat.digitChar d = '0' → d = 0 := by decide
    exact hdigit n hsmall (by simpa using h)
  · rw [Nat.toDigits_of_base_le (by omega) (by omega),
      List.head?_append_of_ne_nil _ (toDigits_ne_nil _)] at h
    have hzero := toDigits_zero h
    omega
termination_by n
decreasing_by omega

theorem le_foldl_digits (ds : List Char) (n : Nat) :
    n ≤ ds.foldl (fun n c => 10 * n + digitValue c) n := by
  induction ds generalizing n with
  | nil => exact Nat.le_refl n
  | cons d ds ih =>
    have hle := ih (10 * n + digitValue d)
    simp only [List.foldl_cons]
    omega

/-- Digits that 64 bits hold are all gathered. -/
theorem gather_all (ds : List Char) (n : Nat)
    (h : ds.foldl (fun n c => 10 * n + digitValue c) n < wordLimit) :
    gather n ds = (ds.foldl (fun n c => 10 * n + digitValue c) n, []) := by
  induction ds generalizing n with
  | nil => rfl
  | cons d ds ih =>
    have hle := le_foldl_digits ds (10 * n + digitValue d)
    rw [List.foldl_cons] at h
    rw [gather]
    simp only [List.foldl_cons]
    rw [if_pos (Nat.lt_of_le_of_lt hle h), ih _ h]

/-- Rounding at most doubles a number. -/
theorem round53_le (n : Nat) : round53 n ≤ 2 * n := by
  by_cases hzero : n = 0
  · subst hzero
    decide
  have hunit : Nat.pow 2 (n.log2 - 52) ≤ n :=
    Nat.le_trans (Nat.pow_le_pow_right (by omega) (Nat.sub_le _ _)) (Nat.log2_self_le hzero)
  have hsplit := Nat.div_add_mod n (Nat.pow 2 (n.log2 - 52))
  unfold round53
  dsimp only
  generalize Nat.pow 2 (n.log2 - 52) = unit at hunit hsplit
  have hquotient : n / unit * unit ≤ n := Nat.div_mul_le_self n unit
  split
  · omega
  · split
    · have hlast : n / unit % 2 ≤ 1 := by omega
      have hscaled : n / unit % 2 * unit ≤ 1 * unit := Nat.mul_le_mul_right unit hlast
      rw [Nat.add_mul]
      omega
    · rw [Nat.add_mul]
      omega

theorem belowInfinity_of_lt {n : Nat} (h : n < wordLimit) : belowInfinity n 0 = true := by
  have hle := round53_le n
  have hone : round53 (Nat.pow 10 0) = 1 := by decide
  have hbig : 2 * wordLimit ≤ Nat.pow 2 1024 - Nat.pow 2 970 := by decide +kernel
  rw [belowInfinity, hone, decide_eq_true_eq]
  omega

theorem finite_ofNat {n : Nat} (h : n < wordLimit) : (Number.ofNat n).finite = true := by
  have hdigits := decimal_toDigits n
  have hgather : gather 0 (Nat.toDigits 10 n) = (n, []) := by
    rw [gather_all _ _ (by rw [← decimal, hdigits]; exact h), ← decimal, hdigits]
  simp only [Number.finite, Number.ofNat, hgather, gather]
  by_cases hzero : n = 0
  · simp [hzero]
  · simp [hzero, belowInfinity_of_lt h]

theorem sound_ofNat {n : Nat} (h : n < wordLimit) : (Number.ofNat n).Sound where
  whole := toDigits_ne_nil n
  wholeDigits _ hc := Nat.isDigit_of_mem_toDigits (by omega) (by omega) hc
  zero hhead := by
    obtain rfl := toDigits_zero hhead
    rfl
  fractionDigits := by simp [Number.ofNat]
  exponent := by simp [Number.ofNat]
  finite := finite_ofNat h

theorem natural?_ofNat {n : Nat} (h : n < wordLimit) : (Number.ofNat n).natural? = some n := by
  simp [Number.natural?, Number.ofNat, decimal_toDigits, h]

theorem takes_natural {n : Nat} (h : n < wordLimit) (size : Nat) :
    Takes (natural size) (Number.ofNat n).chars n := by
  intro gap rest hgap hrest
  have hsound := sound_ofNat h
  obtain ⟨c, tail, hchars, hc⟩ := chars_start hsound
  have hblank := not_blank_of_start hc
  have hnumber := number_chars hsound hrest
  rw [hchars, List.cons_append] at hnumber
  rw [natural, hchars, List.cons_append, skipBlank_gap hgap hblank]
  simp [hc, hnumber, natural?_ofNat h, bind, Except.bind]

end FeatureLint.Json
