import FeatureLint.Regex
import Mathlib.Data.List.Basic

namespace FeatureLint.Regex

open Unicode (CodeSet)

/-- A step between places taken so many times. -/
def Rounds (step : Nat → Nat → Prop) : Nat → Nat → Nat → Prop
  | 0, i, j => i = j
  | n + 1, i, j => ∃ k, step i k ∧ Rounds step n k j

/-- Between which places of a text an expression matches. A repetition goes round as often as it
must and then, up to its limit, as often as it likes. -/
def Leads (cs : List Char) : Regex → Nat → Nat → Prop
  | empty, i, j => i = j
  | set s, i, j => j = i + 1 ∧ ∃ c ∈ cs[i]?, s.contains c.toNat = true
  | look l, i, j => i = j ∧ ∃ spot ∈ (spots cs)[i]?, l.holds spot = true
  | cat r s, i, j => ∃ k, Leads cs r i k ∧ Leads cs s k j
  | alt r s, i, j => Leads cs r i j ∨ Leads cs s i j
  | rep r least most, i, j =>
    ∃ extra, (∀ m ∈ most, extra ≤ m - least) ∧ Rounds (Leads cs r) (least + extra) i j

section

variable {step : Nat → Nat → Prop}

theorem rounds_add (a b i j : Nat) :
    Rounds step (a + b) i j ↔ ∃ k, Rounds step a i k ∧ Rounds step b k j := by
  induction a generalizing i with
  | zero => simp [Rounds]
  | succ a ih =>
    simp only [Nat.add_right_comm a 1 b, Rounds, ih]
    constructor
    · intro h
      obtain ⟨m, hm, k, hk, hb⟩ := h
      exact ⟨k, ⟨m, hm, hk⟩, hb⟩
    · intro h
      obtain ⟨k, ⟨m, hm, hk⟩, hb⟩ := h
      exact ⟨m, hm, k, hk, hb⟩

/-- Rounds that may be left out are as many as one likes up to the number of rounds. -/
theorem rounds_optional (n i j : Nat) :
    Rounds (fun i j => i = j ∨ step i j) n i j ↔ ∃ m ≤ n, Rounds step m i j := by
  induction n generalizing i with
  | zero => simp [Rounds]
  | succ n ih =>
    simp only [Rounds, ih]
    constructor
    · intro h
      obtain ⟨k, rfl | hk, m, hm, hrest⟩ := h
      · exact ⟨m, by omega, hrest⟩
      · exact ⟨m + 1, by omega, k, hk, hrest⟩
    · intro h
      obtain ⟨m, hm, hrest⟩ := h
      cases m with
      | zero => exact ⟨i, Or.inl rfl, 0, by omega, hrest⟩
      | succ m =>
        obtain ⟨k, hk, hrest⟩ := hrest
        exact ⟨k, Or.inr hk, m, by omega, hrest⟩

/-- What every step keeps every number of rounds keeps. -/
theorem Rounds.invariant {keeps : Nat → Prop} (hstep : ∀ i j, keeps i → step i j → keeps j)
    {n i j : Nat} (h : Rounds step n i j) (hi : keeps i) : keeps j := by
  induction n generalizing i with
  | zero => exact h ▸ hi
  | succ n ih =>
    obtain ⟨k, hk, hrest⟩ := h
    exact ih hrest (hstep i k hi hk)

theorem Rounds.le (hstep : ∀ i j, step i j → i ≤ j) {n i j : Nat} (h : Rounds step n i j) :
    i ≤ j :=
  h.invariant (fun a b ha hab => Nat.le_trans ha (hstep a b hab)) (Nat.le_refl i)

/-- Where no step goes back, rounds that stay in place can be left out; the others move on by a
character at least. -/
theorem Rounds.short (hstep : ∀ i j, step i j → i ≤ j) {n i j : Nat} (h : Rounds step n i j) :
    ∃ m, i + m ≤ j ∧ Rounds step m i j := by
  induction n generalizing i with
  | zero => exact ⟨0, Nat.le_of_eq h, h⟩
  | succ n ih =>
    obtain ⟨k, hk, hrest⟩ := h
    obtain ⟨m, hm, hrounds⟩ := ih hrest
    rcases Nat.eq_or_lt_of_le (hstep i k hk) with rfl | hlt
    · exact ⟨m, hm, hrounds⟩
    · exact ⟨m + 1, by omega, k, hk, hrounds⟩

end

theorem Leads.le {cs : List Char} {r : Regex} {i j : Nat} (h : Leads cs r i j) : i ≤ j := by
  induction r generalizing i j with
  | empty => exact Nat.le_of_eq h
  | set s => exact h.1 ▸ Nat.le_succ i
  | look l => exact Nat.le_of_eq h.1
  | cat r s ihr ihs =>
    obtain ⟨k, hr, hs⟩ := h
    exact Nat.le_trans (ihr hr) (ihs hs)
  | alt r s ihr ihs => exact h.elim ihr ihs
  | rep r least most ih =>
    obtain ⟨extra, _, hrounds⟩ := h
    exact hrounds.le fun _ _ hstep => ih hstep

theorem Leads.le_length {cs : List Char} {r : Regex} {i j : Nat} (h : Leads cs r i j)
    (hi : i ≤ cs.length) : j ≤ cs.length := by
  induction r generalizing i j with
  | empty => exact h ▸ hi
  | set s =>
    obtain ⟨rfl, c, hc, _⟩ := h
    exact (List.getElem?_eq_some_iff.mp hc).1
  | look l => exact h.1 ▸ hi
  | cat r s ihr ihs =>
    obtain ⟨k, hr, hs⟩ := h
    exact ihs hs (ihr hr hi)
  | alt r s ihr ihs =>
    rcases h with h | h
    · exact ihr h hi
    · exact ihs h hi
  | rep r least most ih =>
    obtain ⟨extra, _, hrounds⟩ := h
    exact hrounds.invariant (fun _ _ hk hstep => ih hstep hk) hi

theorem Rounds.le_length {cs : List Char} {r : Regex} {n i j : Nat}
    (h : Rounds (Leads cs r) n i j) (hi : i ≤ cs.length) : j ≤ cs.length :=
  h.invariant (fun _ _ hk hstep => Leads.le_length hstep hk) hi

/-- More rounds than a text has places lead nowhere new. -/
theorem Rounds.enough {cs : List Char} {r : Regex} {n i j : Nat}
    (h : Rounds (Leads cs r) n i j) (hi : i ≤ cs.length) :
    ∃ m ≤ cs.length + 1, Rounds (Leads cs r) m i j := by
  have hj := h.le_length hi
  obtain ⟨m, hm, hshort⟩ := h.short fun _ _ hstep => Leads.le hstep
  exact ⟨m, by omega, hshort⟩

/-- A way of moving the marks of a text that follows a step between its places: what is marked then
is what the step reaches from what was marked before. -/
structure Follows (cs : List Char) (move : Marks → Marks) (step : Nat → Nat → Prop) : Prop where
  length {m : Marks} (hm : m.length = cs.length + 1) : (move m).length = cs.length + 1
  marked {m : Marks} (hm : m.length = cs.length + 1) (j : Nat) :
    (move m)[j]? = some true ↔ ∃ i, m[i]? = some true ∧ step i j

theorem length_spotsFrom (before : Option Char) (cs : List Char) :
    (spotsFrom before cs).length = cs.length + 1 := by
  induction cs generalizing before with
  | nil => rfl
  | cons c cs ih => rw [spotsFrom, List.length_cons, ih, List.length_cons]

theorem iterate_fixed {move : Marks → Marks} {m : Marks} (h : move m = m) (n : Nat) :
    iterate move n m = m := by
  cases n with
  | zero => rfl
  | succ n => rw [iterate, if_pos h]

/-- Stopping where nothing changes any more makes no difference. -/
theorem iterate_succ (move : Marks → Marks) (n : Nat) (m : Marks) :
    iterate move (n + 1) m = iterate move n (move m) := by
  by_cases h : move m = m
  · rw [iterate, if_pos h, h, iterate_fixed h]
  · rw [iterate, if_neg h]

namespace Follows

variable {cs : List Char} {move other : Marks → Marks} {step next : Nat → Nat → Prop}

theorem pass (cs : List Char) (s : CodeSet) : Follows cs (pass s cs) (Leads cs (.set s)) where
  length hm := by simp [Regex.pass, hm]
  marked {m} hm j := by
    cases j with
    | zero => simp [Regex.pass, Leads]
    | succ j =>
      rw [Regex.pass, List.getElem?_cons_succ, List.getElem?_zipWith_eq_some]
      constructor
      · intro h
        obtain ⟨c, b, hc, hb, h⟩ := h
        obtain ⟨rfl, hs⟩ := Bool.and_eq_true_iff.mp h
        exact ⟨j, hb, rfl, c, hc, hs⟩
      · intro h
        obtain ⟨i, hi, hj, c, hc, hs⟩ := h
        obtain rfl := Nat.succ.inj hj
        exact ⟨c, true, hc, hi, by rw [hs, Bool.and_true]⟩

theorem keep (cs : List Char) (l : Look) : Follows cs (keep l cs) (Leads cs (.look l)) where
  length hm := by simp [Regex.keep, spots, length_spotsFrom, hm]
  marked {m} hm j := by
    rw [Regex.keep, List.getElem?_zipWith_eq_some]
    constructor
    · intro h
      obtain ⟨spot, b, hspot, hb, h⟩ := h
      obtain ⟨rfl, hl⟩ := Bool.and_eq_true_iff.mp h
      exact ⟨j, hb, rfl, spot, hspot, hl⟩
    · intro h
      obtain ⟨i, hi, rfl, spot, hspot, hl⟩ := h
      exact ⟨spot, true, hspot, hi, by rw [hl, Bool.and_true]⟩

theorem either (h : Follows cs move step) (h' : Follows cs other next) :
    Follows cs (fun m => either (move m) (other m)) fun i j => step i j ∨ next i j where
  length hm := by simp [Regex.either, h.length hm, h'.length hm]
  marked {m} hm j := by
    -- Both marks are there or neither, so that one of them is true is all that counts.
    have hboth : (Regex.either (move m) (other m))[j]? = some true ↔
        (move m)[j]? = some true ∨ (other m)[j]? = some true := by
      rw [Regex.either, List.getElem?_zipWith_eq_some]
      by_cases hj : j < cs.length + 1
      · rw [List.getElem?_eq_getElem (by rw [h.length hm]; exact hj),
          List.getElem?_eq_getElem (by rw [h'.length hm]; exact hj)]
        simp
      · rw [List.getElem?_eq_none (by rw [h.length hm]; omega),
          List.getElem?_eq_none (by rw [h'.length hm]; omega)]
        simp
    rw [hboth, h.marked hm, h'.marked hm, ← exists_or]
    simp only [and_or_left]

theorem of_iff (h : Follows cs move step) (hiff : ∀ i ≤ cs.length, ∀ j, step i j ↔ next i j) :
    Follows cs move next where
  length hm := h.length hm
  marked {m} hm j := by
    rw [h.marked hm]
    apply exists_congr
    intro i
    apply and_congr_right
    intro hi
    have hlt := (List.getElem?_eq_some_iff.mp hi).1
    exact hiff i (by omega) j

theorem comp (h : Follows cs move step) (h' : Follows cs other next) :
    Follows cs (fun m => other (move m)) fun i j => ∃ k, step i k ∧ next k j where
  length hm := h'.length (h.length hm)
  marked hm j := by
    rw [h'.marked (h.length hm)]
    simp only [h.marked hm]
    constructor
    · intro h
      obtain ⟨k, ⟨i, hi, hk⟩, hj⟩ := h
      exact ⟨i, hi, k, hk, hj⟩
    · intro h
      obtain ⟨i, hi, k, hk, hj⟩ := h
      exact ⟨k, ⟨i, hi, hk⟩, hj⟩

theorem refl (cs : List Char) : Follows cs (fun m => m) fun i j => i = j where
  length hm := hm
  marked hm j := by simp

theorem iterate (h : Follows cs move step) (n : Nat) :
    Follows cs (iterate move n) (Rounds step n) := by
  induction n with
  | zero => exact refl cs
  | succ n ih =>
    have hsucc : Regex.iterate move (n + 1) = fun m => Regex.iterate move n (move m) :=
      funext (iterate_succ move n)
    rw [hsucc]
    exact h.comp ih

/-- Marks that are kept while a step is taken again and again are those of up to so many rounds. -/
theorem spread (h : Follows cs move step) (n : Nat) :
    Follows cs (Regex.iterate (fun m => Regex.either m (move m)) n)
      fun i j => ∃ m ≤ n, Rounds step m i j :=
  (((refl cs).either h).iterate n).of_iff fun i _ j => rounds_optional n i j

end Follows

/-- Going over a text with marks finds what the expression leads to. -/
theorem follows_run (cs : List Char) (r : Regex) : Follows cs (run cs r) (Leads cs r) := by
  induction r with
  | empty => exact .refl cs
  | set s => exact .pass cs s
  | look l => exact .keep cs l
  | cat r s ihr ihs => exact ihr.comp ihs
  | alt r s ihr ihs => exact ihr.either ihs
  | rep r least most ih =>
    cases most with
    | some most =>
      refine ((ih.iterate least).comp (ih.spread (most - least))).of_iff ?_
      intro i _ j
      simp only [Leads, Option.mem_some_iff, forall_eq', rounds_add]
      constructor
      · intro h
        obtain ⟨k, hk, m, hm, hj⟩ := h
        exact ⟨m, hm, k, hk, hj⟩
      · intro h
        obtain ⟨m, hm, k, hk, hj⟩ := h
        exact ⟨k, hk, m, hm, hj⟩
    | none =>
      refine ((ih.iterate least).comp (ih.spread (cs.length + 1))).of_iff ?_
      intro i hi j
      simp only [Leads, Option.not_mem_none, false_imp_iff, implies_true, true_and, rounds_add]
      constructor
      · intro h
        obtain ⟨k, hk, m, _, hj⟩ := h
        exact ⟨m, k, hk, hj⟩
      · intro h
        obtain ⟨m, k, hk, hj⟩ := h
        obtain ⟨m, hm, hj⟩ := hj.enough (hk.le_length hi)
        exact ⟨k, hk, m, hm, hj⟩

/-- An expression is found in a text exactly if it matches between two of its places. -/
theorem matchesIn_iff_leads (r : Regex) (s : String) :
    r.matchesIn s = true ↔ ∃ i ≤ s.toList.length, ∃ j, Leads s.toList r i j := by
  have hfollows := follows_run s.toList r
  have hlength : (List.replicate (s.toList.length + 1) true).length = s.toList.length + 1 :=
    List.length_replicate
  simp only [matchesIn, List.any_eq_true, id_eq, exists_eq_right, List.mem_iff_getElem?,
    hfollows.marked hlength]
  constructor
  · intro h
    obtain ⟨j, i, hi, h⟩ := h
    have hlt := (List.getElem?_eq_some_iff.mp hi).1
    exact ⟨i, by omega, j, h⟩
  · intro h
    obtain ⟨i, hi, j, h⟩ := h
    exact ⟨j, i, List.getElem?_replicate_of_lt (by omega), h⟩

/-- An expression matches a piece of a text, given what stands in front of it and behind it. -/
def Covers (r : Regex) (front piece rest : List Char) : Prop :=
  Leads (front ++ piece ++ rest) r front.length (front ++ piece).length

/-- A place behind the first part of a text cuts the second part. -/
theorem exists_cut {front back : List Char} {k : Nat} (hfront : front.length ≤ k)
    (hback : k ≤ (front ++ back).length) :
    ∃ p q, back = p ++ q ∧ k = (front ++ p).length := by
  refine ⟨back.take (k - front.length), back.drop (k - front.length),
    (List.take_append_drop ..).symm, ?_⟩
  rw [List.length_append] at hback
  rw [List.length_append, List.length_take]
  omega

/-- An expression is found in a text exactly if it matches a piece of it. -/
theorem matchesIn_iff_covers (r : Regex) (s : String) :
    r.matchesIn s = true ↔
      ∃ front piece rest, s.toList = front ++ piece ++ rest ∧ r.Covers front piece rest := by
  rw [matchesIn_iff_leads]
  constructor
  · intro h
    obtain ⟨i, hi, j, h⟩ := h
    obtain ⟨front, back, hs, rfl⟩ : ∃ front back, s.toList = front ++ back ∧ i = front.length := by
      simpa using @exists_cut [] s.toList i (Nat.zero_le i) hi
    rw [hs] at h hi
    obtain ⟨piece, rest, rfl, rfl⟩ := exists_cut h.le (h.le_length hi)
    rw [← List.append_assoc] at h hs
    exact ⟨front, piece, rest, hs, h⟩
  · intro h
    obtain ⟨front, piece, rest, hs, h⟩ := h
    rw [hs]
    exact ⟨front.length, by simp, (front ++ piece).length, h⟩

/-- The surroundings of the place behind the first part of a text. -/
theorem getElem?_spotsFrom (before : Option Char) (front back : List Char) :
    (spotsFrom before (front ++ back))[front.length]? =
      some (front.getLast?.or before, back.head?) := by
  induction front generalizing before with
  | nil => cases back <;> rfl
  | cons c front ih =>
    rw [List.cons_append, spotsFrom, List.length_cons, List.getElem?_cons_succ, ih,
      List.getLast?_cons]
    cases front.getLast? <;> rfl

section

variable {r s : Regex} {front piece rest : List Char}

theorem covers_set {set : CodeSet} :
    (Regex.set set).Covers front piece rest ↔ ∃ c, piece = [c] ∧ set.contains c.toNat = true := by
  simp only [Covers, Leads, List.length_append, Nat.add_left_cancel_iff, List.length_eq_one_iff,
    ← exists_and_right]
  apply exists_congr
  intro c
  apply and_congr_right
  rintro rfl
  simp

theorem covers_look {l : Look} :
    (look l).Covers front piece rest ↔
      piece = [] ∧ l.holds (front.getLast?, rest.head?) = true := by
  simp only [Covers, Leads, List.length_append, Nat.left_eq_add, List.length_eq_zero_iff]
  apply and_congr_right
  rintro rfl
  rw [List.append_nil, spots, getElem?_spotsFrom, Option.or_none]
  simp

theorem covers_cat :
    (cat r s).Covers front piece rest ↔ ∃ p q, piece = p ++ q ∧
      r.Covers front p (q ++ rest) ∧ s.Covers (front ++ p) q rest := by
  constructor
  · intro h
    obtain ⟨k, hr, hs⟩ := h
    obtain ⟨p, q, rfl, rfl⟩ := exists_cut hr.le hs.le
    exact ⟨p, q, rfl, by simpa [Covers] using hr, by simpa [Covers] using hs⟩
  · intro h
    obtain ⟨p, q, rfl, hr, hs⟩ := h
    exact ⟨(front ++ p).length, by simpa [Covers] using hr, by simpa [Covers] using hs⟩

theorem covers_alt :
    (alt r s).Covers front piece rest ↔ r.Covers front piece rest ∨ s.Covers front piece rest :=
  Iff.rfl

/-- An anchor in front lets a match start only where the text does. -/
theorem covers_textStart :
    (cat (.look .textStart) r).Covers front piece rest ↔ front = [] ∧ r.Covers [] piece rest := by
  simp only [covers_cat, covers_look, Look.holds, Option.isNone_iff_eq_none,
    List.getLast?_eq_none_iff]
  constructor
  · intro h
    obtain ⟨p, q, rfl, ⟨rfl, rfl⟩, hr⟩ := h
    exact ⟨rfl, hr⟩
  · intro h
    obtain ⟨rfl, hr⟩ := h
    exact ⟨[], piece, rfl, ⟨rfl, rfl⟩, hr⟩

/-- An anchor behind lets a match stop only where the text does. -/
theorem covers_textStop :
    (cat r (.look .textStop)).Covers front piece rest ↔ rest = [] ∧ r.Covers front piece [] := by
  simp only [covers_cat, covers_look, Look.holds, Option.isNone_iff_eq_none, List.head?_eq_none_iff]
  constructor
  · intro h
    obtain ⟨p, q, rfl, hr, rfl, rfl⟩ := h
    exact ⟨rfl, by simpa using hr⟩
  · intro h
    obtain ⟨rfl, hr⟩ := h
    exact ⟨piece, [], by simp, hr, rfl, rfl⟩

/-- So many characters of a set. -/
theorem rounds_set {set : CodeSet} {n : Nat} :
    Rounds (Leads (front ++ piece ++ rest) (.set set)) n front.length (front ++ piece).length ↔
      piece.length = n ∧ ∀ c ∈ piece, set.contains c.toNat = true := by
  induction n generalizing front piece with
  | zero =>
    cases piece with
    | nil => simp [Rounds]
    | cons c piece => simp [Rounds]
  | succ n ih =>
    constructor
    · intro h
      obtain ⟨k, hfirst, hrest⟩ := h
      -- The first round ends inside the piece and cuts a character off it.
      obtain ⟨p, q, rfl, rfl⟩ := exists_cut hfirst.le (hrest.le fun _ _ hstep => Leads.le hstep)
      have hcovers : (Regex.set set).Covers front p (q ++ rest) := by simpa [Covers] using hfirst
      obtain ⟨c, rfl, hc⟩ := covers_set.mp hcovers
      rw [← List.append_assoc front, ih] at hrest
      obtain ⟨hlength, hq⟩ := hrest
      exact ⟨by simp [hlength], by simpa [hc] using hq⟩
    · intro h
      obtain ⟨hlength, hall⟩ := h
      cases piece with
      | nil => simp at hlength
      | cons c q =>
        rw [List.forall_mem_cons] at hall
        have hfirst : (Regex.set set).Covers front [c] (q ++ rest) :=
          covers_set.mpr ⟨c, rfl, hall.1⟩
        refine ⟨(front ++ [c]).length, by simpa [Covers] using hfirst, ?_⟩
        have hrest := @ih (front ++ [c]) q
        rw [List.append_assoc front, List.singleton_append] at hrest
        exact hrest.mpr ⟨by simpa using hlength, hall.2⟩

theorem covers_rep_set {set : CodeSet} :
    (rep (.set set) 0 none).Covers front piece rest ↔
      ∀ c ∈ piece, set.contains c.toNat = true := by
  constructor
  · intro h
    obtain ⟨n, _, h⟩ := h
    rw [Nat.zero_add] at h
    exact (rounds_set.mp h).2
  · intro h
    refine ⟨piece.length, by simp, ?_⟩
    rw [Nat.zero_add]
    exact rounds_set.mpr ⟨rfl, h⟩

/-- Some characters in a row, and then an expression. -/
def spelled (word : List Char) (r : Regex) : Regex :=
  word.foldr (fun c r => .cat (.set (.single c.toNat)) r) r

theorem contains_single (c d : Char) :
    (CodeSet.single c.toNat).contains d.toNat = true ↔ d = c := by
  simp only [CodeSet.contains, CodeSet.single, List.any_cons, List.any_nil, Bool.or_false,
    Bool.and_eq_true, decide_eq_true_eq]
  rw [← Char.toNat_inj]
  omega

theorem covers_spelled {word : List Char} :
    (spelled word r).Covers front piece rest ↔
      ∃ q, piece = word ++ q ∧ r.Covers (front ++ word) q rest := by
  induction word generalizing front piece with
  | nil => simp [spelled]
  | cons c word ih =>
    have hcons : spelled (c :: word) r = .cat (.set (.single c.toNat)) (spelled word r) := rfl
    simp only [hcons, covers_cat, covers_set, contains_single, ih]
    constructor
    · intro h
      obtain ⟨p, _, rfl, ⟨d, rfl, rfl⟩, q, rfl, hq⟩ := h
      exact ⟨q, rfl, by simpa using hq⟩
    · intro h
      obtain ⟨q, rfl, hq⟩ := h
      exact ⟨[c], word ++ q, rfl, ⟨c, rfl, rfl⟩, q, rfl, by simpa using hq⟩

theorem covers_spelled_last {word : List Char} {c : Char} :
    (spelled word (.set (.single c.toNat))).Covers front piece rest ↔ piece = word ++ [c] := by
  simp [covers_spelled, covers_set, contains_single]

end

end FeatureLint.Regex
