import FeatureLint.Proofs.TokenRange
import Mathlib.Data.List.TakeWhile

namespace FeatureLint

section

variable {α : Type} {p : α → Bool} {l : List α} {lo hi mid : Nat}

/-- A part of a list that every element with a property stands before or in, and every element
without it in or behind. -/
structure Window (p : α → Bool) (l : List α) (lo hi : Nat) : Prop where
  ordered : lo ≤ hi
  inside : hi ≤ l.length
  front : ∀ a ∈ l.take lo, p a = true
  back : ∀ a ∈ l.drop hi, p a = false

/-- The place where a property ends, found between two others by halving. -/
def halve (p : α → Bool) (l : List α) (lo hi : Nat) : Nat :=
  if h : lo < hi then
    let mid := lo + (hi - lo) / 2
    if l[mid]?.any p then halve p l (mid + 1) hi else halve p l lo mid
  else lo
termination_by hi - lo

def partitionPoint (p : α → Bool) (l : List α) : Nat := halve p l 0 l.length

namespace Window

theorem whole (p : α → Bool) (l : List α) : Window p l 0 l.length :=
  ⟨Nat.zero_le _, Nat.le_refl _, by simp, by simp⟩

/-- All that stands before an element with the property has it. -/
theorem raise (hl : l.Pairwise fun a b => p b = true → p a = true) (w : Window p l lo hi)
    (hmid : mid < hi) (hp : l[mid]?.any p = true) : Window p l (mid + 1) hi := by
  have hlength : mid < l.length := Nat.lt_of_lt_of_le hmid w.inside
  rw [List.getElem?_eq_getElem hlength, Option.any_some] at hp
  refine ⟨hmid, w.inside, ?_, w.back⟩
  intro a ha
  obtain ⟨k, hk, rfl⟩ := List.mem_take_iff_getElem.mp ha
  have hle : k ≤ mid := by omega
  rcases Nat.lt_or_eq_of_le hle with hbefore | rfl
  · exact List.pairwise_iff_getElem.mp hl k mid _ hlength hbefore hp
  · exact hp

/-- All that stands behind an element without the property lacks it too. -/
theorem lower (hl : l.Pairwise fun a b => p b = true → p a = true) (w : Window p l lo hi)
    (hlo : lo ≤ mid) (hmid : mid < hi) (hp : l[mid]?.any p = false) : Window p l lo mid := by
  have hlength : mid < l.length := Nat.lt_of_lt_of_le hmid w.inside
  rw [List.getElem?_eq_getElem hlength, Option.any_some] at hp
  refine ⟨hlo, Nat.le_of_lt hlength, w.front, ?_⟩
  intro a ha
  obtain ⟨k, hk, rfl⟩ := List.mem_drop_iff_getElem.mp ha
  cases hpa : p l[mid + k] with
  | false => rfl
  | true =>
    rcases Nat.eq_zero_or_pos k with rfl | hpos
    · simp [hp] at hpa
    · have hbefore := List.pairwise_iff_getElem.mp hl mid (mid + k) hlength _ (by omega) hpa
      exact absurd hbefore (by simp [hp])

/-- Halving closes a window. -/
theorem close (hl : l.Pairwise fun a b => p b = true → p a = true) (w : Window p l lo hi) :
    Window p l (halve p l lo hi) (halve p l lo hi) := by
  fun_induction halve p l lo hi with
  | case1 lo hi h mid hp ih => exact ih (w.raise hl (by omega) hp)
  | case2 lo hi h mid hp ih => exact ih (w.lower hl (by omega) (by omega) (by simpa using hp))
  | case3 lo hi h => exact Nat.le_antisymm w.ordered (Nat.not_lt.mp h) ▸ w

/-- A closed window stands where the elements with the property end. -/
theorem drop_eq (w : Window p l lo lo) : l.drop lo = l.dropWhile p := by
  have hback : (l.drop lo).dropWhile p = l.drop lo := by
    rw [List.dropWhile_eq_self_iff]
    intro hsome
    simpa using w.back _ (List.getElem_mem hsome)
  calc l.drop lo = (l.take lo ++ l.drop lo).dropWhile p := by
        rw [List.dropWhile_append_of_pos w.front, hback]
    _ = l.dropWhile p := by rw [List.take_append_drop]

end Window

theorem drop_partitionPoint (hl : l.Pairwise fun a b => p b = true → p a = true) :
    l.drop (partitionPoint p l) = l.dropWhile p :=
  ((Window.whole p l).close hl).drop_eq

end

namespace Token

/-- The tokens of a list in the order of their indices, those of one index in the order of the
list. -/
structure StablySorted (listed sorted : List Token) : Prop where
  perm : sorted.Perm listed
  ordered : sorted.Pairwise fun a b => a.index ≤ b.index
  stable : ∀ n, sorted.filter (·.index = n) = listed.filter (·.index = n)

theorem ties_eq_index (t : Token) (ts : List Token) :
    Ordered.ties byIndex t ts = ts.filter (·.index = t.index) := by
  apply List.filter_congr
  intro u _
  rw [Bool.eq_iff_iff]
  simp only [Ordered.level, Bool.and_eq_true, byIndex_iff, decide_eq_true_eq]
  omega

theorem stablySorted_mergeSort (ts : List Token) : StablySorted ts (ts.mergeSort byIndex) := by
  refine ⟨List.mergeSort_perm ts byIndex, ?_, ?_⟩
  · exact (byIndex_ordered.pairwise_mergeSort ts).imp byIndex_iff.mp
  · intro n
    -- Any token of the index will do to name the tie.
    have hties := byIndex_ordered.ties_mergeSort ⟨n, 0, 0, "", false⟩ ts
    rwa [ties_eq_index, ties_eq_index] at hties

/-- A list has one stable sort only. -/
theorem StablySorted.unique {ts sorted sorted' : List Token} (h : StablySorted ts sorted)
    (h' : StablySorted ts sorted') : sorted = sorted' := by
  apply byIndex_ordered.eq_of_ties (h.ordered.imp byIndex_iff.mpr) (h'.ordered.imp byIndex_iff.mpr)
  intro t
  rw [ties_eq_index, ties_eq_index, h.stable, h'.stable]

namespace Stream

/-- The hidden tokens of a range, with the start of the range found by halving. -/
def search (s : Stream) (start stop : Nat) : List Token :=
  if stop < start then []
  else
    let first := partitionPoint (fun t => decide (t.index < start)) s.tokens
    ((s.tokens.drop first).takeWhile fun t => t.index ≤ stop).filter (·.hidden)

theorem search_eq_hidden (s : Stream) (start stop : Nat) :
    s.search start stop = s.hidden start stop := by
  simp only [search, hidden, drop_partitionPoint (s.below_first start)]

/-- Of tokens listed in any order, the hidden ones of a range are found as their stable sort, and no
other list is one. Nothing is found in a range that ends before it starts. To find them, a search by
halving does as well as going through all tokens. -/
theorem hidden_ofList (ts : List Token) (start stop : Nat) :
    (ofList ts).hidden start stop =
        (ts.filter fun t => t.hidden && (start ≤ t.index && t.index ≤ stop)).mergeSort byIndex ∧
      (∀ found, (ofList ts).hidden start stop = found ↔
        StablySorted (ts.filter fun t => t.hidden && (start ≤ t.index && t.index ≤ stop)) found) ∧
      (stop < start → (ofList ts).hidden start stop = []) ∧
      (ofList ts).search start stop = (ofList ts).hidden start stop := by
  have hsorted : (ofList ts).hidden start stop =
      (ts.filter fun t => t.hidden && (start ≤ t.index && t.index ≤ stop)).mergeSort byIndex := by
    -- A stable sort can be exchanged with leaving out the tokens that are not wanted.
    rw [hidden_eq_filter, ← ofList_filter, ofList]
    simp only [Span.covers, Bool.and_comm]
  refine ⟨hsorted, ?_, ?_, search_eq_hidden _ _ _⟩
  · intro found
    rw [hsorted]
    constructor
    · rintro rfl
      exact stablySorted_mergeSort _
    · intro hfound
      exact (stablySorted_mergeSort _).unique hfound
  · intro hempty
    rw [hidden, if_pos hempty]

/-- Two indices with two tokens each, one between them that is not hidden, and a gap. -/
def shuffled : List Token :=
  [⟨5, 3, 0, "# e", true⟩, ⟨2, 1, 0, "# b", true⟩, ⟨4, 2, 0, "Scenario:", false⟩,
    ⟨9, 6, 0, "# z", true⟩, ⟨2, 1, 4, "# a", true⟩, ⟨5, 3, 4, "# d", true⟩]

theorem hidden_shuffled :
    ((ofList shuffled).hidden 2 5).map Token.text = ["# b", "# a", "# e", "# d"] ∧
      (ofList shuffled).search 2 5 = (ofList shuffled).hidden 2 5 ∧
      4 < 5 ∧ (ofList shuffled).hidden 5 4 = [] := by
  obtain ⟨_, hfound, _, hsearch⟩ := hidden_ofList shuffled 2 5
  have hsorted : StablySorted
      (shuffled.filter fun t => t.hidden && (2 ≤ t.index && t.index ≤ 5))
      [⟨2, 1, 0, "# b", true⟩, ⟨2, 1, 4, "# a", true⟩, ⟨5, 3, 0, "# e", true⟩,
        ⟨5, 3, 4, "# d", true⟩] := by
    refine ⟨by decide, by decide, ?_⟩
    intro n
    by_cases hlow : 2 = n
    · subst hlow
      decide
    · simp [shuffled, List.filter_cons, hlow]
  refine ⟨?_, hsearch, by decide, (hidden_ofList shuffled 5 4).2.2.1 (by decide)⟩
  rw [(hfound _).mpr hsorted]
  rfl

end Stream

end Token

end FeatureLint
