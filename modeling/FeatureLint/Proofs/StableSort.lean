import Mathlib.Data.List.Basic

namespace FeatureLint

/-- A comparison that a sort can rely on. Different elements may stand level. -/
structure Ordered {α : Type} (le : α → α → Bool) : Prop where
  trans : ∀ a b c, le a b → le b c → le a c
  total : ∀ a b, le a b || le b a

namespace Ordered

variable {α : Type} {le : α → α → Bool}

def level (le : α → α → Bool) (a b : α) : Bool := le a b && le b a

/-- The elements of a list that stand level with one, in the order of the list. -/
def ties (le : α → α → Bool) (a : α) (l : List α) : List α := l.filter (level le a)

theorem mem_ties {a b : α} {l : List α} :
    b ∈ ties le a l ↔ b ∈ l ∧ le a b = true ∧ le b a = true := by
  simp [ties, level]

theorem ties_filter (a : α) (p : α → Bool) (l : List α) :
    ties le a (l.filter p) = (ties le a l).filter p := by
  simp only [ties, List.filter_filter, Bool.and_comm]

theorem level_self (o : Ordered le) (a : α) : level le a a = true := by
  simpa [level] using o.total a a

theorem mem_own_ties (o : Ordered le) {a : α} {l : List α} (ha : a ∈ l) :
    a ∈ ties le a l :=
  List.mem_filter.mpr ⟨ha, o.level_self a⟩

/-- The first of a sorted list stands at or before all that follows one of its elements. -/
theorem head_le (o : Ordered le) {a b c : α} {l : List α}
    (hl : (a :: l).Pairwise fun x y => le x y) (hc : c ∈ a :: l) (hcb : le c b = true) :
    le a b = true := by
  rcases List.mem_cons.mp hc with rfl | hc
  · exact hcb
  · exact o.trans a c b ((List.pairwise_cons.mp hl).1 c hc) hcb

/-- Two sorted lists with the same ties start with the same element. -/
theorem head_eq_of_ties (o : Ordered le) {a b : α} {l m : List α}
    (hl : (a :: l).Pairwise fun x y => le x y) (hm : (b :: m).Pairwise fun x y => le x y)
    (ht : ∀ c, ties le c (a :: l) = ties le c (b :: m)) : a = b := by
  obtain ⟨hb, hbb, _⟩ := mem_ties.mp (ht b ▸ o.mem_own_ties (a := b) (l := b :: m) (by simp))
  obtain ⟨ha, haa, _⟩ := mem_ties.mp (ht a ▸ o.mem_own_ties (a := a) (l := a :: l) (by simp))
  have hlevel : level le a b = true := by
    simp [level, o.head_le hl hb hbb, o.head_le hm ha haa]
  have hheads := ht a
  simp only [ties, List.filter_cons, o.level_self a, hlevel, ↓reduceIte, List.cons.injEq] at hheads
  exact hheads.1

/-- A sorted list is known by its ties. -/
theorem eq_of_ties (o : Ordered le) {l m : List α}
    (hl : l.Pairwise fun x y => le x y) (hm : m.Pairwise fun x y => le x y)
    (ht : ∀ a, ties le a l = ties le a m) : l = m := by
  induction l generalizing m with
  | nil =>
    cases m with
    | nil => rfl
    | cons b m =>
      have hb := ht b
      simp [ties, o.level_self b] at hb
  | cons a l ih =>
    cases m with
    | nil =>
      have ha := ht a
      simp [ties, o.level_self a] at ha
    | cons b m =>
      have hab := o.head_eq_of_ties hl hm ht
      subst b
      have htail : ∀ c, ties le c l = ties le c m := by
        intro c
        have hc := ht c
        simp only [ties, List.filter_cons] at hc ⊢
        split at hc
        · exact (List.cons.inj hc).2
        · exact hc
      rw [ih hl.of_cons hm.of_cons htail]

theorem pairwise_mergeSort (o : Ordered le) (l : List α) :
    (l.mergeSort le).Pairwise fun x y => le x y :=
  List.pairwise_mergeSort o.trans o.total l

/-- Sorting changes no tie: its elements are a sorted part of the list already. -/
theorem ties_mergeSort (o : Ordered le) (a : α) (l : List α) :
    ties le a (l.mergeSort le) = ties le a l := by
  have hsorted : (ties le a l).Pairwise fun x y => le x y := by
    apply List.pairwise_of_forall_mem_list
    intro x hx y hy
    exact o.trans x a y (mem_ties.mp hx).2.2 (mem_ties.mp hy).2.1
  -- A stable sort keeps a sorted sublist; by its length it is all of the tie.
  have hkeep : (ties le a l).Sublist (l.mergeSort le) :=
    List.sublist_mergeSort o.trans o.total hsorted List.filter_sublist
  have hsub : (ties le a l).Sublist (ties le a (l.mergeSort le)) := by
    simpa [ties] using hkeep.filter (level le a)
  have hlen : (ties le a l).length = (ties le a (l.mergeSort le)).length :=
    ((List.mergeSort_perm l le).filter (level le a)).length_eq.symm
  exact (hsub.eq_of_length hlen).symm

/-- Elements may be left out before a stable sort or after it. -/
theorem mergeSort_filter (o : Ordered le) (p : α → Bool) (l : List α) :
    (l.filter p).mergeSort le = (l.mergeSort le).filter p := by
  apply o.eq_of_ties (o.pairwise_mergeSort _) ((o.pairwise_mergeSort l).filter p)
  intro a
  rw [o.ties_mergeSort, ties_filter, ties_filter, o.ties_mergeSort]

/-- Where only equal elements stand level, the order of the input does not matter. -/
theorem mergeSort_eq_of_perm (o : Ordered le) {l m : List α} (hp : l.Perm m)
    (hd : ∀ a ∈ l, ∀ b ∈ l, level le a b = true → a = b) :
    l.mergeSort le = m.mergeSort le := by
  have hperm : (l.mergeSort le).Perm (m.mergeSort le) :=
    ((List.mergeSort_perm l le).trans hp).trans (List.mergeSort_perm m le).symm
  refine hperm.eq_of_pairwise ?_ (o.pairwise_mergeSort l) (o.pairwise_mergeSort m)
  intro a b ha hb hab hba
  have hb' : b ∈ l := hp.mem_iff.mpr (List.mem_mergeSort.mp hb)
  exact hd a (List.mem_mergeSort.mp ha) b hb' (by simp [level, hab, hba])

end Ordered

end FeatureLint
