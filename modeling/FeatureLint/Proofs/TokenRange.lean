import FeatureLint.Proofs.StableSort
import FeatureLint.Rule

namespace FeatureLint

/-- A closed range of token indices. -/
structure Span where
  start : Nat
  stop : Nat
  deriving DecidableEq, Repr

namespace Span

def covers (p : Span) (t : Token) : Bool := p.start ≤ t.index && t.index ≤ p.stop

theorem covers_iff {p : Span} {t : Token} :
    p.covers t = true ↔ p.start ≤ t.index ∧ t.index ≤ p.stop := by
  simp [covers]

/-- A span that is not empty and ends before the other starts. -/
def Before (p q : Span) : Prop := p.start ≤ p.stop ∧ p.stop < q.start

end Span

/-- The tokens from the start of a tag line to its last tag. -/
def TagLine.span (l : TagLine) : Option Span := l.stop.map (Span.mk l.start)

/-- The tokens from the start of a header to its cutoff. -/
def Header.span (h : Header) : Option Span := h.cutoff.map (Span.mk h.start)

def Line.span : Line → Option Span
  | .tags l => l.span
  | .header h => h.span
  | .body _ => none
  | .rule _ => none

def Token.isHiddenComment (t : Token) : Bool := t.hidden && Comment.isComment t.text

theorem Token.byIndex_ordered : Ordered byIndex := ⟨byIndex_trans, byIndex_total⟩

namespace Token.Stream

/-- The hidden comments of a span, in stream order. -/
def commentsIn (s : Stream) (p : Span) : List Token :=
  s.tokens.filter fun t => p.covers t && t.isHiddenComment

/-- The hidden comments of a span that may be missing. -/
def commentsOf (s : Stream) : Option Span → List Token
  | none => []
  | some p => s.commentsIn p

@[simp]
theorem commentsOf_none (s : Stream) : s.commentsOf none = [] := rfl

@[simp]
theorem commentsOf_some (s : Stream) (p : Span) : s.commentsOf (some p) = s.commentsIn p := rfl

theorem mem_commentsIn {s : Stream} {p : Span} {t : Token} :
    t ∈ s.commentsIn p ↔
      t ∈ s.tokens ∧ p.covers t = true ∧ t.isHiddenComment = true := by
  simp [commentsIn]

theorem ofList_filter (ts : List Token) (p : Token → Bool) :
    (ofList (ts.filter p)).tokens = (ofList ts).tokens.filter p :=
  byIndex_ordered.mergeSort_filter p ts

/-- The comments of a span can be picked first and sorted then. -/
theorem commentsIn_ofList (ts : List Token) (p : Span) :
    (ofList ts).commentsIn p =
      (ts.filter fun t => p.covers t && t.isHiddenComment).mergeSort byIndex :=
  (ofList_filter ts _).symm

end Token.Stream

/-- Where the elements with a property come first, stopping at the first one without it misses none
of them and passes over none of the others. -/
theorem takeWhile_dropWhile_eq_filter {α : Type} {p : α → Bool} {l : List α}
    (hl : l.Pairwise fun a b => p b = true → p a = true) :
    l.takeWhile p = l.filter p ∧ l.dropWhile p = l.filter fun a => !p a := by
  induction l with
  | nil => exact ⟨rfl, rfl⟩
  | cons a l ih =>
    obtain ⟨hfirst, hrest⟩ := List.pairwise_cons.mp hl
    cases ha : p a with
    | true => simpa [ha] using ih hrest
    | false =>
      have hlater : ∀ b ∈ l, p b = false := by
        intro b hb
        cases hpb : p b with
        | true => exact absurd (hfirst b hb hpb) (by simp [ha])
        | false => rfl
      have hnone : l.filter p = [] := List.filter_eq_nil_iff.mpr (by simpa using hlater)
      have hall : l.filter (fun b => !p b) = l := List.filter_eq_self.mpr (by simpa using hlater)
      simp [ha, hnone, hall]

/-- Cut where the property ends, such a list falls into the elements with it and those without. -/
theorem filter_append_filter_not {α : Type} {p : α → Bool} {l : List α}
    (hl : l.Pairwise fun a b => p b = true → p a = true) :
    l.filter p ++ l.filter (fun a => !p a) = l := by
  obtain ⟨htake, hdrop⟩ := takeWhile_dropWhile_eq_filter hl
  rw [← htake, ← hdrop, List.takeWhile_append_dropWhile]

namespace Token.Stream

/-- The tokens up to an index come first in a stream. -/
theorem upTo_first (s : Stream) (n : Nat) :
    s.tokens.Pairwise fun a b => decide (b.index ≤ n) = true → decide (a.index ≤ n) = true := by
  apply s.sorted.imp
  intro a b hab hb
  simp only [decide_eq_true_eq] at hb ⊢
  omega

theorem below_first (s : Stream) (n : Nat) :
    s.tokens.Pairwise fun a b => decide (b.index < n) = true → decide (a.index < n) = true := by
  cases n with
  | zero => exact List.pairwise_of_forall (by simp)
  | succ n => simpa only [Nat.lt_succ_iff] using s.upTo_first n

/-- Going forward to the start of a range and reading up to its end finds every token of it. -/
theorem hidden_eq_filter (s : Stream) (start stop : Nat) :
    s.hidden start stop = s.tokens.filter fun t => Span.covers ⟨start, stop⟩ t && t.hidden := by
  unfold hidden
  split
  · rename_i hempty
    refine (List.filter_eq_nil_iff.mpr ?_).symm
    intro t _ ht
    simp only [Bool.and_eq_true, Span.covers_iff] at ht
    omega
  · rw [(takeWhile_dropWhile_eq_filter (s.below_first start)).2,
      (takeWhile_dropWhile_eq_filter ((s.upTo_first stop).filter _)).1,
      List.filter_filter, List.filter_filter]
    apply List.filter_congr
    intro t _
    simp only [Span.covers, ← decide_not, Nat.not_lt]
    ac_rfl

/-- The comments up to an index and those behind it. -/
theorem commentsIn_split (s : Stream) (p : Span) (n : Nat) :
    (s.commentsIn p).filter (fun t => t.index ≤ n) ++
      (s.commentsIn p).filter (fun t => !decide (t.index ≤ n)) = s.commentsIn p :=
  filter_append_filter_not ((s.upTo_first n).filter _)

/-- A span inside another holds the comments of the other that lie in it. -/
theorem commentsIn_of_covers (s : Stream) {p q : Span} {inside : Token → Bool}
    (h : ∀ t, q.covers t = (p.covers t && inside t)) :
    s.commentsIn q = (s.commentsIn p).filter inside := by
  rw [commentsIn, commentsIn, List.filter_filter]
  apply List.filter_congr
  intro t _
  rw [h t]
  ac_rfl

/-- Two spans that touch hold, one after the other, the comments of the span they make up. -/
theorem commentsIn_append (s : Stream) {a b c : Nat} (hab : a ≤ b) (hbc : b ≤ c) :
    s.commentsIn ⟨a, b⟩ ++ s.commentsIn ⟨b + 1, c⟩ = s.commentsIn ⟨a, c⟩ := by
  have hleft : ∀ t, Span.covers ⟨a, b⟩ t = (Span.covers ⟨a, c⟩ t && decide (t.index ≤ b)) := by
    intro t
    rw [Bool.eq_iff_iff]
    simp only [Bool.and_eq_true, Span.covers_iff, decide_eq_true_eq]
    omega
  have hright : ∀ t, Span.covers ⟨b + 1, c⟩ t =
      (Span.covers ⟨a, c⟩ t && !decide (t.index ≤ b)) := by
    intro t
    rw [Bool.eq_iff_iff]
    simp only [Bool.and_eq_true, Span.covers_iff, Bool.not_eq_true', decide_eq_false_iff_not]
    omega
  rw [s.commentsIn_of_covers hleft, s.commentsIn_of_covers hright]
  exact s.commentsIn_split ⟨a, c⟩ b

/-- Spans that follow each other are met in the order of the stream, and no token twice. -/
theorem flatMap_commentsIn_sublist (s : Stream) {spans : List Span}
    (h : spans.Pairwise Span.Before) : (spans.flatMap s.commentsIn).Sublist s.tokens := by
  induction spans with
  | nil => exact List.nil_sublist _
  | cons p spans ih =>
    obtain ⟨hp, hrest⟩ := List.pairwise_cons.mp h
    -- The stream is cut behind the first span: that span lies before the cut, the others behind it.
    have hhere : (s.commentsIn p).Sublist (s.tokens.filter fun t => t.index ≤ p.stop) := by
      have hall : ∀ t ∈ s.commentsIn p, decide (t.index ≤ p.stop) = true := by
        intro t ht
        simpa using (Span.covers_iff.mp (mem_commentsIn.mp ht).2.1).2
      rw [← List.filter_eq_self.mpr hall]
      exact List.filter_sublist.filter _
    have hlater : (spans.flatMap s.commentsIn).Sublist
        (s.tokens.filter fun t => !decide (t.index ≤ p.stop)) := by
      have hall : ∀ t ∈ spans.flatMap s.commentsIn, (!decide (t.index ≤ p.stop)) = true := by
        intro t ht
        obtain ⟨q, hq, ht⟩ := List.mem_flatMap.mp ht
        have hstart := (Span.covers_iff.mp (mem_commentsIn.mp ht).2.1).1
        have hgap := (hp q hq).2
        simp only [Bool.not_eq_true', decide_eq_false_iff_not]
        omega
      rw [← List.filter_eq_self.mpr hall]
      exact (ih hrest).filter _
    rw [List.flatMap_cons, ← filter_append_filter_not (s.upTo_first p.stop)]
    exact hhere.append hlater

end Token.Stream

/-- The comments that the rule collects for a line are those of its span. -/
theorem Rule.comments_eq (s : Token.Stream) (start : Nat) (stop : Option Nat) :
    Rule.comments s start stop = s.commentsOf (stop.map (Span.mk start)) := by
  cases stop with
  | none => rfl
  | some stop =>
    simp only [Rule.comments, Option.map_some, Token.Stream.commentsOf, Token.Stream.commentsIn,
      Token.Stream.hidden_eq_filter, List.filter_filter]
    apply List.filter_congr
    intro t _
    simp only [Token.isHiddenComment]
    ac_rfl

theorem Rule.ownComments_eq (s : Token.Stream) (l : TagLine) :
    Rule.ownComments s l = s.commentsOf l.span :=
  Rule.comments_eq s l.start l.stop

theorem Rule.headerComments_eq (s : Token.Stream) (h : Header) :
    Rule.headerComments s h = s.commentsOf h.span :=
  Rule.comments_eq s h.start h.cutoff

end FeatureLint
