import FeatureLint.Comment
import FeatureLint.Proofs.GroupContinuation
import FeatureLint.Proofs.Matching

namespace FeatureLint.Regex

/-- A pattern as a piece of its own, however deep it is nested. -/
def piece? (pattern : String) : Option Piece :=
  groupLoop (pattern.toList.length + 1) (.fresh {}) [] [] pattern.toList

theorem ofPattern?_eq_some {p : String} {r : Regex} :
    ofPattern? p = some r ↔ ∃ piece, piece? p = some piece ∧ piece.height ≤ heightLimit ∧
      piece.regex = r := by
  have hbind : ofPattern? p = (piece? p).bind fun piece =>
      if piece.height ≤ heightLimit then some piece.regex else none := rfl
  rw [hbind]
  simp only [Option.bind_eq_some_iff, Option.ite_none_right_eq_some, Option.some.injEq]

/-- An expression between the two ends of the text. -/
def between (r : Regex) : Regex := .cat (.look .textStart) (.cat r (.look .textStop))

/-- Nothing is open. -/
def Nest.top : Nest := ⟨.fresh {}, [], []⟩

/-- The group around a pattern that is put between the two ends. -/
def Nest.started : OpenGroup := (OpenGroup.fresh {}).add (.expr (.look .textStart) 0)

theorem piece?_closed (p : String) :
    piece? (p ++ ")") = Nest.top.loop (p.toList.length + 2) (p.toList ++ [')']) := by
  rw [piece?, String.toList_append, List.length_append]
  rfl

theorem piece?_anchored (p : String) :
    piece? (Comment.anchored p) =
      (Nest.top.inside [Nest.started]).loop (p.toList.length + 5) (p.toList ++ [')', '$']) := by
  have htext : (Comment.anchored p).toList =
      '^' :: '(' :: '?' :: ':' :: (p.toList ++ [')', '$']) := by
    simp [Comment.anchored]
  rw [piece?, htext]
  simp only [List.length_cons, List.length_append, List.length_nil]
  rfl

/-- The end of the text behind a pattern that has been closed. -/
theorem loop_started (piece : Piece) (names : List String) (k : Nat) :
    Nest.loop (k + 2) ⟨Nest.started.add piece, [], names⟩ ['$'] =
      some (.expr (between piece.regex) (piece.height + 1)) := by
  change some (Piece.expr (between piece.regex) (max (max (max 0 0) piece.height) 0 + 1)) = _
  rw [Nat.max_self, Nat.zero_max, Nat.max_zero]

/-- Behind a pattern the parenthesis that was put there closes its group. -/
theorem loop_anchored {u : Nest} {rest : List Char} (k : Nat) (houter : u.outer = [])
    (hrest : skip u.inner.flags rest = [')', '$']) :
    (u.inside [Nest.started]).loop (k + 3) rest =
      some (.expr (between u.inner.content.regex) (u.inner.content.height + 2)) := by
  have hleave : (u.inside [Nest.started]).leave =
      some ⟨Nest.started.add (.expr u.inner.content.regex (u.inner.content.height + 1)), [],
        u.names⟩ := by
    simp only [Nest.leave, Nest.inside, houter, List.nil_append]
  rw [Nest.loop_step (t := u.inside [Nest.started]) (k + 2) hrest, Nest.step, hleave]
  exact loop_started (.expr u.inner.content.regex (u.inner.content.height + 1)) u.names k

/-- A parenthesis where nothing is open cannot be read. -/
theorem loop_closed {u : Nest} {rest : List Char} (k : Nat) (houter : u.outer = [])
    (hrest : skip u.inner.flags rest = [')']) : u.loop (k + 1) rest = none := by
  have hleave : u.leave = none := by
    simp only [Nest.leave, houter]
  rw [Nest.loop_step k hrest, Nest.step, hleave]
  rfl

/-- A pattern with a parenthesis behind it cannot be read, and it can between the two ends of the
text; or it ends inside a comment, and both are the other way round. -/
theorem piece?_enclosed {p : String} {piece : Piece} (h : piece? p = some piece) :
    piece? (p ++ ")") = none ∧ piece? (Comment.anchored p) =
        some (.expr (between piece.regex) (piece.height + 2)) ∨
      piece? (p ++ ")") = some piece ∧ piece? (Comment.anchored p) = none := by
  obtain ⟨u, left, houter, hcontent, htrails, hend⟩ :=
    Nest.loop_inside (t := Nest.top) (trails_append p.toList) h
  subst hcontent
  have hnothing : ∀ t : Nest, t.inside [] = t := by
    intro t
    simp only [Nest.inside, List.append_nil]
  have hparen : Tail [')'] := Or.inr (Or.inl rfl)
  have hends : Tail [')', '$'] := Or.inr (Or.inr rfl)
  obtain ⟨k, rest, _, hrest, hclosed⟩ := hend _ hparen [] (p.toList.length + 2) (Nat.le_succ _)
  obtain ⟨m, rest', hm, hrest', hanchored⟩ :=
    hend _ hends [Nest.started] (p.toList.length + 5) (by omega)
  rw [hnothing, hnothing] at hclosed
  rw [piece?_closed, piece?_anchored, hclosed, hanchored]
  rcases htrails with hleft | ⟨_, hleft⟩
  · left
    obtain ⟨m, rfl⟩ : ∃ k, m = k + 2 := ⟨m - 2, by omega⟩
    exact ⟨loop_closed k houter (hrest.trans (hleft _ hparen)),
      loop_anchored m houter (hrest'.trans (hleft _ hends))⟩
  · right
    constructor
    · rw [Nest.loop_end k (hrest.trans (hleft _ hparen)), houter]
      rfl
    · rw [Nest.loop_end (t := u.inside _) m (hrest'.trans (hleft _ hends))]
      simp only [Nest.inside, houter]
      rfl

theorem compile?_eq_some {fits : String → Regex → Bool} {p : String} {r : Regex} :
    compile? p fits = some r ↔ ofPattern? p = some r ∧ fits p r = true := by
  constructor
  · intro h
    obtain ⟨r', hread, hroom⟩ := Option.bind_eq_some_iff.mp h
    obtain ⟨hfits, heq⟩ := Option.ite_none_right_eq_some.mp hroom
    cases heq
    exact ⟨hread, hfits⟩
  · intro h
    obtain ⟨hread, hfits⟩ := h
    simp [compile?, hread, hfits]

/-- The pattern ends inside a comment: a parenthesis behind it that closes nothing is no fault. -/
def EndsInComment (p : String) : Prop := (ofPattern? (p ++ ")")).isSome = true

/-- How deep the parts of a pattern are nested. -/
def nesting (p : String) : Nat := ((piece? p).map Piece.height).getD 0

/-- There is room for a pattern with this expression between the two ends of the text. -/
structure Enclosable (fits : String → Regex → Bool) (p : String) (r : Regex) : Prop where
  closes : ¬ EndsInComment p
  shallow : nesting p + 2 ≤ heightLimit
  small : fits (Comment.anchored p) (between r) = true

theorem compile?_anchored {fits : String → Regex → Bool} {p : String} {r : Regex}
    (h : ofPattern? p = some r) (r' : Regex) :
    compile? (Comment.anchored p) fits = some r' ↔ Enclosable fits p r ∧ r' = between r := by
  obtain ⟨piece, hpiece, hheight, rfl⟩ := ofPattern?_eq_some.mp h
  have hnesting : nesting p = piece.height := by
    rw [nesting, hpiece]
    rfl
  rw [compile?_eq_some, ofPattern?_eq_some]
  rcases piece?_enclosed hpiece with ⟨hclosed, hanchored⟩ | ⟨hclosed, hanchored⟩
  · have hends : ¬ EndsInComment p := by
      intro hends
      obtain ⟨r, hr⟩ := Option.isSome_iff_exists.mp hends
      obtain ⟨other, hother, _⟩ := ofPattern?_eq_some.mp hr
      cases hclosed.symm.trans hother
    constructor
    · intro h
      obtain ⟨⟨whole, hwhole, hlimit, rfl⟩, hfits⟩ := h
      cases hanchored.symm.trans hwhole
      exact ⟨⟨hends, hnesting ▸ hlimit, hfits⟩, rfl⟩
    · intro h
      obtain ⟨henclosable, rfl⟩ := h
      exact ⟨⟨_, hanchored, hnesting ▸ henclosable.shallow, rfl⟩, henclosable.small⟩
  · have hends : EndsInComment p :=
      Option.isSome_iff_exists.mpr ⟨_, ofPattern?_eq_some.mpr ⟨piece, hclosed, hheight, rfl⟩⟩
    constructor
    · intro h
      obtain ⟨⟨whole, hwhole, _⟩, _⟩ := h
      cases hanchored.symm.trans hwhole
    · intro h
      exact absurd hends h.1.closes

theorem matchesWhole_iff_covers (r : Regex) (s : String) :
    r.matchesWhole s = true ↔ r.Covers [] s.toList [] := by
  have hfollows := follows_run s.toList r
  have hmarks : (true :: List.replicate s.toList.length false).length = s.toList.length + 1 := by
    rw [List.length_cons, List.length_replicate]
  have hlast : (run s.toList r (true :: List.replicate s.toList.length false)).getLast? =
      (run s.toList r (true :: List.replicate s.toList.length false))[s.toList.length]? := by
    rw [List.getLast?_eq_getElem?, hfollows.length hmarks, Nat.add_sub_cancel]
  -- Only the first place is marked at the start.
  have hfirst : ∀ i, (true :: List.replicate s.toList.length false)[i]? = some true ↔ i = 0 := by
    intro i
    cases i with
    | zero => simp
    | succ i => simp [List.getElem?_replicate]
  simp only [matchesWhole, beq_iff_eq, hlast, hfollows.marked hmarks, hfirst, exists_eq_left,
    Covers, List.nil_append, List.append_nil, List.length_nil]

theorem covers_between {r : Regex} {front piece rest : List Char} :
    (between r).Covers front piece rest ↔ front = [] ∧ rest = [] ∧ r.Covers [] piece [] := by
  rw [between, covers_textStart, covers_textStop]

theorem matchesIn_between (r : Regex) (s : String) :
    (between r).matchesIn s = true ↔ r.Covers [] s.toList [] := by
  rw [matchesIn_iff_covers]
  constructor
  · intro h
    obtain ⟨front, piece, rest, hs, hcovers⟩ := h
    obtain ⟨rfl, rfl, hr⟩ := covers_between.mp hcovers
    rwa [hs, List.nil_append, List.append_nil]
  · intro hr
    exact ⟨[], s.toList, [], by simp, covers_between.mpr ⟨rfl, rfl, hr⟩⟩

theorem matchesWhole_between (r : Regex) (s : String) :
    (between r).matchesWhole s = true ↔ r.Covers [] s.toList [] := by
  simp only [matchesWhole_iff_covers, covers_between, true_and]

end FeatureLint.Regex

namespace FeatureLint.Comment

open Regex (between)

/-- A classifier can be made of a pattern that can be read on its own exactly if there is room for
it between the two ends of the text, where it then stands as a whole. -/
theorem Classifier.ofPattern?_eq_some {fits : String → Regex → Bool} {p : String} {r : Regex}
    (h : Regex.ofPattern? p = some r) {c : Classifier} :
    Classifier.ofPattern? p fits = some c ↔ Regex.Enclosable fits p r ∧ c = ⟨between r⟩ := by
  simp only [Classifier.ofPattern?, Option.map_eq_some_iff, Regex.compile?_anchored h, and_assoc,
    exists_and_left, exists_eq_left, @eq_comm _ c]

/-- A comment is suppressed exactly if the expression matches it from its first to its last
character, and this is so exactly if the pattern as it is written does. -/
theorem isSuppressed_iff_matchesWhole {fits : String → Regex → Bool} {p : String} {r : Regex}
    {c : Classifier} (hp : Regex.ofPattern? p = some r)
    (hc : Classifier.ofPattern? p fits = some c) (text : String) :
    (c.isSuppressed text = true ↔ c.suppression.matchesWhole text = true) ∧
      (c.isSuppressed text = true ↔ r.matchesWhole text = true) := by
  obtain ⟨_, rfl⟩ := (Classifier.ofPattern?_eq_some hp).mp hc
  rw [Classifier.isSuppressed, Regex.matchesIn_between, Regex.matchesWhole_between,
    Regex.matchesWhole_iff_covers]
  exact ⟨Iff.rfl, Iff.rfl⟩

theorem isSuppressed_iff_matchesWhole_sample :
    ∃ r c, Regex.ofPattern? "#a|#b" = some r ∧ Classifier.ofPattern? "#a|#b" = some c ∧
      (∀ text, (c.isSuppressed text = true ↔ c.suppression.matchesWhole text = true) ∧
        (c.isSuppressed text = true ↔ r.matchesWhole text = true)) ∧
      c.isSuppressed "#b" = true ∧ c.isSuppressed "#a tail" = false := by
  obtain ⟨r, hr⟩ : ∃ r, Regex.ofPattern? "#a|#b" = some r :=
    Option.isSome_iff_exists.mp (by decide +kernel)
  have hc : (Classifier.ofPattern? "#a|#b").map
      (fun c => (c.isSuppressed "#b", c.isSuppressed "#a tail")) = some (true, false) := by
    decide +kernel
  obtain ⟨c, hc, hshown⟩ := Option.map_eq_some_iff.mp hc
  obtain ⟨hlast, htail⟩ := Prod.mk.inj hshown
  exact ⟨r, c, hr, hc, isSuppressed_iff_matchesWhole hr hc, hlast, htail⟩

/-- A pattern that closes the parenthesis put in front of it is held by the two ends in parts only:
what it matches need not reach the end of the text. -/
theorem isSuppressed_in_part : ∃ c, Classifier.ofPattern? "#a)|(?:#b" = some c ∧
    c.isSuppressed "#a tail" = true ∧ c.suppression.matchesWhole "#a tail" = false := by
  have hc : (Classifier.ofPattern? "#a)|(?:#b").map
      (fun c => (c.isSuppressed "#a tail", c.suppression.matchesWhole "#a tail")) =
        some (true, false) := by
    decide +kernel
  obtain ⟨c, hc, hshown⟩ := Option.map_eq_some_iff.mp hc
  obtain ⟨hfound, hwhole⟩ := Prod.mk.inj hshown
  exact ⟨c, hc, hfound, hwhole⟩

end FeatureLint.Comment
