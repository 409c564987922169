import FeatureLint.Issue
import FeatureLint.Proofs.LookBack
import Mathlib.Data.List.Nodup

namespace FeatureLint

namespace Rule

/-- A token that the rule never reports, whatever lines and tags stand around it. -/
def Idle (r : Rule) (t : Token) : Prop :=
  t.hidden = false ∨ Comment.isComment t.text = false ∨ r.classifier.isSuppressed t.text = true

instance (r : Rule) (t : Token) : Decidable (r.Idle t) :=
  inferInstanceAs (Decidable (t.hidden = false ∨ Comment.isComment t.text = false ∨
    r.classifier.isSuppressed t.text = true))

def heeds (r : Rule) (t : Token) : Bool :=
  t.isHiddenComment && !r.classifier.isSuppressed t.text

theorem Idle.not_heeds {r : Rule} {t : Token} (h : r.Idle t) : r.heeds t = false := by
  rcases h with h | h | h <;> simp [heeds, Token.isHiddenComment, h]

theorem heeds_of_rejects {r : Rule} {tags : List String} {t : Token}
    (hc : t.isHiddenComment = true) (h : r.classifier.rejects tags t = true) :
    r.heeds t = true := by
  cases hs : r.classifier.isSuppressed t.text with
  | false => simp [heeds, hc, hs]
  | true => simp [Comment.Classifier.rejects, Comment.Classifier.classify, hs] at h

/-- Of a line's comments the rejected ones are found with the heeded tokens alone. -/
theorem rejected_filter_heeds (r : Rule) (ts : List Token) (p : Option Span)
    (tags : List String) :
    ((Token.Stream.ofList (ts.filter r.heeds)).commentsOf p).filter (r.classifier.rejects tags) =
      ((Token.Stream.ofList ts).commentsOf p).filter (r.classifier.rejects tags) := by
  cases p with
  | none => rfl
  | some p =>
    simp only [Token.Stream.commentsOf_some, Token.Stream.commentsIn, Token.Stream.ofList_filter,
      List.filter_filter]
    apply List.filter_congr
    intro t _
    cases hr : r.classifier.rejects tags t with
    | false => simp
    | true =>
      cases hc : t.isHiddenComment with
      | false => simp
      | true => simp [heeds_of_rejects hc hr]

theorem flagged_filter_heeds (r : Rule) (ts : List Token) (earlier : List Line) (line : Line) :
    r.flagged (.ofList (ts.filter r.heeds)) earlier line = r.flagged (.ofList ts) earlier line := by
  cases line with
  | tags l => rfl
  | body start => rfl
  | rule start => rfl
  | header h =>
    simp only [flagged, List.filter_append, List.filter_flatMap, rejected_filter_heeds]

/-- The violations are found with the heeded tokens alone. -/
theorem check_filter_heeds (r : Rule) (ts : List Token) (lines : List Line) :
    r.check (.ofList (ts.filter r.heeds)) lines = r.check (.ofList ts) lines := by
  have hfrom : ∀ earlier, r.reportedFrom (.ofList (ts.filter r.heeds)) earlier lines =
      r.reportedFrom (.ofList ts) earlier lines := by
    induction lines with
    | nil => exact fun _ => rfl
    | cons line lines ih =>
      intro earlier
      simp only [reportedFrom, flagged_filter_heeds, ih]
  rw [check_eq_reported, check_eq_reported, reported, reported, hfrom []]

end Rule

/-- A list of tokens and what is left of it after some idle ones were taken out. -/
inductive Thinned (idle : Token → Prop) : List Token → List Token → Prop where
  | nil : Thinned idle [] []
  | keep (t : Token) {ts kept : List Token} (rest : Thinned idle ts kept) :
      Thinned idle (t :: ts) (t :: kept)
  | drop {t : Token} (h : idle t) {ts kept : List Token} (rest : Thinned idle ts kept) :
      Thinned idle (t :: ts) kept

theorem Thinned.filter_eq {idle : Token → Prop} {ts kept : List Token} {p : Token → Bool}
    (h : Thinned idle ts kept) (hp : ∀ t, idle t → p t = false) : kept.filter p = ts.filter p := by
  induction h with
  | nil => rfl
  | keep t rest ih => simp only [List.filter_cons, ih]
  | drop ht rest ih => simp [hp _ ht, ih]

theorem Rule.check_thinned (r : Rule) {idle : Token → Prop} {ts kept : List Token}
    (lines : List Line) (hidle : ∀ t, idle t → r.Idle t) (h : Thinned idle ts kept) :
    r.check (.ofList kept) lines = r.check (.ofList ts) lines := by
  have hsame : kept.filter r.heeds = ts.filter r.heeds :=
    h.filter_eq fun t ht => (hidle t ht).not_heeds
  rw [← r.check_filter_heeds kept, hsame, r.check_filter_heeds]

/-- Tokens with indices of their own make the same stream in whatever order they are listed. -/
theorem Token.Stream.ofList_perm {ts listed : List Token} (hd : (ts.map Token.index).Nodup)
    (hp : listed.Perm ts) : ofList listed = ofList ts := by
  have hsorted : ts.mergeSort byIndex = listed.mergeSort byIndex := by
    apply byIndex_ordered.mergeSort_eq_of_perm hp.symm
    intro a ha b hb hlevel
    simp only [Ordered.level, Bool.and_eq_true, byIndex_iff] at hlevel
    exact List.inj_on_of_nodup_map hd ha hb (Nat.le_antisymm hlevel.1 hlevel.2)
  simp only [ofList, hsorted]

namespace Checker

/-- The issues of a dump hang on the violations that each rule finds in its stream. -/
theorem checkDump_congr (c : Checker) (file : String) (d : Dump) {ts : List Token}
    (h : ∀ r ∈ c.rules, r.check (.ofList ts) d.lines = r.check d.stream d.lines) :
    c.checkDump file { d with tokens := ts } = c.checkDump file d := by
  unfold checkDump
  apply List.flatMap_congr
  intro r hr
  exact congrArg (List.map (issue file d)) (h r hr)

/-- The issues of a dump, with their order and source lines, stay as they are when tokens that are
idle for every rule are taken out, and, if no two tokens share an index, when the tokens are listed
in another order. -/
theorem checkDump_tokens (c : Checker) (file : String) (d : Dump) :
    (∀ kept, Thinned (fun t => ∀ r ∈ c.rules, r.Idle t) d.tokens kept →
      c.checkDump file { d with tokens := kept } = c.checkDump file d) ∧
    ((d.tokens.map Token.index).Nodup → ∀ listed, listed.Perm d.tokens →
      c.checkDump file { d with tokens := listed } = c.checkDump file d) := by
  constructor
  · intro kept hkept
    apply checkDump_congr
    intro r hr
    exact r.check_thinned d.lines (fun t ht => ht r hr) hkept
  · intro hd listed hp
    apply checkDump_congr
    intro r _
    rw [Token.Stream.ofList_perm hd hp, Dump.stream]

/-- Of the sample the keyword of the rule and the suppressed comment are left out; then all of it is
listed backwards. -/
theorem checkDump_tokens_sample :
    (Checker.mk [Sample.rule]).checkDump "a.feature"
        ⟨none, (Sample.tokens.eraseIdx 5).tail, Sample.lines⟩ =
      (Checker.mk [Sample.rule]).checkDump "a.feature" ⟨none, Sample.tokens, Sample.lines⟩ ∧
    (Checker.mk [Sample.rule]).checkDump "a.feature"
        ⟨none, Sample.tokens.reverse, Sample.lines⟩ =
      (Checker.mk [Sample.rule]).checkDump "a.feature" ⟨none, Sample.tokens, Sample.lines⟩ := by
  have h := checkDump_tokens ⟨[Sample.rule]⟩ "a.feature" ⟨none, Sample.tokens, Sample.lines⟩
  constructor
  · apply h.1
    exact .drop (by decide) (.keep _ (.keep _ (.keep _ (.keep _ (.drop (by decide)
      (.keep _ (.keep _ .nil)))))))
  · exact h.2 (by decide) _ (List.reverse_perm _)

end Checker

end FeatureLint
