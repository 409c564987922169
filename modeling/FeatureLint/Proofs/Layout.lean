import FeatureLint.Proofs.LookBack

namespace FeatureLint

/-- Of the lines that have a span, each ends before the next ones start. -/
def LaidOut (lines : List Line) : Prop := (lines.filterMap Line.span).Pairwise Span.Before

instance (p q : Span) : Decidable (p.Before q) :=
  inferInstanceAs (Decidable (p.start ≤ p.stop ∧ p.stop < q.start))

instance (lines : List Line) : Decidable (LaidOut lines) :=
  inferInstanceAs (Decidable ((lines.filterMap Line.span).Pairwise Span.Before))

namespace Token.Stream

/-- The hidden comments of all lines, whether or not they are reported. -/
def commentsOn (s : Stream) (lines : List Line) : List Token :=
  lines.flatMap fun line => s.commentsOf line.span

theorem commentsOn_eq (s : Stream) (lines : List Line) :
    s.commentsOn lines = (lines.filterMap Line.span).flatMap s.commentsIn := by
  induction lines with
  | nil => rfl
  | cons line lines ih =>
    simp only [commentsOn] at ih ⊢
    cases h : line.span <;> simp [h, ih]

theorem commentsOn_sublist (s : Stream) {lines : List Line} (h : LaidOut lines) :
    (s.commentsOn lines).Sublist s.tokens := by
  rw [commentsOn_eq]
  exact s.flatMap_commentsIn_sublist h

end Token.Stream

namespace Rule

theorem flagged_header_sublist (r : Rule) (s : Token.Stream) (earlier : List Line) (h : Header) :
    (r.flagged s earlier (.header h)).Sublist
      ((tagGroup earlier).flatMap (fun l => s.commentsOf l.span) ++ s.commentsOf h.span) := by
  simp only [flagged]
  split
  · exact List.nil_sublist _
  · exact List.filter_sublist

/-- Comments are reported in the order in which the lines hold them. Those of the open group, which
are reported at some later header or never, come first. -/
theorem reportedFrom_sublist (r : Rule) (s : Token.Stream) (earlier lines : List Line) :
    (r.reportedFrom s earlier lines).Sublist
      ((tagGroup earlier).flatMap (fun l => s.commentsOf l.span) ++ s.commentsOn lines) := by
  induction lines generalizing earlier with
  | nil => exact List.nil_sublist _
  | cons line lines ih =>
    have hrest := ih (earlier ++ [line])
    cases line with
    | tags l =>
      simpa [reportedFrom, flagged, Token.Stream.commentsOn, Line.span] using hrest
    | header h =>
      rw [tagGroup_ended earlier rfl] at hrest
      have hhere := r.flagged_header_sublist s earlier h
      simpa [reportedFrom, Token.Stream.commentsOn, Line.span] using hhere.append hrest
    | body start =>
      simpa [reportedFrom, flagged, Token.Stream.commentsOn, Line.span] using hrest
    | rule start =>
      rw [tagGroup_ended earlier rfl] at hrest
      have hshort : (r.reportedFrom s (earlier ++ [.rule start]) lines).Sublist
          (s.commentsOn lines) := by simpa using hrest
      simpa [reportedFrom, flagged, Token.Stream.commentsOn, Line.span] using
        hshort.trans (List.sublist_append_right _ (s.commentsOn lines))

theorem reported_sublist (r : Rule) (s : Token.Stream) {lines : List Line} (h : LaidOut lines) :
    (r.reported s lines).Sublist s.tokens := by
  have hlines : (r.reported s lines).Sublist (s.commentsOn lines) := by
    simpa [reported] using r.reportedFrom_sublist s [] lines
  exact hlines.trans (s.commentsOn_sublist h)

/-- Over lines laid out one behind the other the rule reports a part of the stream: in stream order
over the whole run, and no token more often than the stream holds it. -/
theorem check_in_token_order (r : Rule) (s : Token.Stream) (lines : List Line)
    (h : LaidOut lines) :
    r.check s lines = (r.reported s lines).map Token.violation ∧
      (r.reported s lines).Sublist s.tokens ∧
      (∀ t, (r.reported s lines).count t ≤ s.tokens.count t) ∧
      (r.reported s lines).Pairwise fun a b => a.index ≤ b.index := by
  have hsub := r.reported_sublist s h
  exact ⟨r.check_eq_reported s lines, hsub, fun t => hsub.count_le t, s.sorted.sublist hsub⟩

theorem check_in_token_order_sample : LaidOut Sample.lines ∧
    Sample.rule.check Sample.stream Sample.lines = [⟨11, 4, 0⟩, ⟨11, 7, 0⟩] ∧
    (Sample.rule.reported Sample.stream Sample.lines).Sublist Sample.tokens := by
  have h : LaidOut Sample.lines := by decide
  obtain ⟨_, hsub, _⟩ := check_in_token_order Sample.rule Sample.stream Sample.lines h
  exact ⟨h, by decide, hsub⟩

end Rule

/-- Where a group starts: with its first tag line or, if it has none, with its header. -/
def groupStart (h : Header) : List TagLine → Nat
  | [] => h.start
  | l :: _ => l.start

/-- No tag line is empty, and behind the last tag of each the next line starts. -/
def Touching (h : Header) : List TagLine → Prop
  | [] => ∃ stop ∈ h.cutoff, h.start ≤ stop
  | l :: rest =>
    (∃ stop ∈ l.stop, l.start ≤ stop ∧ groupStart h rest = stop + 1) ∧ Touching h rest

theorem groupStart_le {h : Header} {group : List TagLine} {c : Nat} (hc : h.cutoff = some c)
    (ht : Touching h group) : groupStart h group ≤ c := by
  induction group with
  | nil =>
    obtain ⟨stop, hstop, hle⟩ := ht
    rw [hc] at hstop
    cases hstop
    exact hle
  | cons l rest ih =>
    obtain ⟨⟨stop, _, hle, hnext⟩, hrest⟩ := ht
    have hc' := ih hrest
    simp only [groupStart]
    omega

/-- The lookups of the lines of a group, put together, are one lookup from its start to its end. -/
theorem Token.Stream.group_commentsIn (s : Token.Stream) {h : Header} {group : List TagLine}
    {c : Nat} (hc : h.cutoff = some c) (ht : Touching h group) :
    group.flatMap (fun l => s.commentsOf l.span) ++ s.commentsOf h.span =
      s.commentsIn ⟨groupStart h group, c⟩ := by
  induction group with
  | nil => simp [Header.span, hc, groupStart]
  | cons l rest ih =>
    obtain ⟨⟨stop, hstop, hle, hnext⟩, hrest⟩ := ht
    have hend := groupStart_le hc hrest
    have hspan : l.span = some ⟨l.start, stop⟩ := by
      simp only [TagLine.span, Option.mem_def.mp hstop, Option.map_some]
    rw [List.flatMap_cons, List.append_assoc, ih hrest, hspan, hnext, commentsOf_some]
    exact s.commentsIn_append hle (by omega)

theorem tagGroup_append_tags (lines : List Line) (group : List TagLine) :
    tagGroup (lines ++ group.map .tags) = tagGroup lines ++ group := by
  induction group generalizing lines with
  | nil => simp
  | cons l rest ih =>
    have h := ih (lines ++ [.tags l])
    simpa using h

theorem tagGroup_eq_nil {lines : List Line} (h : ∀ line ∈ lines.getLast?, line.endsGroup = true) :
    tagGroup lines = [] := by
  cases lines using List.reverseRecOn with
  | nil => exact tagGroup_nil
  | append_singleton lines line => exact tagGroup_ended lines (h line (by simp))

namespace Rule

/-- A group whose lines touch is judged as one range: behind the lines before it, the violations at
its header are those of the comments from its start to the cutoff, classified under all its tags. -/
theorem check_touching_group (r : Rule) (ts : List Token) (earlier : List Line)
    (group : List TagLine) (h : Header) (c : Nat)
    (hfirst : ∀ line ∈ earlier.getLast?, line.endsGroup = true)
    (hc : h.cutoff = some c) (ht : Touching h group) (hloud : ¬ r.Silences group) :
    r.check (.ofList ts) (earlier ++ group.map .tags ++ [.header h]) =
      r.check (.ofList ts) (earlier ++ group.map .tags) ++
        ((ts.filter fun t => Span.covers ⟨groupStart h group, c⟩ t && t.isHiddenComment).mergeSort
          Token.byIndex).filterMap (r.classifier.classify (group.flatMap TagLine.names)) := by
  have hgroup : tagGroup (earlier ++ group.map .tags) = group := by
    rw [tagGroup_append_tags, tagGroup_eq_nil hfirst, List.nil_append]
  have hflagged : r.flagged (.ofList ts) (earlier ++ group.map .tags) (.header h) =
      ((Token.Stream.ofList ts).commentsIn ⟨groupStart h group, c⟩).filter
        (r.classifier.rejects (group.flatMap TagLine.names)) := by
    simp only [flagged, hgroup, if_neg hloud, Token.Stream.group_commentsIn _ hc ht]
  rw [check_eq_reported, check_eq_reported, reported_append_singleton, List.map_append, hflagged,
    ← Token.Stream.commentsIn_ofList, Comment.Classifier.filterMap_classify]

theorem check_touching_group_sample : Touching Sample.header Sample.group ∧
    ¬ Sample.rule.Silences Sample.group ∧
    Sample.rule.check (.ofList Sample.tokens) Sample.lines = [⟨11, 4, 0⟩, ⟨11, 7, 0⟩] := by
  have ht : Touching Sample.header Sample.group :=
    ⟨⟨1, rfl, by decide, rfl⟩, ⟨4, rfl, by decide, rfl⟩, 7, rfl, by decide⟩
  have hloud : ¬ Sample.rule.Silences Sample.group := by decide
  refine ⟨ht, hloud, ?_⟩
  have h := check_touching_group Sample.rule Sample.tokens [.rule 0] Sample.group Sample.header 7
    (by simp [Line.endsGroup]) rfl ht hloud
  rw [List.mergeSort_of_pairwise (by decide)] at h
  exact h.trans (by decide)

end Rule

end FeatureLint
