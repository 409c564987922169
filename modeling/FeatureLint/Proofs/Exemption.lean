import FeatureLint.Proofs.LookBack
import Mathlib.Data.List.Forall2

namespace FeatureLint

/-- Tags and the same tags with new ones among them, each of them in front of an old one. -/
inductive Tag.Laced (new : Tag → Prop) : List Tag → List Tag → Prop where
  | none : Laced new [] []
  | keep (t : Tag) {old more : List Tag} (rest : Laced new old more) :
      Laced new (t :: old) (t :: more)
  | add {t : Tag} (h : new t) {u : Tag} {old more : List Tag} (rest : Laced new (u :: old) more) :
      Laced new (u :: old) (t :: more)

/-- A line and the same line with new tags on it, if it is a tag line. -/
inductive Line.Laced (new : Tag → Prop) : Line → Line → Prop where
  | tags (start : Nat) {old more : List Tag} (h : Tag.Laced new old more) :
      Laced new (.tags ⟨start, old⟩) (.tags ⟨start, more⟩)
  | header (h : Header) : Laced new (.header h) (.header h)
  | body (start : Nat) : Laced new (.body start) (.body start)
  | rule (start : Nat) : Laced new (.rule start) (.rule start)

/-- The tag lines in front of the next header or rule line. -/
def groupAhead (lines : List Line) : List TagLine :=
  (lines.takeWhile fun l => !l.endsGroup).filterMap Line.tagLine?

@[simp]
theorem groupAhead_tags (l : TagLine) (lines : List Line) :
    groupAhead (.tags l :: lines) = l :: groupAhead lines := rfl

@[simp]
theorem groupAhead_header (h : Header) (lines : List Line) :
    groupAhead (.header h :: lines) = [] := rfl

/-- Lines, behind others, and the same lines with new tags on them. Which tags may be new on a line
is told from the whole group of tag lines around it. -/
inductive LacedFrom (new : List TagLine → Tag → Prop) :
    List Line → List Line → List Line → Prop where
  | nil (earlier : List Line) : LacedFrom new earlier [] []
  | cons {earlier : List Line} {line other : Line} {lines others : List Line}
      (here : line.Laced (new (tagGroup earlier ++ groupAhead (line :: lines))) other)
      (rest : LacedFrom new (earlier ++ [line]) lines others) :
      LacedFrom new earlier (line :: lines) (other :: others)

/-- Lines of a body and the same lines with new tags on them. -/
def Laced (new : List TagLine → Tag → Prop) (lines others : List Line) : Prop :=
  LacedFrom new [] lines others

/-- Tag lines of which the second does all that the first does: it covers the same tokens, ends with
the same tag and holds the names of the first. -/
structure TagLine.Carries (l m : TagLine) : Prop where
  span : m.span = l.span
  last : m.tags.getLast? = l.tags.getLast?
  names : l.names ⊆ m.names

namespace Tag.Laced

variable {new : Tag → Prop} {old more : List Tag}

theorem subset (h : Laced new old more) : old ⊆ more := by
  induction h with
  | none => exact List.Subset.refl []
  | keep t rest ih => exact List.cons_subset_cons t ih
  | add h rest ih => exact List.subset_cons_of_subset _ ih

theorem mem_cases (h : Laced new old more) {t : Tag} (ht : t ∈ more) : t ∈ old ∨ new t := by
  induction h with
  | none => exact Or.inl ht
  | keep u rest ih =>
    rcases List.mem_cons.mp ht with rfl | ht
    · exact Or.inl List.mem_cons_self
    · exact (ih ht).imp_left (List.mem_cons_of_mem u)
  | add hnew rest ih =>
    rcases List.mem_cons.mp ht with rfl | ht
    · exact Or.inr hnew
    · exact ih ht

/-- A new tag is never the last, since an old one stands behind it. -/
theorem getLast?_eq (h : Laced new old more) : more.getLast? = old.getLast? := by
  induction h with
  | none => rfl
  | keep t rest ih => rw [List.getLast?_cons, List.getLast?_cons, ih]
  | @add t hnew u old more rest ih =>
    rw [List.getLast?_cons, ih, List.getLast?_cons]
    rfl

theorem carries (h : Laced new old more) (start : Nat) :
    TagLine.Carries ⟨start, old⟩ ⟨start, more⟩ where
  span := by simp only [TagLine.span, TagLine.stop, h.getLast?_eq]
  last := h.getLast?_eq
  names := List.map_subset Tag.name h.subset

end Tag.Laced

/-- What one line keeps: the groups in front of both runs stay line by line the same but for new
tags. -/
theorem carries_tagGroup {new : Tag → Prop} {earlier passed : List Line} {line other : Line}
    (hg : List.Forall₂ TagLine.Carries (tagGroup earlier) (tagGroup passed))
    (h : line.Laced new other) :
    List.Forall₂ TagLine.Carries (tagGroup (earlier ++ [line])) (tagGroup (passed ++ [other])) := by
  cases h with
  | tags start h =>
    rw [tagGroup_tags, tagGroup_tags]
    exact List.rel_append hg (.cons (h.carries start) .nil)
  | header h =>
    rw [tagGroup_ended earlier rfl, tagGroup_ended passed rfl]
    exact .nil
  | body start =>
    rw [tagGroup_body, tagGroup_body]
    exact hg
  | rule start =>
    rw [tagGroup_ended earlier rfl, tagGroup_ended passed rfl]
    exact .nil

section

variable {group wider : List TagLine}

theorem names_subset_of_carries (h : List.Forall₂ TagLine.Carries group wider) :
    group.flatMap TagLine.names ⊆ wider.flatMap TagLine.names := by
  induction h with
  | nil => exact List.Subset.refl []
  | cons hl _ ih =>
    rw [List.flatMap_cons, List.flatMap_cons]
    exact List.append_subset.mpr ⟨List.subset_append_of_subset_left _ hl.names,
      List.subset_append_of_subset_right _ ih⟩

theorem comments_of_carries (s : Token.Stream) (h : List.Forall₂ TagLine.Carries group wider) :
    wider.flatMap (fun l => s.commentsOf l.span) = group.flatMap fun l => s.commentsOf l.span := by
  induction h with
  | nil => rfl
  | cons hl _ ih => rw [List.flatMap_cons, List.flatMap_cons, hl.span, ih]

theorem Rule.silences_of_carries {r q : Rule} (htag : q.ignoreTag = r.ignoreTag)
    (h : List.Forall₂ TagLine.Carries group wider) : q.Silences wider ↔ r.Silences group := by
  induction h with
  | nil => simp [Rule.Silences]
  | cons hl _ ih =>
    simp only [Rule.Silences, List.exists_mem_cons_iff, hl.last, htag] at ih ⊢
    rw [ih]

end

theorem tagGroup_subset {lines all : List Line} (h : lines ⊆ all) :
    tagGroup lines ⊆ all.filterMap Line.tagLine? := by
  intro l hl
  obtain ⟨line, hline, htags⟩ := List.mem_filterMap.mp hl
  have hmem : line ∈ lines := (List.rtakeWhile_suffix _ lines).subset hline
  exact List.mem_filterMap.mpr ⟨line, h hmem, htags⟩

namespace Rule

/-- A rule that exempts, on some lines, all that another exempts: it suppresses every text that the
other suppresses, and silences every group that the other silences, because they share the ignore
tag or because that of the other comes last on no line. -/
structure Milder (q r : Rule) (lines : List Line) : Prop where
  suppressed : ∀ text, r.classifier.isSuppressed text = true →
    q.classifier.isSuppressed text = true
  ignored : q.ignoreTag = r.ignoreTag ∨
    ∀ l ∈ lines.filterMap Line.tagLine?, ∀ t ∈ l.tags.getLast?, t.name ≠ r.ignoreTag

variable {r q : Rule} {s : Token.Stream} {new : List TagLine → Tag → Prop}
  {earlier passed lines others : List Line} {line other : Line}

theorem Milder.silences {all : List Line} (hm : q.Milder r all) (hall : earlier ⊆ all)
    (hg : List.Forall₂ TagLine.Carries (tagGroup earlier) (tagGroup passed))
    (h : r.Silences (tagGroup earlier)) : q.Silences (tagGroup passed) := by
  rcases hm.ignored with htag | hnever
  · exact (silences_of_carries htag hg).mpr h
  · obtain ⟨l, hl, t, ht, hname⟩ := h
    exact absurd hname (hnever l (tagGroup_subset hall hl) t ht)

theorem rejects_of_rejects {tags more : List String} {t : Token}
    (hsuppressed : r.classifier.isSuppressed t.text = true →
      q.classifier.isSuppressed t.text = true)
    (htags : tags ⊆ more) (h : q.classifier.rejects more t = true) :
    r.classifier.rejects tags t = true := by
  rw [Comment.Classifier.rejects_iff] at h ⊢
  obtain ⟨hcomment, hloud, hnone⟩ := h
  refine ⟨hcomment, ?_, fun tag htag => hnone tag (htags htag)⟩
  cases hs : r.classifier.isSuppressed t.text with
  | false => rfl
  | true => exact absurd (hsuppressed hs) (by simp [hloud])

/-- At one line the milder rule, with more tags before it, reports a part of what the other does. -/
theorem flagged_laced {all : List Line} (hm : q.Milder r all) (hall : earlier ⊆ all)
    (hg : List.Forall₂ TagLine.Carries (tagGroup earlier) (tagGroup passed))
    {added : Tag → Prop} (hl : line.Laced added other) :
    (q.flagged s passed other).Sublist (r.flagged s earlier line) := by
  cases hl with
  | tags start h => exact List.Sublist.refl []
  | body start => exact List.Sublist.refl []
  | rule start => exact List.Sublist.refl []
  | header h =>
    simp only [flagged, comments_of_carries s hg]
    by_cases hsilent : q.Silences (tagGroup passed)
    · rw [if_pos hsilent]
      exact List.nil_sublist _
    · rw [if_neg hsilent, if_neg (mt (hm.silences hall hg) hsilent)]
      apply List.monotone_filter_right
      intro t ht
      exact rejects_of_rejects (hm.suppressed t.text) (names_subset_of_carries hg) ht

/-- The same over a run. Both runs move on together, so what stands before them is general. -/
theorem reportedFrom_laced {all : List Line} (hm : q.Milder r all)
    (hl : LacedFrom new earlier lines others) (hall : earlier ++ lines ⊆ all)
    (hg : List.Forall₂ TagLine.Carries (tagGroup earlier) (tagGroup passed)) :
    (q.reportedFrom s passed others).Sublist (r.reportedFrom s earlier lines) := by
  induction hl generalizing passed with
  | nil earlier => exact List.Sublist.refl []
  | @cons earlier line other lines others here rest ih =>
    have hearlier : earlier ⊆ all := (List.append_subset.mp hall).1
    have hrest : earlier ++ [line] ++ lines ⊆ all := by simpa using hall
    exact (flagged_laced hm hearlier hg here).append (ih hrest (carries_tagGroup hg here))

/-- New tags that the group has names for already change nothing at its header. -/
theorem flagged_of_names
    (hg : List.Forall₂ TagLine.Carries (tagGroup earlier) (tagGroup passed))
    (hnames : (tagGroup passed).flatMap TagLine.names ⊆ (tagGroup earlier).flatMap TagLine.names)
    (h : Header) : r.flagged s passed (.header h) = r.flagged s earlier (.header h) := by
  have hrejects : r.classifier.rejects ((tagGroup passed).flatMap TagLine.names) =
      r.classifier.rejects ((tagGroup earlier).flatMap TagLine.names) := by
    funext t
    exact Bool.eq_iff_iff.mpr ⟨rejects_of_rejects id (names_subset_of_carries hg),
      rejects_of_rejects id hnames⟩
  simp only [flagged, comments_of_carries s hg, silences_of_carries rfl hg, hrejects]

/-- What one line keeps: all names in front of the second run are names of the first run's group,
which is the group of the next line too unless the line ends it. -/
theorem names_laced (hnew : ∀ group t, new group t → t.name ∈ group.flatMap TagLine.names)
    (hnames : (tagGroup passed).flatMap TagLine.names ⊆
      (tagGroup earlier ++ groupAhead (line :: lines)).flatMap TagLine.names)
    (hl : line.Laced (new (tagGroup earlier ++ groupAhead (line :: lines))) other) :
    (tagGroup (passed ++ [other])).flatMap TagLine.names ⊆
      (tagGroup (earlier ++ [line]) ++ groupAhead lines).flatMap TagLine.names := by
  cases hl with
  | @tags start old more h =>
    rw [tagGroup_tags, tagGroup_tags, List.append_assoc, List.singleton_append, ← groupAhead_tags,
      List.flatMap_append, List.flatMap_singleton]
    refine List.append_subset.mpr ⟨hnames, ?_⟩
    intro name hname
    obtain ⟨t, ht, rfl⟩ := List.mem_map.mp hname
    rcases h.mem_cases ht with hold | hadded
    · exact List.mem_flatMap.mpr ⟨⟨start, old⟩, by simp, List.mem_map_of_mem hold⟩
    · exact hnew _ t hadded
  | header h =>
    rw [tagGroup_ended passed rfl]
    exact List.nil_subset _
  | body start =>
    rw [tagGroup_body, tagGroup_body]
    exact hnames
  | rule start =>
    rw [tagGroup_ended passed rfl]
    exact List.nil_subset _

theorem reportedFrom_of_names
    (hnew : ∀ group t, new group t → t.name ∈ group.flatMap TagLine.names)
    (hl : LacedFrom new earlier lines others)
    (hg : List.Forall₂ TagLine.Carries (tagGroup earlier) (tagGroup passed))
    (hnames : (tagGroup passed).flatMap TagLine.names ⊆
      (tagGroup earlier ++ groupAhead lines).flatMap TagLine.names) :
    r.reportedFrom s passed others = r.reportedFrom s earlier lines := by
  induction hl generalizing passed with
  | nil earlier => rfl
  | @cons earlier line other lines others here rest ih =>
    have hrest := ih (carries_tagGroup hg here) (names_laced hnew hnames here)
    have hflagged : r.flagged s passed other = r.flagged s earlier line := by
      cases here with
      | tags start h => rfl
      | body start => rfl
      | rule start => rfl
      | header h => exact flagged_of_names hg (by simpa using hnames) h
    rw [reportedFrom, reportedFrom, hflagged, hrest]

/-- Exemptions only take violations away. Under a milder rule, and with new tags on the lines, each
in front of an old one, what is left of the violations is a part of them in their order. Under the
same rule, if the groups have the names of their new tags already, all of them are left. -/
theorem check_exempted (q r : Rule) (s : Token.Stream) (new : List TagLine → Tag → Prop)
    (lines others : List Line) (hm : q.Milder r lines) (hl : Laced new lines others) :
    (q.check s others).Sublist (r.check s lines) ∧
      (q = r → (∀ group t, new group t → t.name ∈ group.flatMap TagLine.names) →
        q.check s others = r.check s lines) := by
  have hstart : List.Forall₂ TagLine.Carries (tagGroup []) (tagGroup []) := by simp
  constructor
  · rw [check_eq_reported, check_eq_reported]
    exact (reportedFrom_laced hm hl (by simp) hstart).map Token.violation
  · rintro rfl hnew
    rw [check_eq_reported, check_eq_reported, reported, reported,
      reportedFrom_of_names hnew hl hstart (by simp)]

end Rule

namespace Sample

/-- The first tag line of the sample with the tag of the second in front of its own. -/
def laced : List Line :=
  [ .rule 0, .tags ⟨1, [⟨"@slow", 0⟩, ⟨"@smoke", 1⟩]⟩, .tags ⟨2, [⟨"@slow", 4⟩]⟩, .header header ]

theorem laced_lines :
    Laced (fun group t => t.name ∈ group.flatMap TagLine.names) lines laced :=
  .cons (.rule 0) (.cons (.tags 1 (.add (by decide) (.keep _ .none)))
    (.cons (.tags 2 (.keep _ .none)) (.cons (.header header) (.nil _))))

end Sample

/-- With the tag of the second line as the ignore tag, in place of one that no line has, nothing is
left; under the rule itself all is. -/
theorem Rule.check_exempted_sample :
    ((Rule.mk "slow" Sample.rule.classifier).check Sample.stream Sample.laced = [] ∧
      ((Rule.mk "slow" Sample.rule.classifier).check Sample.stream Sample.laced).Sublist
        (Sample.rule.check Sample.stream Sample.lines)) ∧
    Sample.rule.check Sample.stream Sample.laced = [⟨11, 4, 0⟩, ⟨11, 7, 0⟩] := by
  refine ⟨⟨by decide, ?_⟩, ?_⟩
  · exact (check_exempted ⟨"slow", Sample.rule.classifier⟩ Sample.rule Sample.stream _ _ _
      ⟨fun _ h => h, Or.inr (by decide)⟩ Sample.laced_lines).1
  · exact ((check_exempted Sample.rule Sample.rule Sample.stream _ _ _
      ⟨fun _ h => h, Or.inl rfl⟩ Sample.laced_lines).2 rfl fun _ _ h => h).trans (by decide)

end FeatureLint
