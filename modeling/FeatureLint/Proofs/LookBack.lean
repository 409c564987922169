import FeatureLint.Proofs.TokenRange
import Mathlib.Data.List.DropRight

namespace FeatureLint

/-- Headers and rule lines end the group of tags in front of them. -/
def Line.endsGroup : Line → Bool
  | .tags _ => false
  | .header _ => true
  | .body _ => false
  | .rule _ => true

def Line.tagLine? : Line → Option TagLine
  | .tags l => some l
  | _ => none

/-- The tag lines behind the last header or rule line. Body lines among them do not count. -/
def tagGroup (lines : List Line) : List TagLine :=
  (lines.rtakeWhile fun l => !l.endsGroup).filterMap Line.tagLine?

@[simp]
theorem tagGroup_nil : tagGroup [] = [] := by
  simp [tagGroup]

@[simp]
theorem tagGroup_tags (lines : List Line) (l : TagLine) :
    tagGroup (lines ++ [.tags l]) = tagGroup lines ++ [l] := by
  simp [tagGroup, Line.endsGroup, Line.tagLine?]

@[simp]
theorem tagGroup_body (lines : List Line) (start : Nat) :
    tagGroup (lines ++ [.body start]) = tagGroup lines := by
  simp [tagGroup, Line.endsGroup, Line.tagLine?]

theorem tagGroup_ended (lines : List Line) {line : Line} (h : line.endsGroup = true) :
    tagGroup (lines ++ [line]) = [] := by
  simp [tagGroup, h]

/-- The violation at the place of a token. -/
def Token.violation (t : Token) : Violation := ⟨11, t.line, t.column⟩

namespace Comment.Classifier

/-- Whether a comment is a violation under some tags. -/
def rejects (c : Classifier) (tags : List String) (t : Token) : Bool := (c.classify tags t).isSome

theorem classify_eq (c : Classifier) (tags : List String) (t : Token) :
    c.classify tags t = if c.rejects tags t then some t.violation else none := by
  cases h : c.classify tags t with
  | none => simp [rejects, h]
  | some v =>
    have hv : v = t.violation := by
      simp only [classify] at h
      split at h
      · cases h
      · split at h
        · cases h
        · exact (Option.some.inj h).symm
    simp [rejects, h, hv]

theorem rejects_iff (c : Classifier) (tags : List String) (t : Token) :
    c.rejects tags t = true ↔
      isComment t.text = true ∧ c.isSuppressed t.text = false ∧
        ∀ tag ∈ tags, startsWithTag t.text tag = false := by
  cases hc : isComment t.text with
  | false => simp [rejects, classify, hc]
  | true =>
    cases hs : c.isSuppressed t.text with
    | true => simp [rejects, classify, hs]
    | false => simp [rejects, classify, hc, hs]

theorem filterMap_classify (c : Classifier) (tags : List String) (ts : List Token) :
    ts.filterMap (c.classify tags) = (ts.filter (c.rejects tags)).map Token.violation := by
  induction ts with
  | nil => rfl
  | cons t ts ih =>
    simp only [List.filterMap_cons, List.filter_cons, c.classify_eq tags t]
    cases c.rejects tags t <;> simp [ih]

end Comment.Classifier

namespace Rule

/-- One of the tag lines has the ignore tag as its last. -/
def Silences (r : Rule) (group : List TagLine) : Prop :=
  ∃ l ∈ group, ∃ t ∈ l.tags.getLast?, t.name = r.ignoreTag

instance (r : Rule) (group : List TagLine) : Decidable (r.Silences group) :=
  inferInstanceAs (Decidable (∃ l ∈ group, ∃ t ∈ l.tags.getLast?, t.name = r.ignoreTag))

/-- The tokens that the rule reports at a line, told from the lines before it alone. All tags of the
group count for each of its comments, also those that come after the comment. -/
def flagged (r : Rule) (s : Token.Stream) (earlier : List Line) : Line → List Token
  | .header h =>
    let group := tagGroup earlier
    if r.Silences group then []
    else
      (group.flatMap (fun l => s.commentsOf l.span) ++ s.commentsOf h.span).filter
        (r.classifier.rejects (group.flatMap TagLine.names))
  | _ => []

/-- The tokens that the rule reports over some lines, with the lines before them given. -/
def reportedFrom (r : Rule) (s : Token.Stream) : List Line → List Line → List Token
  | _, [] => []
  | earlier, line :: lines =>
    r.flagged s earlier line ++ r.reportedFrom s (earlier ++ [line]) lines

def reported (r : Rule) (s : Token.Stream) (lines : List Line) : List Token :=
  r.reportedFrom s [] lines

/-- What the pass remembers agrees with the lines that it has seen. The waiting comments of a group
matter only as long as the group is not silent: of a silent one some were never collected. -/
structure Remembers (r : Rule) (s : Token.Stream) (earlier : List Line) (g : Group) : Prop where
  tags : g.tags = (tagGroup earlier).flatMap TagLine.names
  ignored : g.ignored = true ↔ r.Silences (tagGroup earlier)
  pending : ¬ r.Silences (tagGroup earlier) →
    g.pending = (tagGroup earlier).flatMap fun l => s.commentsOf l.span

section

variable {r : Rule} {s : Token.Stream} {earlier : List Line} {g : Group}

theorem Remembers.of_group_eq {lines : List Line} (hg : r.Remembers s earlier g)
    (h : tagGroup lines = tagGroup earlier) : r.Remembers s lines g := by
  obtain ⟨ht, hi, hp⟩ := hg
  exact ⟨h ▸ ht, h ▸ hi, h ▸ hp⟩

theorem endsWithIgnoreTag_iff (r : Rule) (l : TagLine) :
    r.endsWithIgnoreTag l = true ↔ ∃ t ∈ l.tags.getLast?, t.name = r.ignoreTag := by
  cases h : l.tags.getLast? <;> simp [endsWithIgnoreTag, h]

theorem silences_append (r : Rule) (group : List TagLine) (l : TagLine) :
    r.Silences (group ++ [l]) ↔ r.Silences group ∨ r.endsWithIgnoreTag l = true := by
  rw [endsWithIgnoreTag_iff]
  simp [Silences, or_and_right, exists_or]

theorem not_silences_nil (r : Rule) : ¬ r.Silences [] := by
  simp [Silences]

/-- Nothing is remembered of a group that has not started. -/
theorem remembers_empty (h : tagGroup earlier = []) : r.Remembers s earlier .empty := by
  refine ⟨?_, ?_, ?_⟩
  · simp [h, Group.empty]
  · simp [h, Group.empty, not_silences_nil]
  · simp [h, Group.empty]

/-- A tag line that is not collected from is one of a silent group. -/
theorem remembers_addTags (hg : r.Remembers s earlier g) (l : TagLine) :
    r.Remembers s (earlier ++ [.tags l]) (r.addTags s g l) := by
  have hflag : (g.ignored || r.endsWithIgnoreTag l) = true ↔
      r.Silences (tagGroup (earlier ++ [.tags l])) := by
    rw [tagGroup_tags, silences_append, ← hg.ignored, Bool.or_eq_true]
  refine ⟨?_, hflag, ?_⟩
  · simp [addTags, hg.tags]
  · intro hloud
    have hoff : ¬ (g.ignored || r.endsWithIgnoreTag l) = true := mt hflag.mp hloud
    -- A group that is not silent now was not silent before, so nothing is missing among its comments.
    have hbefore : ¬ r.Silences (tagGroup earlier) := by
      intro hs
      exact hloud (by rw [tagGroup_tags, silences_append]; exact Or.inl hs)
    simp only [addTags, if_neg hoff, tagGroup_tags, List.flatMap_append, List.flatMap_singleton,
      hg.pending hbefore, ownComments_eq]

/-- What one line keeps: the memory still agrees with the lines seen. -/
theorem remembers_visit (hg : r.Remembers s earlier g) (line : Line) :
    r.Remembers s (earlier ++ [line]) (r.visit s g line).1 := by
  cases line with
  | tags l => exact remembers_addTags hg l
  | header h => exact remembers_empty (tagGroup_ended earlier rfl)
  | body start => exact hg.of_group_eq (tagGroup_body earlier start)
  | rule start => exact remembers_empty (tagGroup_ended earlier rfl)

/-- What one line adds, found with the memory, is what looking back finds. -/
theorem visit_violations (hg : r.Remembers s earlier g) (line : Line) :
    (r.visit s g line).2 = (r.flagged s earlier line).map Token.violation := by
  cases line with
  | tags l => rfl
  | body start => rfl
  | rule start => rfl
  | header h =>
    by_cases hs : r.Silences (tagGroup earlier)
    · simp [visit, found, flagged, hs, hg.ignored.mpr hs]
    · have hoff : ¬ g.ignored = true := mt hg.ignored.mp hs
      simp only [visit, found, flagged, if_neg hs, if_neg hoff, headerComments_eq, hg.tags,
        hg.pending hs, Comment.Classifier.filterMap_classify]

/-- The pass over some lines, from any memory that agrees with the lines before them. -/
theorem foundFrom_eq_reportedFrom (hg : r.Remembers s earlier g) (lines : List Line) :
    (r.foundFrom s g lines).flatten = (r.reportedFrom s earlier lines).map Token.violation := by
  induction lines generalizing earlier g with
  | nil => rfl
  | cons line lines ih =>
    -- The memory and the lines before move on together, so both are general in the induction.
    simp only [foundFrom, reportedFrom, List.flatten_cons, List.map_append,
      visit_violations hg line, ih (remembers_visit hg line)]

end

theorem check_eq_reported (r : Rule) (s : Token.Stream) (lines : List Line) :
    r.check s lines = (r.reported s lines).map Token.violation :=
  foundFrom_eq_reportedFrom (remembers_empty tagGroup_nil) lines

theorem reportedFrom_append (r : Rule) (s : Token.Stream) (earlier lines more : List Line) :
    r.reportedFrom s earlier (lines ++ more) =
      r.reportedFrom s earlier lines ++ r.reportedFrom s (earlier ++ lines) more := by
  induction lines generalizing earlier with
  | nil => simp [reportedFrom]
  | cons line lines ih => simp [reportedFrom, ih]

theorem reported_append_singleton (r : Rule) (s : Token.Stream) (lines : List Line) (line : Line) :
    r.reported s (lines ++ [line]) = r.reported s lines ++ r.flagged s lines line := by
  simp [reported, reportedFrom_append, reportedFrom]

/-- Line by line, the violations grow by those that looking back finds: none at a line that is no
header, none below a silent group, and else the comments of the group and of the header that the
classifier rejects under all tags of the group. -/
theorem check_take_succ (r : Rule) (s : Token.Stream) (lines : List Line) (i : Fin lines.length) :
    r.check s (lines.take (i + 1)) =
      r.check s (lines.take i) ++ (r.flagged s (lines.take i) lines[i]).map Token.violation := by
  rw [List.take_succ_eq_append_getElem i.isLt, check_eq_reported, check_eq_reported,
    reported_append_singleton, List.map_append]
  rfl

end Rule

namespace Sample

/-- Comments with an exclamation mark are suppressed. -/
def rule : Rule := ⟨"ignore", ⟨.set (.single 33)⟩⟩

def tokens : List Token :=
  [ ⟨0, 1, 0, "Rule:", false⟩, ⟨1, 2, 0, "@smoke", false⟩, ⟨2, 3, 0, "# slow but sure", true⟩,
    ⟨3, 4, 0, "# one", true⟩, ⟨4, 5, 0, "@slow", false⟩, ⟨5, 6, 0, "# two!", true⟩,
    ⟨6, 7, 0, "# three", true⟩, ⟨7, 8, 0, "Scenario:", false⟩ ]

def stream : Token.Stream := ⟨tokens, by decide⟩

def group : List TagLine := [⟨1, [⟨"@smoke", 1⟩]⟩, ⟨2, [⟨"@slow", 4⟩]⟩]

def header : Header := ⟨5, some ⟨.scenario, 7⟩, [], [], []⟩

def lines : List Line := .rule 0 :: group.map .tags ++ [.header header]

end Sample

-- The first comment starts with a tag that comes after it.
example : Sample.rule.check Sample.stream Sample.lines = [⟨11, 4, 0⟩, ⟨11, 7, 0⟩] := by decide

end FeatureLint
