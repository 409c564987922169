import FeatureLint.Proofs.LookBack

namespace FeatureLint

def Token.shift (k : Nat) (t : Token) : Token := { t with index := t.index + k }

def Tag.shift (k : Nat) (t : Tag) : Tag := { t with index := t.index + k }

def TagLine.shift (k : Nat) (l : TagLine) : TagLine := ⟨l.start + k, l.tags.map (Tag.shift k)⟩

def Keyword.shift (k : Nat) (w : Keyword) : Keyword := { w with index := w.index + k }

def Header.shift (k : Nat) (h : Header) : Header where
  start := h.start + k
  keyword := h.keyword.map (Keyword.shift k)
  steps := h.steps.map (· + k)
  stepDescriptions := h.stepDescriptions.map (· + k)
  descriptions := h.descriptions.map (· + k)

def Line.shift (k : Nat) : Line → Line
  | .tags l => .tags (l.shift k)
  | .header h => .header (h.shift k)
  | .body start => .body (start + k)
  | .rule start => .rule (start + k)

def Span.shift (k : Nat) (p : Span) : Span := ⟨p.start + k, p.stop + k⟩

section

variable (k : Nat)

theorem Token.isHiddenComment_shift (t : Token) :
    (t.shift k).isHiddenComment = t.isHiddenComment := rfl

theorem Span.covers_shift (p : Span) (t : Token) : (p.shift k).covers (t.shift k) = p.covers t := by
  simp [Span.covers, Span.shift, Token.shift]

namespace Token.Stream

theorem ofList_shift (ts : List Token) :
    (ofList (ts.map (Token.shift k))).tokens = (ofList ts).tokens.map (Token.shift k) := by
  refine (List.map_mergeSort ?_).symm
  intro a _ b _
  simp [byIndex, Token.shift]

theorem commentsIn_shift (ts : List Token) (p : Span) :
    (ofList (ts.map (Token.shift k))).commentsIn (p.shift k) =
      ((ofList ts).commentsIn p).map (Token.shift k) := by
  rw [commentsIn, commentsIn, ofList_shift, List.filter_map]
  congr 2
  funext t
  simp only [Function.comp_apply, Span.covers_shift, Token.isHiddenComment_shift]

/-- A span that ends before it starts holds nothing. -/
theorem commentsIn_eq_nil (s : Stream) {p : Span} (h : p.stop < p.start) : s.commentsIn p = [] := by
  refine List.filter_eq_nil_iff.mpr ?_
  intro t _ ht
  rw [Bool.and_eq_true, Span.covers_iff] at ht
  omega

end Token.Stream

theorem Tag.name_shift (t : Tag) : (t.shift k).name = t.name := rfl

theorem TagLine.names_shift (l : TagLine) : (l.shift k).names = l.names := by
  simp [TagLine.names, TagLine.shift, Function.comp_def, Tag.name_shift]

theorem TagLine.span_shift (l : TagLine) : (l.shift k).span = l.span.map (Span.shift k) := by
  simp only [TagLine.span, TagLine.stop, TagLine.shift, List.getLast?_map, Option.map_map]
  rfl

/-- Where the content of a header starts, if it has any. -/
def Header.content? (h : Header) : Option Nat :=
  h.steps.head?.or (h.stepDescriptions.head?.or h.descriptions.head?)

theorem Header.cutoff_of_content {h : Header} {n : Nat} (hn : h.content? = some n) :
    h.cutoff = before n := by
  cases hs : h.steps with
  | cons a _ => simp_all [content?, cutoff]
  | nil =>
    cases hd : h.stepDescriptions with
    | cons a _ => simp_all [content?, cutoff]
    | nil => cases hc : h.descriptions <;> simp_all [content?, cutoff]

theorem Header.cutoff_of_no_content {h : Header} (hn : h.content? = none) :
    h.cutoff = h.keyword.map Keyword.index := by
  simp_all [content?, cutoff]

theorem Header.content?_shift (h : Header) : (h.shift k).content? = h.content?.map (· + k) := by
  simp [content?, shift, Option.map_or]

/-- Behind the first token of all the cutoff moves along. -/
theorem Header.cutoff_shift {h : Header} (hn : h.content? ≠ some 0) :
    (h.shift k).cutoff = h.cutoff.map (· + k) := by
  cases hc : h.content? with
  | none =>
    rw [cutoff_of_no_content hc, cutoff_of_no_content (by rw [content?_shift, hc]; rfl), shift,
      Option.map_map, Option.map_map]
    rfl
  | some n =>
    rw [cutoff_of_content hc, cutoff_of_content (n := n + k) (by rw [content?_shift, hc]; rfl)]
    cases n with
    | zero => exact absurd hc hn
    | succ n => rw [Nat.add_right_comm]; rfl

/-- A header whose content starts with the first token of all. -/
theorem Header.cutoff_at_origin {h : Header} (hn : h.content? = some 0) :
    h.cutoff = none ∧ (h.shift k).cutoff = before k := by
  refine ⟨cutoff_of_content hn, cutoff_of_content ?_⟩
  rw [content?_shift, hn, Option.map_some, Nat.zero_add]

namespace Token.Stream

theorem tagComments_shift (ts : List Token) (l : TagLine) :
    (ofList (ts.map (Token.shift k))).commentsOf (l.shift k).span =
      ((ofList ts).commentsOf l.span).map (Token.shift k) := by
  rw [TagLine.span_shift]
  cases l.span with
  | none => rfl
  | some p => exact commentsIn_shift k ts p

/-- At the origin there is no span before the shift and an empty one after it. -/
theorem headerComments_shift (ts : List Token) (h : Header) :
    (ofList (ts.map (Token.shift k))).commentsOf (h.shift k).span =
      ((ofList ts).commentsOf h.span).map (Token.shift k) := by
  by_cases hn : h.content? = some 0
  · obtain ⟨hnone, hbefore⟩ := Header.cutoff_at_origin k hn
    rw [Header.span, Header.span, hnone, hbefore]
    cases k with
    | zero => rfl
    | succ k =>
      refine commentsIn_eq_nil _ ?_
      simp only [Header.shift]
      omega
  · have hspan : (h.shift k).span = h.span.map (Span.shift k) := by
      rw [Header.span, Header.span, Header.cutoff_shift k hn, Option.map_map, Option.map_map]
      rfl
    rw [hspan]
    cases h.span with
    | none => rfl
    | some p => exact commentsIn_shift k ts p

end Token.Stream

theorem tagGroup_shift (lines : List Line) :
    tagGroup (lines.map (Line.shift k)) = (tagGroup lines).map (TagLine.shift k) := by
  have hends : (fun l : Line => !l.endsGroup) ∘ Line.shift k = fun l => !l.endsGroup := by
    funext l
    cases l <;> rfl
  have htags : ∀ l : Line, (l.shift k).tagLine? = l.tagLine?.map (TagLine.shift k) := by
    intro l
    cases l <;> rfl
  simp only [tagGroup, List.rtakeWhile, ← List.map_reverse, List.takeWhile_map, hends,
    List.filterMap_map, List.map_filterMap, Function.comp_def, htags]

namespace Rule

theorem silences_shift (r : Rule) (group : List TagLine) :
    r.Silences (group.map (TagLine.shift k)) ↔ r.Silences group := by
  simp [Silences, TagLine.shift, Tag.name_shift]

theorem flagged_shift (r : Rule) (ts : List Token) (earlier : List Line) (line : Line) :
    r.flagged (.ofList (ts.map (Token.shift k))) (earlier.map (Line.shift k)) (line.shift k) =
      (r.flagged (.ofList ts) earlier line).map (Token.shift k) := by
  cases line with
  | tags l => rfl
  | body start => rfl
  | rule start => rfl
  | header h =>
    simp only [flagged, Line.shift, tagGroup_shift, silences_shift, List.flatMap_map,
      Token.Stream.tagComments_shift, Token.Stream.headerComments_shift, TagLine.names_shift]
    split
    · rfl
    · rw [← List.map_flatMap, ← List.map_append, List.filter_map]
      rfl

theorem reportedFrom_shift (r : Rule) (ts : List Token) (earlier lines : List Line) :
    r.reportedFrom (.ofList (ts.map (Token.shift k))) (earlier.map (Line.shift k))
        (lines.map (Line.shift k)) =
      (r.reportedFrom (.ofList ts) earlier lines).map (Token.shift k) := by
  induction lines generalizing earlier with
  | nil => rfl
  | cons line lines ih =>
    have hrest := ih (earlier ++ [line])
    rw [List.map_append, List.map_singleton] at hrest
    rw [List.map_cons, reportedFrom, reportedFrom, List.map_append, flagged_shift, hrest]

end Rule

end

/-- A dump whose indices have all grown by `k` has the same violations. That includes headers whose
content starts with the first token of all: before the shift they have no cutoff, and after it the
token in front of the `k`-th. -/
theorem Rule.check_shift (r : Rule) (ts : List Token) (lines : List Line) (k : Nat) :
    r.check (.ofList (ts.map (Token.shift k))) (lines.map (Line.shift k)) =
        r.check (.ofList ts) lines ∧
      ∀ h : Header, h.content? = some 0 →
        h.cutoff = none ∧ (0 < k → (h.shift k).cutoff = some (k - 1)) := by
  constructor
  · rw [check_eq_reported, check_eq_reported, reported, reported]
    have hrun := r.reportedFrom_shift k ts [] lines
    rw [List.map_nil] at hrun
    rw [hrun, List.map_map]
    rfl
  · intro h hn
    obtain ⟨hnone, hbefore⟩ := h.cutoff_at_origin k hn
    refine ⟨hnone, ?_⟩
    intro hk
    obtain ⟨k, rfl⟩ := Nat.exists_eq_succ_of_ne_zero hk.ne'
    exact hbefore

namespace Sample

/-- A header whose first step is the first token of all. -/
def first : Header := ⟨0, none, [0], [], []⟩

end Sample

theorem Rule.check_shift_sample :
    Sample.rule.check (.ofList (Sample.tokens.map (Token.shift 3)))
        ((.header Sample.first :: Sample.lines).map (Line.shift 3)) =
      Sample.rule.check (.ofList Sample.tokens) (.header Sample.first :: Sample.lines) ∧
    Sample.first.cutoff = none ∧ (Sample.first.shift 3).cutoff = some 2 := by
  obtain ⟨hsame, horigin⟩ :=
    check_shift Sample.rule Sample.tokens (.header Sample.first :: Sample.lines) 3
  obtain ⟨hnone, hshifted⟩ := horigin Sample.first rfl
  exact ⟨hsame, hnone, hshifted (by decide)⟩

end FeatureLint
