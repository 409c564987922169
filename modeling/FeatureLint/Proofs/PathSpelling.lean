import FeatureLint.Path
import Mathlib.Data.List.Induction

namespace FeatureLint.Path

/-- A segment that leads nowhere. -/
def Idle (segment : String) : Prop := segment = "" ∨ segment = "."

/-- What an entry of a directory can be called. -/
structure IsName (s : String) : Prop where
  slashFree : '/' ∉ s.toList
  busy : ¬ Idle s
  notUp : s ≠ ".."

instance (s : String) : Decidable (IsName s) :=
  decidable_of_iff ('/' ∉ s.toList ∧ ¬ (s = "" ∨ s = ".") ∧ s ≠ "..")
    ⟨fun h => ⟨h.1, h.2.1, h.2.2⟩, fun h => ⟨h.slashFree, h.busy, h.notUp⟩⟩

/-- The path leads from the current directory and says so. -/
def StartsHere (path : String) : Prop := (components path).head? = some .here

instance (s : String) : Decidable (Idle s) := inferInstanceAs (Decidable (s = "" ∨ s = "."))

instance (path : String) : Decidable (StartsHere path) :=
  inferInstanceAs (Decidable ((components path).head? = some .here))

/-- The segments of a text given as characters. -/
def segmentsOf (cs : List Char) : List String := (cs.splitOn '/').map String.ofList

theorem segmentsLoop_eq (cs segment : List Char) (done : List String) :
    segmentsLoop cs segment done =
      done.reverse ++ (List.splitOnPPrepend (· == '/') cs segment).map String.ofList := by
  induction cs generalizing segment done with
  | nil => simp [segmentsLoop]
  | cons c cs ih =>
    simp only [segmentsLoop, List.splitOnPPrepend_cons_eq_if, beq_iff_eq]
    split <;> simp [ih]

theorem segments_eq (path : String) : segments path = segmentsOf path.toList := by
  simp [segments, segmentsLoop_eq, segmentsOf, List.splitOn_eq_splitOnP]

theorem segments_ofList (cs : List Char) : segments (String.ofList cs) = segmentsOf cs := by
  simp [segments_eq]

theorem segmentsOf_append_slash (cs ds : List Char) :
    segmentsOf (cs ++ '/' :: ds) = segmentsOf cs ++ segmentsOf ds := by
  simp [segmentsOf, List.splitOn_append_cons_self]

theorem segmentsOf_slash (ds : List Char) : segmentsOf ('/' :: ds) = "" :: segmentsOf ds :=
  segmentsOf_append_slash [] ds

theorem segmentsOf_slashFree {cs : List Char} (h : '/' ∉ cs) :
    segmentsOf cs = [String.ofList cs] := by
  simp [segmentsOf, List.splitOn_eq_singleton h]

theorem segmentsOf_ne_nil (cs : List Char) : segmentsOf cs ≠ [] := by
  simp [segmentsOf]

theorem slashFree_of_mem_segmentsOf {cs : List Char} {s : String} (h : s ∈ segmentsOf cs) :
    '/' ∉ s.toList := by
  by_cases hslash : '/' ∈ cs
  · obtain ⟨first, rest, rfl, hfirst⟩ := List.eq_append_cons_of_mem hslash
    rw [segmentsOf_append_slash, segmentsOf_slashFree hfirst] at h
    rcases List.mem_cons.mp h with rfl | h
    · simpa using hfirst
    · exact slashFree_of_mem_segmentsOf h
  · rw [segmentsOf_slashFree hslash, List.mem_singleton] at h
    simpa [h] using hslash
termination_by cs.length
decreasing_by
  subst_vars
  simp only [List.length_append, List.length_cons]
  omega

/-- A text is one segment, or its first segment, a slash and the rest. -/
theorem first_segment (cs : List Char) :
    segmentsOf cs = [String.ofList cs] ∨
      ∃ first rest, cs = first ++ '/' :: rest ∧
        segmentsOf cs = String.ofList first :: segmentsOf rest := by
  by_cases h : '/' ∈ cs
  · obtain ⟨first, rest, rfl, hfirst⟩ := List.eq_append_cons_of_mem h
    refine Or.inr ⟨first, rest, rfl, ?_⟩
    rw [segmentsOf_append_slash, segmentsOf_slashFree hfirst, List.singleton_append]
  · exact Or.inl (segmentsOf_slashFree h)

/-- A text is one segment, or what is in front of its last slash and its last segment. -/
theorem last_segment (cs : List Char) :
    segmentsOf cs = [String.ofList cs] ∨
      ∃ front last, cs = front ++ '/' :: last ∧
        segmentsOf cs = segmentsOf front ++ [String.ofList last] := by
  by_cases h : '/' ∈ cs
  · obtain ⟨back, front, hcs, hback⟩ := List.eq_append_cons_of_mem (List.mem_reverse.mpr h)
    have hsplit : cs = front.reverse ++ '/' :: back.reverse := by
      simpa using congrArg List.reverse hcs
    refine Or.inr ⟨front.reverse, back.reverse, hsplit, ?_⟩
    have hlast : '/' ∉ back.reverse := by simpa using hback
    rw [hsplit, segmentsOf_append_slash, segmentsOf_slashFree hlast]
  · exact Or.inl (segmentsOf_slashFree h)

/-- A text that starts with a slash has an empty segment in front of others, and no other has. -/
theorem head_slash_iff (cs : List Char) :
    cs.head? = some '/' ↔ ∃ rest, rest ≠ [] ∧ segmentsOf cs = "" :: rest := by
  constructor
  · intro h
    obtain ⟨rest, rfl⟩ : ∃ rest, cs = '/' :: rest := by
      cases cs with
      | nil => cases h
      | cons c rest => exact ⟨rest, by simpa using h⟩
    exact ⟨segmentsOf rest, segmentsOf_ne_nil rest, segmentsOf_slash rest⟩
  · rintro ⟨rest, hrest, h⟩
    rcases first_segment cs with hone | ⟨first, more, rfl, hmore⟩
    · rw [hone] at h
      exact absurd (List.cons.inj h).2.symm hrest
    · rw [hmore] at h
      have hfirst : first = [] := String.ofList_eq_empty_iff.mp (List.cons.inj h).1
      simp [hfirst]

theorem Component.ofSegment?_idle {s : String} (h : Idle s) : Component.ofSegment? s = none := by
  rcases h with rfl | rfl <;> rfl

theorem Component.ofSegment?_busy {s : String} (h : ¬ Idle s) :
    Component.ofSegment? s = some .up ∨ Component.ofSegment? s = some (.name s) := by
  unfold Component.ofSegment?
  split
  · exact absurd (Or.inl rfl) h
  · exact absurd (Or.inr rfl) h
  · exact Or.inl rfl
  · exact Or.inr rfl

theorem Component.ofSegment?_ne_here (s : String) : Component.ofSegment? s ≠ some .here := by
  unfold Component.ofSegment?
  split <;> simp

/-- The components that segments stand for, wherever the path starts. -/
def inner (segments : List String) : List Component := segments.filterMap Component.ofSegment?

theorem inner_append (a b : List String) : inner (a ++ b) = inner a ++ inner b :=
  List.filterMap_append

theorem inner_idle {segments : List String} (h : ∀ s ∈ segments, Idle s) : inner segments = [] := by
  apply List.filterMap_eq_nil_iff.mpr
  intro s hs
  exact Component.ofSegment?_idle (h s hs)

theorem isAbsolute_iff (path : String) : isAbsolute path = true ↔ path.toList.head? = some '/' := by
  simp [isAbsolute]

/-- Only the first segment tells where a path starts. -/
theorem startsHere_iff (path : String) :
    StartsHere path ↔ (segments path).head? = some "." := by
  have hinner : (inner (segments path)).head? ≠ some .here := by
    intro h
    obtain ⟨s, _, hs⟩ := List.mem_filterMap.mp (List.mem_of_mem_head? h)
    exact Component.ofSegment?_ne_here s hs
  unfold StartsHere components
  simp only
  split
  · rename_i habs
    obtain ⟨rest, _, hrest⟩ := (head_slash_iff _).mp ((isAbsolute_iff path).mp habs)
    simp [segments_eq, hrest]
  · split
    · rename_i h
      simp [h]
    · rename_i h
      exact iff_of_false hinner h

theorem components_of_startsHere {path : String} (h : StartsHere path) :
    components path = .here :: inner (segments path) := by
  have hfirst := (startsHere_iff path).mp h
  unfold components
  simp only [inner, if_pos hfirst]
  split
  · rename_i habs
    obtain ⟨rest, _, hrest⟩ := (head_slash_iff _).mp ((isAbsolute_iff path).mp habs)
    simp [segments_eq, hrest] at hfirst
  · rfl

theorem components_of_plain {path : String} (hhere : ¬ StartsHere path)
    (habs : path.toList.head? ≠ some '/') : components path = inner (segments path) := by
  unfold components
  simp only [inner, if_neg (mt (startsHere_iff path).mpr hhere)]
  rw [if_neg (mt (isAbsolute_iff path).mp habs)]

/-- What is left at the front starts with a name or not at all. -/
theorem trimFront_start (n : Nat) (cs : List Char) (h : cs.length ≤ n) :
    (trimFront n cs).head? ≠ some '/' ∧ (segmentsOf (trimFront n cs)).head? ≠ some "." := by
  fun_induction trimFront n cs with
  | case1 n cs ih => exact ih (by simpa using h)
  | case2 n cs ih => exact ih (by simpa using h)
  | case3 n => exact ⟨by simp, by decide⟩
  | case4 n cs hslash hdot hone =>
    cases cs with
    | nil => exact ⟨by simp, by decide⟩
    | cons c cs =>
      obtain ⟨m, rfl⟩ : ∃ m, n = m + 1 := ⟨n - 1, by simp at h; omega⟩
      constructor
      · intro hc
        exact hslash m cs rfl (by simpa using hc)
      · intro hc
        rcases first_segment (c :: cs) with hall | ⟨first, rest, hsplit, hsegs⟩
        · rw [hall] at hc
          have hdotted : c :: cs = ['.'] := by
            simpa [← String.toList_inj] using hc
          exact hone m rfl hdotted
        · rw [hsegs] at hc
          have hfirst : first = ['.'] := by
            simpa [← String.toList_inj] using hc
          rw [hfirst] at hsplit
          exact hdot m rest rfl hsplit

/-- Nothing but idle segments goes from the front. -/
theorem trimFront_segments (n : Nat) (cs : List Char) (h : cs.length ≤ n) :
    ((∀ s ∈ segmentsOf cs, Idle s) ∧ trimFront n cs = []) ∨
      ∃ front, (∀ s ∈ front, Idle s) ∧ segmentsOf cs = front ++ segmentsOf (trimFront n cs) := by
  fun_induction trimFront n cs with
  | case1 n cs ih =>
    rw [segmentsOf_slash]
    rcases ih (by simpa using h) with ⟨hall, hr⟩ | ⟨front, hfront, hsegs⟩
    · exact Or.inl ⟨by simpa [Idle] using hall, hr⟩
    · exact Or.inr ⟨"" :: front, by simpa [Idle] using hfront, by rw [hsegs]; rfl⟩
  | case2 n cs ih =>
    have hdot : segmentsOf ('.' :: '/' :: cs) = "." :: segmentsOf cs :=
      segmentsOf_append_slash ['.'] cs
    have hn : ('/' :: cs).length ≤ n := by simpa using h
    rw [hdot]
    rw [segmentsOf_slash] at ih
    rcases ih hn with ⟨hall, hr⟩ | ⟨front, hfront, hsegs⟩
    · refine Or.inl ⟨?_, hr⟩
      intro s hs
      rcases List.mem_cons.mp hs with rfl | hs
      · exact Or.inr rfl
      · exact hall s (by simp [hs])
    · cases front with
      | nil =>
        -- What is left would start with a slash.
        have hslash := (head_slash_iff (trimFront n ('/' :: cs))).mpr
          ⟨segmentsOf cs, segmentsOf_ne_nil cs, hsegs.symm⟩
        exact absurd hslash (trimFront_start n _ hn).1
      | cons s front =>
        obtain ⟨_, hrest⟩ := List.cons.inj hsegs
        refine Or.inr ⟨"." :: front, ?_, by rw [hrest]; rfl⟩
        intro t ht
        rcases List.mem_cons.mp ht with rfl | ht
        · exact Or.inr rfl
        · exact hfront t (by simp [ht])
  | case3 n => exact Or.inl ⟨by simp [segmentsOf_slashFree, Idle], rfl⟩
  | case4 n cs => exact Or.inr ⟨[], by simp, rfl⟩

/-- Nothing but idle segments goes from the end, and of a slash at the end one does. -/
theorem trimBack_segments (cs : List Char) (h : cs.getLast? ≠ some '/') :
    ∃ back, (∀ s ∈ back, Idle s) ∧ (cs.head? = some '/' → back ≠ []) ∧
      segmentsOf cs.reverse = segmentsOf (trimBack cs).reverse ++ back := by
  fun_induction trimBack cs with
  | case1 c cs ih =>
    obtain ⟨back, hback, _, hsegs⟩ := ih (by simpa using h)
    refine ⟨back ++ [""], ?_, by simp, ?_⟩
    · simpa [or_imp, forall_and, Idle] using hback
    · rw [List.reverse_cons, segmentsOf_append_slash, hsegs, List.append_assoc]
      rfl
  | case2 cs ih =>
    obtain ⟨back, hback, hsome, hsegs⟩ := ih (by simpa using h)
    rw [List.reverse_cons, segmentsOf_append_slash] at hsegs
    cases back using List.reverseRecOn with
    | nil => exact absurd rfl (hsome rfl)
    | append_singleton back s =>
      -- The slash leaves an empty segment behind; in its place there was the point.
      rw [← List.append_assoc] at hsegs
      obtain ⟨hfront, _⟩ := List.append_inj' hsegs rfl
      refine ⟨back ++ ["."], ?_, by simp, ?_⟩
      · simp only [List.mem_append, or_imp, forall_and] at hback ⊢
        exact ⟨hback.1, by simp [Idle]⟩
      · rw [List.reverse_cons, List.reverse_cons, List.append_assoc, List.singleton_append,
          segmentsOf_append_slash, hfront, List.append_assoc]
        rfl
  | case3 cs hslash hdot =>
    refine ⟨[], by simp, ?_, by simp⟩
    intro hhead
    cases cs with
    | nil => cases hhead
    | cons c cs =>
      obtain rfl : c = '/' := by simpa using hhead
      cases cs with
      | nil => exact absurd rfl h
      | cons c cs => exact absurd rfl (hslash c cs)

/-- A path that starts at `.` and the rest of it differ by idle segments at both ends, and the rest
starts with a name or not at all. -/
theorem withoutHere_segments {path : String} (h : StartsHere path) :
    (((∀ s ∈ segments path, Idle s) ∧ withoutHere path = "") ∨
      ∃ front back, (∀ s ∈ front, Idle s) ∧ (∀ s ∈ back, Idle s) ∧
        segments path = front ++ segments (withoutHere path) ++ back) ∧
      ¬ StartsHere (withoutHere path) ∧ (withoutHere path).toList.head? ≠ some '/' := by
  have hfirst := (startsHere_iff path).mp h
  rw [segments_eq] at hfirst
  rcases first_segment path.toList with hone | ⟨first, rest, hpath, hsegs⟩
  · rw [hone] at hfirst
    have hdot : path = "." := by simpa using hfirst
    subst hdot
    exact ⟨Or.inl ⟨by decide, by decide⟩, by decide, by decide⟩
  · rw [hsegs] at hfirst
    have hdot : first = ['.'] := by simpa [← String.toList_inj] using hfirst
    subst hdot
    have hrest : withoutHere path =
        String.ofList (trimBack (trimFront rest.length rest).reverse).reverse := by
      have hhead : (components path).head? = some .here := h
      simp [withoutHere, hhead, hpath, trimFront]
    obtain ⟨hslash, hhere⟩ := trimFront_start rest.length rest (Nat.le_refl _)
    obtain ⟨back, hback, _, hends⟩ := trimBack_segments (trimFront rest.length rest).reverse
      (by simpa using hslash)
    rw [List.reverse_reverse] at hends
    rw [startsHere_iff, hrest, segments_ofList, String.toList_ofList, segments_eq, hsegs]
    refine ⟨?_, ?_, ?_⟩
    · rcases trimFront_segments rest.length rest (Nat.le_refl _) with
        ⟨hall, hnone⟩ | ⟨front, hfront, hmid⟩
      · refine Or.inl ⟨?_, by simp [hnone, trimBack]⟩
        intro s hs
        rcases List.mem_cons.mp hs with rfl | hs
        · exact Or.inr rfl
        · exact hall s hs
      · refine Or.inr ⟨"." :: front, back, ?_, hback, by rw [hmid, hends]; simp⟩
        intro s hs
        rcases List.mem_cons.mp hs with rfl | hs
        · exact Or.inr rfl
        · exact hfront s hs
    · intro hdot
      apply hhere
      rw [hends, List.head?_append, hdot]
      rfl
    · intro hroot
      obtain ⟨more, hmore, hstart⟩ := (head_slash_iff _).mp hroot
      apply hslash
      apply (head_slash_iff _).mpr
      exact ⟨more ++ back, by simp [hmore], by rw [hends, hstart]; rfl⟩

theorem trimFront_suffix (n : Nat) (cs : List Char) : trimFront n cs <:+ cs := by
  fun_induction trimFront n cs with
  | case1 n cs ih => exact ih.trans (List.suffix_cons _ _)
  | case2 n cs ih => exact ih.trans (List.suffix_cons _ _)
  | case3 n => exact List.nil_suffix
  | case4 n cs => exact List.suffix_rfl

theorem trimBack_suffix (cs : List Char) : trimBack cs <:+ cs := by
  fun_induction trimBack cs with
  | case1 c cs ih => exact ih.trans (List.suffix_cons _ _)
  | case2 cs ih => exact ih.trans (List.suffix_cons _ _)
  | case3 cs => exact List.suffix_rfl

theorem withoutHere_within (path : String) : ∃ a b, path = a ++ withoutHere path ++ b := by
  unfold withoutHere
  split
  · obtain ⟨front, hfront⟩ :=
      trimFront_suffix (path.toList.drop 1).length (path.toList.drop 1)
    obtain ⟨back, hback⟩ := trimBack_suffix
      (trimFront (path.toList.drop 1).length (path.toList.drop 1)).reverse
    refine ⟨String.ofList (path.toList.take 1 ++ front), String.ofList back.reverse, ?_⟩
    have hmid := congrArg List.reverse hback
    rw [List.reverse_append, List.reverse_reverse] at hmid
    rw [← String.toList_inj]
    simp only [String.toList_append, String.toList_ofList, List.append_assoc]
    rw [hmid, hfront, List.take_append_drop]
  · exact ⟨"", "", by simp⟩

theorem StartsHere.not_absolute {path : String} (h : StartsHere path) :
    isAbsolute path = false := by
  rw [← Bool.not_eq_true, isAbsolute_iff, head_slash_iff]
  rintro ⟨rest, _, hrest⟩
  rw [startsHere_iff, segments_eq, hrest] at h
  simp at h

theorem withoutHere_of_not_startsHere {path : String} (h : ¬ StartsHere path) :
    withoutHere path = path :=
  if_neg h

/-- Only the start at `.` goes from the components. -/
theorem components_withoutHere {path : String} (h : StartsHere path) :
    components path = .here :: components (withoutHere path) := by
  obtain ⟨hsegs, hhere, hslash⟩ := withoutHere_segments h
  rw [components_of_startsHere h, components_of_plain hhere hslash]
  rcases hsegs with ⟨hall, hnone⟩ | ⟨front, back, hfront, hback, hsegs⟩
  · rw [inner_idle hall, hnone]
    rfl
  · rw [hsegs, inner_append, inner_append, inner_idle hfront, inner_idle hback,
      List.nil_append, List.append_nil]

theorem startsWith_iff {path base : String} :
    startsWith path base = true ↔ components base <+: components path :=
  List.isPrefixOf_iff_prefix

/-- Dropping `.` from the start of both paths does not change whether one is below the other, if
both start there or none does. -/
theorem prefix_withoutHere {p q : String} (h : StartsHere p ↔ StartsHere q) :
    components (withoutHere q) <+: components (withoutHere p) ↔ components q <+: components p := by
  by_cases hp : StartsHere p
  · rw [components_withoutHere hp, components_withoutHere (h.mp hp), List.prefix_cons_inj]
  · rw [withoutHere_of_not_startsHere hp, withoutHere_of_not_startsHere (mt h.mpr hp)]

theorem fileName?_withoutHere (path : String) : fileName? (withoutHere path) = fileName? path := by
  by_cases h : StartsHere path
  · rw [fileName?, fileName?, components_withoutHere h]
    cases components (withoutHere path) with
    | nil => rfl
    | cons c cs => simp
  · rw [withoutHere_of_not_startsHere h]

theorem isDump_withoutHere (path : String) : isDump (withoutHere path) = isDump path := by
  simp only [isDump, fileName?_withoutHere]

theorem stem?_append (suffix stem : String) : stem? suffix (stem ++ suffix) = some stem := by
  have hlen : (stem ++ suffix).length - suffix.length = stem.toList.length := by
    simp [String.length_toList]
  have hsuffix : suffix.toList.isSuffixOf (stem ++ suffix).toList = true := by
    simp [List.isSuffixOf_iff_suffix]
  rw [stem?, if_pos hsuffix, hlen, String.toList_append, List.take_left, String.ofList_toList]

theorem stem?_eq_some_iff {suffix path stem : String} :
    stem? suffix path = some stem ↔ path = stem ++ suffix := by
  constructor
  · intro h
    by_cases hsuffix : suffix.toList.isSuffixOf path.toList = true
    · obtain ⟨front, hfront⟩ := List.isSuffixOf_iff_suffix.mp hsuffix
      have hpath : path = String.ofList front ++ suffix := by
        rw [← String.toList_inj, ← hfront]
        simp
      rw [hpath, stem?_append, Option.some.injEq] at h
      rw [hpath, h]
    · rw [stem?, if_neg hsuffix] at h
      cases h
  · rintro rfl
    exact stem?_append suffix stem

theorem isDump_iff (path : String) :
    isDump path = true ↔ ∃ stem, stem ≠ "" ∧ fileName? path = some (stem ++ dumpSuffix) := by
  unfold isDump
  cases hname : fileName? path with
  | none => simp
  | some name =>
    cases hstem : stem? dumpSuffix name with
    | none =>
      have hnot : ∀ stem, name ≠ stem ++ dumpSuffix := by
        rintro stem rfl
        simp [stem?_append] at hstem
      simp [hstem, hnot]
    | some stem =>
      obtain rfl := stem?_eq_some_iff.mp hstem
      simp [stem?_append]

/-- The last component of a path is the last of its segments, unless it has none. -/
theorem getLast?_inner {path name : String} (h : fileName? path = some name) :
    (inner (segments path)).getLast? = some (.name name) := by
  have hlast : (components path).getLast? = some (.name name) := by
    unfold fileName? at h
    split at h
    · rename_i hlast
      rw [hlast, Option.some.inj h]
    · cases h
  unfold components at hlast
  simp only at hlast
  unfold inner
  split at hlast
  · cases hinner : (segments path).filterMap Component.ofSegment? with
    | nil => simp [hinner] at hlast
    | cons c cs => simpa [hinner] using hlast
  · split at hlast
    · cases hinner : (segments path).filterMap Component.ofSegment? with
      | nil => simp [hinner] at hlast
      | cons c cs => simpa [hinner] using hlast
    · exact hlast

/-- The last name of a path, with what leads nowhere behind it. -/
theorem fileName?_segments {path name : String} (h : fileName? path = some name) :
    ∃ front back, segments path = front ++ name :: back ∧ ∀ s ∈ back, Idle s := by
  have hlast := getLast?_inner h
  revert hlast
  induction segments path using List.reverseRecOn with
  | nil => simp [inner]
  | append_singleton front s ih =>
    intro hlast
    rw [inner_append] at hlast
    by_cases hs : Idle s
    · have hnone : inner [s] = [] := inner_idle (by simpa using hs)
      rw [hnone, List.append_nil] at hlast
      obtain ⟨before, back, hsegs, hback⟩ := ih hlast
      refine ⟨before, back ++ [s], by simp [hsegs], ?_⟩
      intro t ht
      rcases List.mem_append.mp ht with ht | ht
      · exact hback t ht
      · rwa [List.mem_singleton.mp ht]
    · refine ⟨front, [], ?_, by simp⟩
      rcases Component.ofSegment?_busy hs with hup | hname
      · simp [inner, hup] at hlast
      · simp only [inner, List.filterMap_cons, hname, List.filterMap_nil, List.getLast?_append,
          List.getLast?_singleton, Option.some_or, Option.some.injEq, Component.name.injEq] at hlast
        rw [hlast]

/-- The last character of a text is that of its last segment, or the slash in front of it. -/
theorem getLast?_of_segments {path s : String} (h : (segments path).getLast? = some s)
    (hpath : path ≠ "") :
    path.toList.getLast? = s.toList.getLast?.or (some '/') := by
  rw [segments_eq] at h
  rcases last_segment path.toList with hone | ⟨front, last, hsplit, hsegs⟩
  · rw [hone] at h
    obtain rfl : path = s := by simpa using h
    cases hlast : path.toList.getLast? with
    | none => exact absurd (by simpa using hlast) hpath
    | some c => rfl
  · rw [hsegs] at h
    obtain rfl : String.ofList last = s := by simpa using h
    rw [hsplit, String.toList_ofList]
    cases last using List.reverseRecOn <;> simp [List.getLast?_append, List.getLast?_cons]

/-- Behind its name a path can end with slashes and points only. -/
theorem isDump_getLast? {path : String} (h : isDump path = true) :
    path.toList.getLast? = some 'n' ∨ path.toList.getLast? = some '/' ∨
      path.toList.getLast? = some '.' := by
  obtain ⟨stem, _, hname⟩ := (isDump_iff path).mp h
  obtain ⟨front, back, hsegs, hback⟩ := fileName?_segments hname
  have hpath : path ≠ "" := by
    rintro rfl
    exact absurd h (by decide)
  cases back using List.reverseRecOn with
  | nil =>
    have hlast := getLast?_of_segments (s := stem ++ dumpSuffix) (by simp [hsegs]) hpath
    exact Or.inl (by simpa [dumpSuffix] using hlast)
  | append_singleton back s =>
    have hlast := getLast?_of_segments (s := s)
      (by simp [hsegs, List.getLast?_append, List.getLast?_cons]) hpath
    rcases hback s (by simp) with rfl | rfl
    · exact Or.inr (Or.inl (by simpa using hlast))
    · exact Or.inr (Or.inr (by simpa using hlast))

/-- The feature file of a dump is spelled with another ending, or like the dump if the path does not
end with its name. -/
theorem featurePath_of_isDump {path : String} (h : isDump path = true) :
    (∃ stem, path = stem ++ dumpSuffix ∧ featurePath path = stem ++ ".feature") ∨
      featurePath path = path ∧ path.toList.getLast? ≠ some 'e' := by
  unfold featurePath
  cases hstem : stem? dumpSuffix path with
  | none =>
    refine Or.inr ⟨rfl, ?_⟩
    rcases isDump_getLast? h with hlast | hlast | hlast <;> simp [hlast]
  | some stem =>
    obtain rfl := stem?_eq_some_iff.mp hstem
    refine Or.inl ⟨stem, rfl, if_neg ?_⟩
    rw [String.isEmpty_iff]
    rintro rfl
    exact absurd h (by decide)

/-- No two dumps belong to the same feature file. -/
theorem featurePath_injective {f g : String} (hf : isDump f = true) (hg : isDump g = true)
    (h : featurePath f = featurePath g) : f = g := by
  have hend (stem : String) : (stem ++ ".feature").toList.getLast? = some 'e' := by simp
  rcases featurePath_of_isDump hf with ⟨a, rfl, ha⟩ | ⟨hfixf, hlastf⟩ <;>
    rcases featurePath_of_isDump hg with ⟨b, rfl, hb⟩ | ⟨hfixg, hlastg⟩
  · rw [ha, hb, String.append_left_inj] at h
    rw [h]
  · rw [ha, hfixg] at h
    exact absurd (h ▸ hend a) hlastg
  · rw [hfixf, hb] at h
    exact absurd (h ▸ hend b) hlastf
  · rw [← hfixf, ← hfixg, h]

/-- A path of one component, the start at `.`, has only segments that lead nowhere. -/
theorem idle_of_components {path : String} (h : components path = [.here]) :
    StartsHere path ∧ ∀ s ∈ segments path, Idle s := by
  have hhere : StartsHere path := by simp [StartsHere, h]
  refine ⟨hhere, ?_⟩
  rw [components_of_startsHere hhere, List.cons.injEq] at h
  intro s hs
  by_contra hbusy
  have hnone := List.filterMap_eq_nil_iff.mp h.2 s hs
  rcases Component.ofSegment?_busy hbusy with hup | hname
  · simp [hup] at hnone
  · simp [hname] at hnone

theorem components_ne_here_of_busy {path s : String} (hs : s ∈ segments path) (hbusy : ¬ Idle s) :
    components path ≠ [.here] :=
  fun h => hbusy ((idle_of_components h).2 s hs)

theorem not_absolute_of_slashFree {name : String} (h : '/' ∉ name.toList) :
    isAbsolute name = false := by
  rw [← Bool.not_eq_true, isAbsolute_iff]
  intro hhead
  exact h (List.mem_of_mem_head? hhead)

/-- A name joined to a path is put behind it. -/
theorem join_eq_append (base : String) {name : String} (h : '/' ∉ name.toList) :
    ∃ rest, join base name = base ++ rest := by
  unfold join
  rw [not_absolute_of_slashFree h]
  simp only [Bool.false_eq_true, if_false]
  split
  · exact ⟨name, rfl⟩
  · exact ⟨"/" ++ name, String.append_assoc⟩

theorem join_ne_empty {base : String} (hbase : base ≠ "") {name : String} (h : '/' ∉ name.toList) :
    join base name ≠ "" := by
  obtain ⟨rest, hrest⟩ := join_eq_append base h
  rw [hrest]
  intro hempty
  exact hbase (String.append_eq_empty_iff.mp hempty).1

theorem isAbsolute_join {base : String} (hbase : base ≠ "") {name : String}
    (h : '/' ∉ name.toList) : isAbsolute (join base name) = isAbsolute base := by
  obtain ⟨rest, hrest⟩ := join_eq_append base h
  rw [hrest]
  cases hcs : base.toList with
  | nil => exact absurd (String.toList_eq_nil_iff.mp hcs) hbase
  | cons c cs => simp [isAbsolute, hcs]

/-- A name joined to a path is one more segment, in place of the empty one behind a last slash. -/
theorem segments_join {base : String} (hbase : base ≠ "") {name : String}
    (h : '/' ∉ name.toList) :
    segments (join base name) = segments base ++ [name] ∨
      ∃ front, segments base = front ++ [""] ∧ segments (join base name) = front ++ [name] := by
  unfold join
  rw [not_absolute_of_slashFree h]
  simp only [Bool.false_eq_true, if_false]
  split
  · rename_i hend
    right
    have hlast : base.toList.getLast? = some '/' := by simpa [hbase] using hend
    obtain ⟨front, hfront⟩ := List.getLast?_eq_some_iff.mp hlast
    refine ⟨segmentsOf front, ?_, ?_⟩
    · rw [segments_eq, hfront, segmentsOf_append_slash]
      rfl
    · rw [segments_eq, String.toList_append, hfront, List.append_assoc, List.singleton_append,
        segmentsOf_append_slash, segmentsOf_slashFree h, String.ofList_toList]
  · left
    have hsplit : (base ++ "/" ++ name).toList = base.toList ++ '/' :: name.toList := by simp
    rw [segments_eq, segments_eq, hsplit, segmentsOf_append_slash, segmentsOf_slashFree h,
      String.ofList_toList]

/-- The last segment of a path is the name joined to it. -/
theorem getLast?_segments_join (base : String) {name : String} (h : '/' ∉ name.toList) :
    (segments (join base name)).getLast? = some name := by
  by_cases hbase : base = ""
  · have hjoin : join base name = name := by
      simp [join, hbase, not_absolute_of_slashFree h]
    rw [hjoin, segments_eq, segmentsOf_slashFree h]
    simp
  · rcases segments_join hbase h with hsegs | ⟨front, _, hsegs⟩ <;> simp [hsegs]

end FeatureLint.Path
