import FeatureLint.Proofs.Expansion

namespace FeatureLint.Glob

/-- The text is a pattern. -/
def Valid (pattern : String) : Prop := ∃ g, parse pattern = .ok g

instance (pattern : String) : Decidable (Valid pattern) :=
  match h : parse pattern with
  | .ok g => isTrue ⟨g, h⟩
  | .error e => isFalse fun hvalid => by
    obtain ⟨g, hg⟩ := hvalid
    rw [h] at hg
    cases hg

/-- What may stand behind a character of a pattern, or at its beginning. -/
inductive Readable : Option Char → List Char → Prop where
  | nil (previous : Option Char) : Readable previous []
  | any {previous : Option Char} {cs : List Char} :
    Readable (some '?') cs → Readable previous ('?' :: cs)
  | sequence {previous : Option Char} {cs : List Char} :
    cs.head? ≠ some '*' → Readable (some '*') cs → Readable previous ('*' :: cs)
  | directories {previous : Option Char} :
    previous.all (· == '/') = true → Readable previous ['*', '*']
  | onward {previous : Option Char} {cs : List Char} :
    previous.all (· == '/') = true → Readable (some '/') cs →
      Readable previous ('*' :: '*' :: '/' :: cs)
  | set {previous : Option Char} {cs rest : List Char} {t : Token} :
    classAt cs = some (t, rest) → Readable (some ']') rest → Readable previous ('[' :: cs)
  | char {previous : Option Char} {c : Char} {cs : List Char} :
    c ≠ '?' → c ≠ '*' → c ≠ '[' → Readable (some c) cs → Readable previous (c :: cs)

/-- A class ends with the first closing bracket behind its first character, so nothing that stands
behind it matters. -/
theorem classAt_append {cs rest : List Char} {t : Token} (h : classAt cs = some (t, rest))
    (more : List Char) : classAt (cs ++ more) = some (t, rest ++ more) := by
  have hclose : ∀ {cs rest : List Char} {c : Char}, cs.dropWhile (· != ']') = c :: rest →
      (cs ++ more).dropWhile (· != ']') = c :: (rest ++ more) ∧
        (cs ++ more).takeWhile (· != ']') = cs.takeWhile (· != ']') := by
    intro cs rest c hdrop
    have hlength : (cs.takeWhile (· != ']')).length ≠ cs.length := by
      have hsum := congrArg List.length
        (List.takeWhile_append_dropWhile (p := (· != ']')) (l := cs))
      rw [hdrop, List.length_append, List.length_cons] at hsum
      omega
    rw [List.dropWhile_append, List.takeWhile_append, hdrop, if_neg hlength]
    simp
  unfold classAt at h
  split at h
  · split at h
    · rename_i hdrop
      cases h
      obtain ⟨hdrop, htake⟩ := hclose hdrop
      simp only [List.cons_append, classAt, hdrop, htake]
    · cases h
  · cases h
  · rename_i c cs hnot hnone
    split at h
    · rename_i hdrop
      cases h
      obtain ⟨hdrop, htake⟩ := hclose hdrop
      rw [List.cons_append, classAt]
      · simp only [hdrop, htake]
      · intro d ds hc hcs
        cases cs with
        | nil => exact hnone hc rfl
        | cons e es => exact hnot e es hc rfl
      · intro hc hcs
        exact hnone hc (List.append_eq_nil_iff.mp hcs).1
    · cases h
  · cases h

theorem classAt_length {cs rest : List Char} {t : Token} (h : classAt cs = some (t, rest)) :
    rest.length < cs.length := by
  have htail : ∀ {cs rest : List Char} {c : Char}, cs.dropWhile (· != ']') = c :: rest →
      rest.length < cs.length := by
    intro cs rest c hdrop
    have hle := (List.dropWhile_suffix (· != ']') (l := cs)).length_le
    rw [hdrop, List.length_cons] at hle
    exact hle
  unfold classAt at h
  split at h
  · split at h
    · rename_i hdrop
      cases h
      have := htail hdrop
      simp only [List.length_cons]
      omega
    · cases h
  · cases h
  · split at h
    · rename_i hdrop
      cases h
      have := htail hdrop
      simp only [List.length_cons]
      omega
    · cases h
  · cases h

/-- A run of stars ends where no star follows. -/
theorem stars_end {cs : List Char} (h : cs.head? ≠ some '*') :
    cs.takeWhile (· == '*') = [] ∧ cs.dropWhile (· == '*') = cs := by
  cases cs with
  | nil => exact ⟨rfl, rfl⟩
  | cons c cs =>
    have hc : c ≠ '*' := by simpa using h
    simp [hc]

theorem directoriesAt_eq_ok {position : Nat} {previous : Option Char} {rest left : List Char}
    (h : directoriesAt position previous rest = .ok left) :
    previous.all (· == '/') = true ∧ (rest = [] ∨ rest = '/' :: left) := by
  unfold directoriesAt at h
  split at h
  · rename_i hprevious
    split at h
    · exact ⟨hprevious, Or.inl rfl⟩
    · cases h
      exact ⟨hprevious, Or.inr rfl⟩
    · cases h
  · cases h

/-- Two stars and a slash use up three characters. -/
theorem length_behind_slash (cs : List Char) : 2 + (('/' :: cs).length - cs.length) = 3 := by
  rw [List.length_cons]
  omega

section

variable {n position : Nat} {previous : Option Char} {done : List Token} {cs : List Char}

theorem parseLoop_star (h : cs.head? ≠ some '*') :
    parseLoop (n + 1) position previous done ('*' :: cs) =
      parseLoop n (position + 1) (some '*') (.anySequence :: done) cs := by
  obtain ⟨htake, hdrop⟩ := stars_end h
  rw [parseLoop, if_neg (by decide), if_pos rfl]
  simp [htake, hdrop]

theorem parseLoop_two_stars (h : cs.head? ≠ some '*') :
    parseLoop (n + 1) position previous done ('*' :: '*' :: cs) = (do
      let left ← directoriesAt position previous cs
      let used := 2 + (cs.length - left.length)
      parseLoop n (position + used) (some (if used = 2 then '*' else '/')) (addDirectories done)
        left) := by
  obtain ⟨htake, hdrop⟩ := stars_end h
  rw [parseLoop, if_neg (by decide), if_pos rfl]
  simp [htake, hdrop]

theorem parseLoop_many_stars :
    parseLoop (n + 1) position previous done ('*' :: '*' :: '*' :: cs) =
      .error ⟨position + 2, .wildcards⟩ := by
  rw [parseLoop, if_neg (by decide), if_pos rfl]
  simp

end

theorem parseLoop_of_readable {previous : Option Char} {cs : List Char}
    (h : Readable previous cs) (n position : Nat) (done : List Token) (hn : cs.length < n) :
    ∃ tokens, parseLoop n position previous done cs = .ok tokens := by
  induction h generalizing n position done with
  | nil previous =>
    cases n with
    | zero => exact ⟨_, rfl⟩
    | succ n => exact ⟨_, rfl⟩
  | any h ih =>
    cases n with
    | zero => cases hn
    | succ n =>
      rw [parseLoop, if_pos rfl]
      exact ih n _ _ (Nat.lt_of_succ_lt_succ hn)
  | sequence hhead h ih =>
    cases n with
    | zero => cases hn
    | succ n =>
      rw [parseLoop_star hhead]
      exact ih n _ _ (Nat.lt_of_succ_lt_succ hn)
  | directories hprevious =>
    cases n with
    | zero => cases hn
    | succ n =>
      rw [parseLoop_two_stars (by simp), directoriesAt, if_pos hprevious]
      cases n with
      | zero => exact ⟨_, rfl⟩
      | succ n => exact ⟨_, rfl⟩
  | @onward previous cs hprevious h ih =>
    cases n with
    | zero => cases hn
    | succ n =>
      rw [parseLoop_two_stars (by simp), directoriesAt, if_pos hprevious]
      simp only [bind, Except.bind, length_behind_slash]
      apply ih
      simp only [List.length_cons] at hn
      omega
  | set hclass h ih =>
    cases n with
    | zero => cases hn
    | succ n =>
      have hlength := classAt_length hclass
      rw [parseLoop, if_neg (by decide), if_neg (by decide), if_pos rfl, hclass]
      apply ih
      rw [List.length_cons] at hn
      omega
  | char hany hstar hclass h ih =>
    cases n with
    | zero => cases hn
    | succ n =>
      rw [parseLoop, if_neg hany, if_neg hstar, if_neg hclass]
      exact ih n _ _ (Nat.lt_of_succ_lt_succ hn)

theorem readable_of_parseLoop {n position : Nat} {previous : Option Char} {done tokens : List Token}
    {cs : List Char} (hn : cs.length < n)
    (h : parseLoop n position previous done cs = .ok tokens) : Readable previous cs := by
  induction n generalizing position previous done cs with
  | zero => cases hn
  | succ n ih =>
    cases cs with
    | nil => exact .nil previous
    | cons c cs =>
      rw [List.length_cons, Nat.add_lt_add_iff_right] at hn
      by_cases hstar : c = '*'
      · subst hstar
        by_cases hone : cs.head? = some '*'
        · obtain ⟨cs, rfl⟩ := List.head?_eq_some_iff.mp hone
          by_cases htwo : cs.head? = some '*'
          · obtain ⟨cs, rfl⟩ := List.head?_eq_some_iff.mp htwo
            rw [parseLoop_many_stars] at h
            cases h
          · rw [parseLoop_two_stars htwo] at h
            cases hleft : directoriesAt position previous cs with
            | error e =>
              rw [hleft] at h
              cases h
            | ok left =>
              obtain ⟨hprevious, rfl | rfl⟩ := directoriesAt_eq_ok hleft
              · exact .directories hprevious
              · rw [hleft] at h
                simp only [bind, Except.bind, length_behind_slash] at h
                simp only [List.length_cons] at hn
                exact .onward hprevious (ih (by omega) h)
        · rw [parseLoop_star hone] at h
          exact .sequence hone (ih hn h)
      · rw [parseLoop, if_neg hstar] at h
        split at h
        · rename_i hc
          subst hc
          exact .any (ih hn h)
        · rename_i hany
          split at h
          · rename_i hc
            subst hc
            split at h
            · rename_i hclass
              have := classAt_length hclass
              exact .set hclass (ih (by omega) h)
            · cases h
          · rename_i hclass
            exact .char hany hstar hclass (ih hn h)

theorem valid_iff_readable (pattern : String) : Valid pattern ↔ Readable none pattern.toList := by
  unfold Valid parse
  simp only [bind, Except.bind, pure, Except.pure]
  constructor
  · intro h
    obtain ⟨g, hg⟩ := h
    split at hg
    · cases hg
    · rename_i hloop
      exact readable_of_parseLoop (Nat.lt_succ_self _) hloop
  · intro h
    obtain ⟨tokens, hloop⟩ := parseLoop_of_readable h _ 0 [] (Nat.lt_succ_self _)
    exact ⟨⟨tokens⟩, by rw [hloop]⟩

theorem valid_empty : Valid "" := ⟨⟨[]⟩, rfl⟩

/-- A slash allows what the beginning of a pattern allows. -/
theorem Readable.behind_slash {cs : List Char} (h : Readable none cs) : Readable (some '/') cs := by
  cases h with
  | nil => exact .nil _
  | any h => exact .any h
  | sequence hhead h => exact .sequence hhead h
  | directories _ => exact .directories rfl
  | onward _ h => exact .onward rfl h
  | set hclass h => exact .set hclass h
  | char hany hstar hclass h => exact .char hany hstar hclass h

theorem Readable.append_slash {previous : Option Char} {cs more : List Char}
    (h : Readable previous cs) (hcs : '/' ∉ cs) (hmore : Readable (some '/') more) :
    Readable previous (cs ++ '/' :: more) := by
  induction h with
  | nil previous => exact .char (by decide) (by decide) (by decide) hmore
  | any h ih => exact .any (ih (List.not_mem_of_not_mem_cons hcs))
  | @sequence previous cs hhead h ih =>
    refine .sequence ?_ (ih (List.not_mem_of_not_mem_cons hcs))
    cases cs with
    | nil => simp
    | cons c cs => simpa using hhead
  | directories hprevious => exact .onward hprevious hmore
  | onward hprevious h ih => simp at hcs
  | @set previous cs rest t hclass h ih =>
    refine .set (classAt_append hclass _) (ih ?_)
    intro hslash
    exact hcs (List.mem_cons_of_mem _ ((classAt_rest hclass).1 hslash))
  | char hany hstar hclass h ih =>
    exact .char hany hstar hclass (ih (List.not_mem_of_not_mem_cons hcs))

/-- A text is a pattern if all its segments are. -/
theorem readable_of_segments (cs : List Char)
    (h : ∀ s ∈ Path.segmentsOf cs, Readable none s.toList) : Readable none cs := by
  rcases Path.first_segment cs with hone | ⟨first, rest, hsplit, hmore⟩
  · have hself := h (String.ofList cs) (by simp [hone])
    rwa [String.toList_ofList] at hself
  · rw [hmore, List.forall_mem_cons] at h
    have hfirst : '/' ∉ first := by
      have hmem : String.ofList first ∈ Path.segmentsOf cs := by simp [hmore]
      simpa using Path.slashFree_of_mem_segmentsOf hmem
    have hrest := readable_of_segments rest h.2
    rw [hsplit]
    apply Readable.append_slash ?_ hfirst hrest.behind_slash
    simpa using h.1
termination_by cs.length
decreasing_by
  subst hsplit
  simp only [List.length_append, List.length_cons]
  omega

theorem valid_of_segments {pattern : String} (h : ∀ s ∈ Path.segments pattern, Valid s) :
    Valid pattern := by
  rw [valid_iff_readable]
  apply readable_of_segments
  intro s hs
  rw [← valid_iff_readable]
  apply h
  rwa [Path.segments_eq]

theorem mapM_parse_iff (segments : List String) :
    (∃ globs, segments.mapM parse = .ok globs) ↔ ∀ s ∈ segments, Valid s := by
  induction segments with
  | nil => simp [pure, Except.pure]
  | cons s segments ih =>
    rw [List.forall_mem_cons, ← ih, List.mapM_cons]
    cases hs : parse s with
    | error e => simp [Valid, hs, bind, Except.bind]
    | ok g => cases segments.mapM parse <;> simp [Valid, hs, bind, Except.bind, pure, Except.pure]

theorem mem_segments_dropWhile {s : String} (hs : s ≠ "") (cs : List Char) :
    s ∈ Path.segmentsOf (cs.dropWhile (· == '/')) ↔ s ∈ Path.segmentsOf cs := by
  induction cs with
  | nil => rfl
  | cons c cs ih =>
    by_cases hc : c = '/'
    · subst hc
      rw [List.dropWhile_cons_of_pos (by simp), Path.segmentsOf_slash, List.mem_cons, ih]
      simp [hs]
    · rw [List.dropWhile_cons_of_neg (by simpa using hc)]

/-- A search goes by all segments of its pattern that are not empty. -/
theorem mem_patternSegments {s : String} (hs : s ≠ "") (pattern : String) :
    s ∈ patternSegments (searchStart pattern).2 ↔ s ∈ Path.segments pattern := by
  have hstart : s ∈ Path.segments (searchStart pattern).2 ↔ s ∈ Path.segments pattern := by
    unfold searchStart
    split
    · simp only [Path.segments_eq, String.toList_ofList]
      exact mem_segments_dropWhile hs pattern.toList
    · rfl
  rw [← hstart]
  unfold patternSegments
  simp only
  split
  · rename_i hlast
    obtain ⟨front, hfront⟩ := List.getLast?_eq_some_iff.mp hlast
    simp [hfront, hs]
  · rfl

/-- Empty segments do not matter. -/
theorem forall_valid_congr {a b : List String} (h : ∀ s, s ≠ "" → (s ∈ a ↔ s ∈ b)) :
    (∀ s ∈ a, Valid s) ↔ ∀ s ∈ b, Valid s := by
  apply forall_congr'
  intro s
  by_cases hs : s = ""
  · simp only [hs, valid_empty, implies_true]
  · rw [h s hs]

/-- A pattern is searched for exactly if all its segments are patterns. -/
theorem expand_ok_iff (d : Disk) (pattern : String) :
    (∃ paths, expand d pattern = .ok paths) ↔ ∀ s ∈ Path.segments pattern, Valid s := by
  rw [← forall_valid_congr fun s hs => mem_patternSegments hs pattern, ← mapM_parse_iff]
  constructor
  · intro h
    obtain ⟨paths, hpaths⟩ := h
    simp only [expand, Search.ofPattern, bind, Except.bind, pure, Except.pure] at hpaths
    cases hmap : (patternSegments (searchStart pattern).2).mapM parse with
    | error e =>
      rw [hmap] at hpaths
      cases hparse : parse pattern <;> simp [hparse] at hpaths
    | ok globs => exact ⟨globs, rfl⟩
  · intro h
    have hvalid := h
    rw [mapM_parse_iff, forall_valid_congr fun s hs => mem_patternSegments hs pattern] at hvalid
    obtain ⟨g, hg⟩ := valid_of_segments hvalid
    obtain ⟨globs, hglobs⟩ := h
    simp only [expand, Search.ofPattern, bind, Except.bind, pure, Except.pure, hg, hglobs]
    exact ⟨_, rfl⟩

/-- The segments of a path taken from another are those of both. -/
theorem mem_segments_join {base path s : String} (hrelative : Path.isAbsolute path = false)
    (hs : s ≠ "") :
    s ∈ Path.segments (Path.join base path) ↔ s ∈ Path.segments base ++ Path.segments path := by
  unfold Path.join
  rw [hrelative, if_neg (by decide)]
  simp only [Path.segments_eq]
  split
  · rename_i hend
    by_cases hbase : base = ""
    · simp [hbase, Path.segmentsOf, hs]
    · have hlast : base.toList.getLast? = some '/' := by simpa [hbase] using hend
      obtain ⟨front, hfront⟩ := List.getLast?_eq_some_iff.mp hlast
      rw [String.toList_append, hfront, List.append_assoc, List.singleton_append,
        Path.segmentsOf_append_slash, Path.segmentsOf_append_slash]
      simp [Path.segmentsOf, hs]
  · have hsplit : (base ++ "/" ++ path).toList = base.toList ++ '/' :: path.toList := by simp
    rw [hsplit, Path.segmentsOf_append_slash]

/-- A pattern can be searched for from a base: all their segments are patterns. The base of an
absolute pattern does not matter. -/
def Expandable (base pattern : String) : Prop :=
  (Path.isAbsolute pattern = false → ∀ s ∈ Path.segments base, Valid s) ∧
    ∀ s ∈ Path.segments pattern, Valid s

instance (base pattern : String) : Decidable (Expandable base pattern) :=
  inferInstanceAs (Decidable (_ ∧ _))

theorem expand_join_ok_iff (d : Disk) (base pattern : String) :
    (∃ paths, expand d (Path.join base pattern) = .ok paths) ↔ Expandable base pattern := by
  rw [expand_ok_iff]
  cases hrelative : Path.isAbsolute pattern with
  | true => simp [Expandable, Path.join, hrelative]
  | false =>
    rw [forall_valid_congr fun s hs => mem_segments_join hrelative hs, List.forall_mem_append]
    simp [Expandable, hrelative]

end FeatureLint.Glob
