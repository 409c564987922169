import FeatureLint.Config
import FeatureLint.Proofs.Discovery

namespace FeatureLint

namespace Glob

/-- The tokens of a pattern for everything beneath directories of a name. -/
def beneath (name : List Char) : List Token :=
  .anyDirectories :: (name.map .char ++ [.char '/', .anyDirectories])

theorem matchTokens_char (c : Char) (ts : List Token) (cs : List Char) :
    matchTokens (.char c :: ts) (c :: cs) = matchTokens ts cs := by
  have hchar : matchTokens (.char c :: ts) (c :: cs) = (c == c && matchTokens ts cs) := rfl
  rw [hchar, beq_self_eq_true, Bool.true_and]

theorem matchTokens_word (word : List Char) (ts : List Token) (cs : List Char) :
    matchTokens (word.map .char ++ ts) (word ++ cs) = matchTokens ts cs := by
  induction word with
  | nil => rfl
  | cons c word ih => rw [List.map_cons, List.cons_append, List.cons_append, matchTokens_char, ih]

theorem mem_afterSlashes (front rest : List Char) :
    rest ∈ afterSlashes (front ++ '/' :: rest) := by
  induction front with
  | nil => simp [afterSlashes]
  | cons c front ih =>
    rw [List.cons_append, afterSlashes]
    split
    · exact List.mem_cons_of_mem _ ih
    · exact ih

/-- Directories in any number match nothing at all, or a text up to one of its slashes. -/
theorem matchTokens_directories {ts : List Token} {front rest : List Char}
    (hfront : front = [] ∨ ∃ a, front = a ++ ['/']) (h : matchTokens ts rest = true) :
    matchTokens (.anyDirectories :: ts) (front ++ rest) = true := by
  have hmem : rest ∈ (front ++ rest) :: afterSlashes (front ++ rest) := by
    rcases hfront with rfl | ⟨a, rfl⟩
    · exact List.mem_cons_self
    · rw [List.append_assoc, List.singleton_append]
      exact List.mem_cons_of_mem _ (mem_afterSlashes a rest)
  cases ts with
  | nil => rfl
  | cons t ts =>
    rw [matchTokens]
    · exact List.any_eq_true.mpr ⟨rest, hmem, h⟩
    · simp

theorem matchTokens_beneath {name front rest : List Char}
    (hfront : front = [] ∨ ∃ a, front = a ++ ['/']) :
    matchTokens (beneath name) (front ++ (name ++ '/' :: rest)) = true := by
  apply matchTokens_directories hfront
  rw [matchTokens_word, matchTokens_char]
  rfl

theorem parse_target : parse "**/target/**" = .ok ⟨beneath "target".toList⟩ := by cbv

theorem parse_nodeModules : parse "**/node_modules/**" = .ok ⟨beneath "node_modules".toList⟩ := by
  cbv

end Glob

namespace Path

/-- Where a segment with others behind it stands in a text. -/
theorem exists_segment {cs : List Char} {front back : List String} {name : String}
    (h : segmentsOf cs = front ++ name :: back) (hback : back ≠ []) :
    ∃ a b, cs = a ++ (name.toList ++ '/' :: b) ∧ (a = [] ∨ ∃ a', a = a' ++ ['/']) := by
  induction front generalizing cs with
  | nil =>
    rcases first_segment cs with hone | ⟨first, rest, rfl, hmore⟩
    · rw [hone] at h
      exact absurd (List.cons.inj h).2.symm hback
    · rw [hmore] at h
      refine ⟨[], rest, ?_, Or.inl rfl⟩
      rw [← (List.cons.inj h).1, String.toList_ofList, List.nil_append]
  | cons s front ih =>
    rcases first_segment cs with hone | ⟨first, rest, rfl, hmore⟩
    · rw [hone] at h
      simp at h
    · rw [hmore] at h
      obtain ⟨a, b, hrest, ha⟩ := ih (List.cons.inj h).2
      refine ⟨first ++ '/' :: a, b, by simp [hrest], Or.inr ?_⟩
      rcases ha with rfl | ⟨a', rfl⟩
      · exact ⟨first, rfl⟩
      · exact ⟨first ++ '/' :: a', by simp⟩

/-- A name among the components of a path is one of its segments, and leads somewhere. -/
theorem mem_segments_of_component {path name : String} (h : .name name ∈ components path) :
    name ∈ segments path ∧ ¬ Idle name := by
  have hinner : .name name ∈ (segments path).filterMap Component.ofSegment? := by
    unfold components at h
    simp only at h
    split at h
    · simpa using h
    · split at h
      · simpa using h
      · exact h
  obtain ⟨s, hs, hname⟩ := List.mem_filterMap.mp hinner
  have hbusy : ¬ Idle s := by
    intro hidle
    rw [Component.ofSegment?_idle hidle] at hname
    cases hname
  rcases Component.ofSegment?_busy hbusy with hup | hself
  · rw [hup] at hname
    cases hname
  · rw [hself] at hname
    cases hname
    exact ⟨hs, hbusy⟩

/-- A component of the path of a dump that is not the dump itself has others behind it. -/
theorem exists_component {path name : String} (hdump : isDump path = true)
    (hname : .name name ∈ components path) (hother : ∀ stem, name ≠ stem ++ dumpSuffix) :
    ∃ a b, path.toList = a ++ (name.toList ++ '/' :: b) ∧ (a = [] ∨ ∃ a', a = a' ++ ['/']) := by
  obtain ⟨hmem, hbusy⟩ := mem_segments_of_component hname
  obtain ⟨stem, _, hfile⟩ := (isDump_iff path).mp hdump
  obtain ⟨front, back, hsegments, hback⟩ := fileName?_segments hfile
  rw [hsegments] at hmem
  -- Behind the name of the dump nothing leads anywhere, so the component stands in front of it.
  have hfront : name ∈ front := by
    rcases List.mem_append.mp hmem with hmem | hmem
    · exact hmem
    · rcases List.mem_cons.mp hmem with hself | hmem
      · exact absurd hself (hother stem)
      · exact absurd (hback name hmem) hbusy
  obtain ⟨before, between, rfl⟩ := List.append_of_mem hfront
  rw [segments_eq, List.append_assoc, List.cons_append] at hsegments
  exact exists_segment hsegments (by simp)

theorem mem_components_withoutHere {path name : String}
    (h : .name name ∈ components (withoutHere path)) : .name name ∈ components path := by
  by_cases hhere : StartsHere path
  · rw [components_withoutHere hhere]
    exact List.mem_cons_of_mem _ h
  · rwa [withoutHere_of_not_startsHere hhere] at h

end Path

namespace Scan

/-- Nothing beneath a directory of a name is reported where the pattern for that is ignored. -/
theorem not_mem_components_of_ignored {d : Disk} {base f name pattern : String}
    {includes patterns : List String} (hpattern : pattern ∈ patterns)
    (hwild : Glob.isPattern pattern = true)
    (hparse : Glob.parse pattern = .ok ⟨Glob.beneath name.toList⟩)
    (hother : ∀ stem, name ≠ stem ++ Path.dumpSuffix)
    (hf : f ∈ (scan d base includes patterns).files) : .name name ∉ Path.components f := by
  intro hname
  obtain ⟨root, _, p, hp, hdump, rfl⟩ := mem_files.mp hf
  obtain ⟨a, b, hspelled, ha⟩ :=
    Path.exists_component hdump (Path.mem_components_withoutHere hname) hother
  have haccepts : Glob.accepts ⟨Glob.beneath name.toList⟩ p = true := by
    rw [Glob.accepts, hspelled]
    exact Glob.matchTokens_beneath ha
  have hignored : Ignored base patterns p := by
    refine ⟨pattern, hpattern, ?_⟩
    rw [if_pos hwild]
    exact ⟨_, hparse, haccepts⟩
  have hkept := not_ignored_of_mem_walkRoot hp
  rw [(covers_ignores base p patterns).mpr hignored] at hkept
  cases hkept

/-- With the standard patterns among those that are ignored, no dump is reported that has `target`
or `node_modules` among the components of its path, whatever the tree and however the walk came to
it. -/
theorem files_outside_build_output (d : Disk) (base : String) (includes patterns : List String)
    (htarget : "**/target/**" ∈ patterns) (hmodules : "**/node_modules/**" ∈ patterns) :
    ∀ f ∈ (scan d base includes patterns).files,
      .name "target" ∉ Path.components f ∧ .name "node_modules" ∉ Path.components f := by
  have hother : ∀ (name : String), name.toList.getLast? ≠ some 'n' →
      ∀ stem, name ≠ stem ++ Path.dumpSuffix := by
    intro name hlast stem hname
    apply hlast
    simp [hname, Path.dumpSuffix]
  intro f hf
  constructor
  · exact not_mem_components_of_ignored htarget (by decide) Glob.parse_target
      (hother _ (by decide)) hf
  · exact not_mem_components_of_ignored hmodules (by decide) Glob.parse_nodeModules
      (hother _ (by decide)) hf

/-- A dump in a directory of build output. -/
def builtDisk : Disk :=
  ⟨.dir [("target", .dir [("b.feature.json", .file (some "\x7b\x7d"))])], []⟩

/-- A dump elsewhere is found and passes the test; one of build output is found without the patterns
and left out with them, even if the walk starts in its directory. -/
theorem files_outside_build_output_sample :
    "features/a.feature.json" ∈ (scan featureDisk "." ["feat*"] Config.standardIgnores).files ∧
      .name "target" ∉ Path.components "features/a.feature.json" ∧
      (scan builtDisk "." ["target", "tar*", "."] []).files = ["target/b.feature.json"] ∧
      (scan builtDisk "." ["target", "tar*", "."] Config.standardIgnores).files = [] := by
  have hfound : "features/a.feature.json" ∈
      (scan featureDisk "." ["feat*"] Config.standardIgnores).files := by decide +kernel
  have houtside := files_outside_build_output featureDisk "." ["feat*"] Config.standardIgnores
    (by decide) (by decide) _ hfound
  exact ⟨hfound, houtside.1, by decide +kernel, by decide +kernel⟩

end Scan

end FeatureLint
