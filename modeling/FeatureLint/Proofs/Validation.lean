import FeatureLint.Config
import FeatureLint.Proofs.Anchoring
import FeatureLint.Proofs.Discovery
import FeatureLint.Proofs.PatternSegments

namespace FeatureLint

namespace Config

theorem checkIgnores_eq_ok (patterns : List String) :
    checkIgnores patterns = .ok () ↔ ∀ e ∈ patterns, Glob.Valid e := by
  induction patterns with
  | nil => simp [checkIgnores]
  | cons e rest ih =>
    rw [checkIgnores, List.forall_mem_cons]
    cases hparse : Glob.parse e with
    | ok g => simp [Glob.Valid, hparse, ih]
    | error err => simp [Glob.Valid, hparse]

theorem checkIncludes_eq_ok (patterns : List String) :
    checkIncludes patterns = .ok () ↔
      ∀ e ∈ patterns, Glob.isPattern e = true → Glob.Valid e := by
  induction patterns with
  | nil => simp [checkIncludes]
  | cons e rest ih =>
    rw [checkIncludes, List.forall_mem_cons]
    by_cases hpattern : Glob.isPattern e = true
    · cases hparse : Glob.parse e with
      | ok g => simp [Glob.Valid, hpattern, hparse, ih]
      | error err => simp [Glob.Valid, hpattern, hparse]
    · simp [hpattern, ih]

/-- The parts of a configuration can be used, each as it is written. -/
structure Sound (fits : String → Regex → Bool) (c : Config) : Prop where
  ignores : ∀ e ∈ c.ignores, Glob.Valid e
  includes : ∀ e ∈ c.includes, Glob.isPattern e = true → Glob.Valid e
  ignoreTag : c.rule.ignoreTag ≠ ""
  suppression : ∃ r, Regex.compile? c.rule.suppressionPattern fits = some r

theorem validate_eq_ok {fits : String → Regex → Bool} {c : Config} :
    c.validate fits = .ok () ↔ c.Sound fits := by
  constructor
  · intro h
    unfold validate at h
    cases hignores : checkIgnores c.ignores with
    | error e => simp [hignores, bind, Except.bind] at h
    | ok =>
      cases hincludes : checkIncludes c.includes with
      | error e => simp [hignores, hincludes, bind, Except.bind] at h
      | ok =>
        by_cases htag : c.rule.ignoreTag = ""
        · simp [hignores, hincludes, htag, bind, Except.bind] at h
        · cases hcompile : Regex.compile? c.rule.suppressionPattern fits with
          | none => simp [hignores, hincludes, htag, hcompile, bind, Except.bind] at h
          | some r =>
            exact ⟨(checkIgnores_eq_ok _).mp hignores, (checkIncludes_eq_ok _).mp hincludes, htag,
              r, hcompile⟩
  · intro h
    obtain ⟨r, hcompile⟩ := h.suppression
    have hignores := (checkIgnores_eq_ok _).mpr h.ignores
    have hincludes := (checkIncludes_eq_ok _).mpr h.includes
    simp [validate, hignores, hincludes, h.ignoreTag, hcompile, bind, Except.bind]

end Config

namespace Rule

theorem ofSettings_eq_ok {fits : String → Regex → Bool} {settings : RuleSettings} {rule : Rule} :
    ofSettings settings fits = .ok rule ↔ ∃ classifier,
      Comment.Classifier.ofPattern? settings.suppressionPattern fits = some classifier ∧
        rule = ⟨settings.ignoreTag, classifier⟩ := by
  unfold ofSettings
  cases Comment.Classifier.ofPattern? settings.suppressionPattern fits with
  | none => simp
  | some classifier => simp [eq_comm]

/-- The rule of a valid configuration can be made exactly if there is room for its pattern between
the two ends of the text, whatever an engine has room for; it then looks for the pattern as it was
checked, between these ends. -/
theorem ofSettings_of_valid (fits : String → Regex → Bool) {c : Config}
    (hc : c.validate fits = .ok ()) :
    ∃ r, Regex.compile? c.rule.suppressionPattern fits = some r ∧
      ((∃ rule, ofSettings c.rule fits = .ok rule) ↔
        Regex.Enclosable fits c.rule.suppressionPattern r) ∧
      ∀ rule, ofSettings c.rule fits = .ok rule →
        rule = ⟨c.rule.ignoreTag, ⟨Regex.between r⟩⟩ := by
  obtain ⟨r, hr⟩ := (Config.validate_eq_ok.mp hc).suppression
  have hread := (Regex.compile?_eq_some.mp hr).1
  have hsettings : ∀ rule, ofSettings c.rule fits = .ok rule ↔
      Regex.Enclosable fits c.rule.suppressionPattern r ∧
        rule = ⟨c.rule.ignoreTag, ⟨Regex.between r⟩⟩ := by
    intro rule
    simp only [ofSettings_eq_ok, Comment.Classifier.ofPattern?_eq_some hread, and_assoc,
      exists_and_left, exists_eq_left]
  refine ⟨r, hr, ?_, fun rule hrule => ((hsettings rule).mp hrule).2⟩
  simp only [hsettings, exists_and_left, exists_eq, and_true]

/-- Settings with a choice that no parentheses surround. -/
def choiceSettings : RuleSettings := ⟨"ignore", "#a|#b"⟩

theorem ofSettings_of_valid_sample :
    Config.validate ⟨[], [], choiceSettings⟩ = .ok () ∧
      ∃ r rule, Regex.compile? "#a|#b" = some r ∧ ofSettings choiceSettings = .ok rule ∧
        Regex.Enclosable Regex.roughlyFits "#a|#b" r ∧ rule = ⟨"ignore", ⟨Regex.between r⟩⟩ := by
  have hvalid : Config.validate ⟨[], [], choiceSettings⟩ = .ok () := by decide +kernel
  obtain ⟨r, hr, hiff, hshape⟩ := ofSettings_of_valid Regex.roughlyFits hvalid
  have hmade : (Comment.Classifier.ofPattern? choiceSettings.suppressionPattern).isSome = true := by
    decide +kernel
  obtain ⟨classifier, hclassifier⟩ := Option.isSome_iff_exists.mp hmade
  have hrule := ofSettings_eq_ok.mpr ⟨classifier, hclassifier, rfl⟩
  exact ⟨hvalid, r, _, hr, hrule, hiff.mp ⟨_, hrule⟩, hshape _ hrule⟩

/-- A comment at the end of a pattern swallows what is put behind the pattern. -/
theorem valid_without_rule :
    Config.validate ⟨[], [], ⟨"ignore", "(?x)a # c"⟩⟩ = .ok () ∧
      ofSettings ⟨"ignore", "(?x)a # c"⟩ = .error (.badSuppression "(?x)a # c") := by
  decide +kernel

end Rule

namespace Scan

theorem addIgnore_of_valid {base e : String} {i : Ignores × List Warning} (h : Glob.Valid e) :
    (addIgnore base i e).2 = i.2 := by
  obtain ⟨g, hg⟩ := h
  unfold addIgnore
  split
  · rw [hg]
  · rfl

theorem foldl_addIgnore_of_valid {base : String} {patterns : List String}
    (h : ∀ e ∈ patterns, Glob.Valid e) (i : Ignores × List Warning) :
    (patterns.foldl (addIgnore base) i).2 = i.2 := by
  induction patterns generalizing i with
  | nil => rfl
  | cons e rest ih =>
    obtain ⟨hfirst, hrest⟩ := List.forall_mem_cons.mp h
    rw [List.foldl_cons, ih hrest, addIgnore_of_valid hfirst]

/-- An include with wildcards is searched for exactly if this is possible from the base. -/
theorem rootsOf_expandable {d : Disk} {base e : String} (hpattern : Glob.isPattern e = true)
    (h : Glob.Expandable base e) :
    ∃ found, Glob.expand d (Path.join base e) = .ok found ∧ rootsOf d base e = (found, []) := by
  obtain ⟨found, hfound⟩ := (Glob.expand_join_ok_iff d base e).mpr h
  refine ⟨found, hfound, ?_⟩
  simp only [rootsOf, if_pos hpattern, hfound]

theorem rootsOf_not_expandable {d : Disk} {base e : String} (hpattern : Glob.isPattern e = true)
    (h : ¬ Glob.Expandable base e) : ∃ err, rootsOf d base e = ([], [.badInclude e err]) := by
  rw [← Glob.expand_join_ok_iff d] at h
  cases hexpand : Glob.expand d (Path.join base e) with
  | ok found => exact absurd ⟨found, hexpand⟩ h
  | error err =>
    refine ⟨err, ?_⟩
    simp only [rootsOf, if_pos hpattern, hexpand]

theorem mem_roots_of_rootsOf {d : Disk} {base e root : String} {includes : List String}
    (he : e ∈ includes) (h : root ∈ (rootsOf d base e).1) : root ∈ (roots d base includes).1 := by
  rw [mem_roots (List.ne_nil_of_mem he)]
  exact ⟨e, he, by simpa [roots] using h⟩

theorem mem_warnings_of_roots {d : Disk} {base : String} {includes : List String} {w : Warning} :
    w ∈ (roots d base includes).2 ↔ ∃ e ∈ includes, w ∈ (rootsOf d base e).2 := by
  cases includes with
  | nil => simp [roots]
  | cons e rest =>
    simp [roots]

/-- What is said about an include that is no pattern behind the base. -/
theorem badInclude_mem_rootsOf {d : Disk} {base e : String} :
    (∃ p err, Warning.badInclude p err ∈ (rootsOf d base e).2) ↔
      Glob.isPattern e = true ∧ ¬ Glob.Expandable base e := by
  by_cases hpattern : Glob.isPattern e = true
  · by_cases hexpandable : Glob.Expandable base e
    · obtain ⟨found, _, hroots⟩ := rootsOf_expandable (d := d) hpattern hexpandable
      simp [hroots, hexpandable]
    · obtain ⟨err, hroots⟩ := rootsOf_not_expandable (d := d) hpattern hexpandable
      simp [hroots, hexpandable, hpattern]
  · simp only [rootsOf, if_neg hpattern]
    split <;> simp [hpattern]

/-- With a valid configuration all ignores take part in what is left out. Its includes with
wildcards are searched for where they and the base are patterns segment by segment; all others are
given up, and only these. -/
theorem patterns_of_valid {c : Config} (hc : c.validate = .ok ()) (d : Disk) (base : String) :
    (ignores base c.ignores).2 = [] ∧
      (∀ e ∈ c.ignores, Glob.isPattern e = true → ∃ glob, Glob.parse e = .ok glob ∧
        ∀ path, glob.accepts path = true → (ignores base c.ignores).1.covers path = true) ∧
      (∀ e ∈ c.includes, Glob.isPattern e = true → Glob.Expandable base e →
        ∃ found, Glob.expand d (Path.join base e) = .ok found ∧ rootsOf d base e = (found, []) ∧
          found ⊆ (roots d base c.includes).1) ∧
      ((∃ p err, Warning.badInclude p err ∈ (roots d base c.includes).2) ↔
        ∃ e ∈ c.includes, Glob.isPattern e = true ∧ ¬ Glob.Expandable base e) := by
  have hsound := Config.validate_eq_ok.mp hc
  refine ⟨foldl_addIgnore_of_valid hsound.ignores _, ?_, ?_, ?_⟩
  · intro e he hpattern
    obtain ⟨glob, hglob⟩ := hsound.ignores e he
    refine ⟨glob, hglob, fun path haccepts => (covers_ignores base path c.ignores).mpr ?_⟩
    refine ⟨e, he, ?_⟩
    rw [if_pos hpattern]
    exact ⟨glob, hglob, haccepts⟩
  · intro e he hpattern hexpandable
    obtain ⟨found, hfound, hroots⟩ := rootsOf_expandable (d := d) hpattern hexpandable
    refine ⟨found, hfound, hroots, fun root hroot => ?_⟩
    apply mem_roots_of_rootsOf he
    rwa [hroots]
  · simp only [mem_warnings_of_roots, ← badInclude_mem_rootsOf (d := d)]
    constructor
    · intro h
      obtain ⟨p, err, e, he, hwarning⟩ := h
      exact ⟨e, he, p, err, hwarning⟩
    · intro h
      obtain ⟨e, he, p, err, hwarning⟩ := h
      exact ⟨p, err, e, he, hwarning⟩

/-- A configuration with patterns on both sides. -/
def wildConfig : Config := ⟨["feat*"], Config.standardIgnores, .standard⟩

theorem patterns_of_valid_sample :
    wildConfig.validate = .ok () ∧ Glob.Expandable "." "feat*" ∧
      (ignores "." wildConfig.ignores).2 = [] ∧
      (ignores "." wildConfig.ignores).1.covers "a/target/b" = true ∧
      "features" ∈ (roots featureDisk "." wildConfig.includes).1 := by
  have hvalid : wildConfig.validate = .ok () := by decide +kernel
  have hexpandable : Glob.Expandable "." "feat*" := by decide +kernel
  obtain ⟨hquiet, hignores, hincludes, _⟩ := patterns_of_valid hvalid featureDisk "."
  refine ⟨hvalid, hexpandable, hquiet, ?_, ?_⟩
  · obtain ⟨glob, hglob, hcovers⟩ := hignores "**/target/**" (by decide) (by decide)
    have haccepts : (Glob.parse "**/target/**").map (Glob.accepts · "a/target/b") = .ok true := by
      decide +kernel
    rw [hglob] at haccepts
    exact hcovers _ (Except.ok.inj haccepts)
  · obtain ⟨found, hfound, _, hroots⟩ := hincludes "feat*" (by decide) (by decide) hexpandable
    apply hroots
    have hexpand : Glob.expand featureDisk (Path.join "." "feat*") = .ok ["features"] := by
      decide +kernel
    cases hexpand.symm.trans hfound
    exact List.mem_singleton_self _

/-- A directory with a bracket in its name, and one with a dump in it. -/
def bracketDisk : Disk :=
  ⟨.dir [("p[1", .dir [("features", .dir [("a.feature.json", .file (some "\x7b\x7d"))])])], []⟩

/-- A bracket in the name of the base, or a class that holds a slash: the includes are valid, and
nothing is searched for. Without wildcards the same directory is found. -/
theorem valid_include_given_up :
    wildConfig.validate = .ok () ∧
      rootsOf bracketDisk "p[1" "feat*" = ([], [.badInclude "feat*" ⟨1, .range⟩]) ∧
      rootsOf bracketDisk "p[1" "features" = (["p[1/features"], []) ∧
      Config.validate ⟨["*[a/b]"], [], .standard⟩ = .ok () ∧
      rootsOf featureDisk "." "*[a/b]" = ([], [.badInclude "*[a/b]" ⟨1, .range⟩]) := by
  decide +kernel

end Scan

end FeatureLint
