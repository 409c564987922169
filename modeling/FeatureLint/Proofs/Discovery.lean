import FeatureLint.Proofs.Walk
import Mathlib.Data.String.Basic

namespace FeatureLint

namespace Scan

/-- A path below one that is to be left out, or one that a valid pattern of those matches. -/
def Ignored (base : String) (patterns : List String) (path : String) : Prop :=
  ∃ e ∈ patterns,
    if Glob.isPattern e then ∃ glob, Glob.parse e = .ok glob ∧ glob.accepts path = true
    else Path.components (Path.join base e) <+: Path.components path

theorem covers_addIgnore (base pattern path : String) (i : Ignores × List Warning) :
    (addIgnore base i pattern).1.covers path = true ↔
      i.1.covers path = true ∨ Ignored base [pattern] path := by
  simp only [Ignored, List.mem_singleton, exists_eq_left]
  unfold addIgnore
  by_cases hpattern : Glob.isPattern pattern = true
  · rw [if_pos hpattern, if_pos hpattern]
    cases Glob.parse pattern with
    | ok glob => simp [Ignores.covers, or_assoc]
    | error e => simp
  · rw [if_neg hpattern, if_neg hpattern]
    simp [Ignores.covers, Path.startsWith_iff, or_right_comm]

theorem ignored_cons {base pattern path : String} {patterns : List String} :
    Ignored base (pattern :: patterns) path ↔
      Ignored base [pattern] path ∨ Ignored base patterns path := by
  simp only [Ignored, List.exists_mem_cons_iff, List.not_mem_nil, false_and, exists_false, or_false]

theorem covers_foldl (base path : String) (patterns : List String) (i : Ignores × List Warning) :
    (patterns.foldl (addIgnore base) i).1.covers path = true ↔
      i.1.covers path = true ∨ Ignored base patterns path := by
  induction patterns generalizing i with
  | nil => simp [Ignored]
  | cons pattern patterns ih => rw [List.foldl_cons, ih, covers_addIgnore, or_assoc, ← ignored_cons]

theorem covers_ignores (base path : String) (patterns : List String) :
    (ignores base patterns).1.covers path = true ↔ Ignored base patterns path := by
  rw [ignores, covers_foldl]
  simp [Ignores.covers]

theorem mem_insertSorted {s t : String} {l : List String} :
    t ∈ insertSorted s l ↔ t = s ∨ t ∈ l := by
  induction l with
  | nil => simp [insertSorted]
  | cons u l ih =>
    rw [insertSorted]
    split
    · simp
    · split
      · rename_i heq
        simp [heq]
      · simp [ih, or_left_comm]

theorem pairwise_insertSorted {s : String} {l : List String} (h : l.Pairwise (· < ·)) :
    (insertSorted s l).Pairwise (· < ·) := by
  induction l with
  | nil => simp [insertSorted]
  | cons u l ih =>
    obtain ⟨hu, hl⟩ := List.pairwise_cons.mp h
    rw [insertSorted]
    split
    · rename_i hlt
      refine List.pairwise_cons.mpr ⟨?_, h⟩
      rintro t (_ | ⟨_, ht⟩)
      · exact hlt
      · exact hlt.trans (hu t ht)
    · rename_i hnot
      split
      · exact h
      · rename_i hne
        refine List.pairwise_cons.mpr ⟨?_, ih hl⟩
        intro t ht
        rcases mem_insertSorted.mp ht with rfl | ht
        · exact lt_of_le_of_ne (not_lt.mp hnot) (Ne.symm hne)
        · exact hu t ht

theorem mem_dumps {f : String} {files : List String} :
    f ∈ dumps files ↔ ∃ p ∈ files, Path.isDump p = true ∧ f = Path.withoutHere p := by
  have hfold : ∀ l : List String, f ∈ l.foldr insertSorted [] ↔ f ∈ l := by
    intro l
    induction l with
    | nil => simp
    | cons s l ih => rw [List.foldr_cons, mem_insertSorted, ih, List.mem_cons]
  rw [dumps, hfold]
  simp only [List.mem_map, List.mem_filter, and_assoc, eq_comm]

theorem pairwise_dumps (files : List String) : (dumps files).Pairwise (· < ·) := by
  unfold dumps
  induction (files.filter Path.isDump).map Path.withoutHere with
  | nil => simp
  | cons s l ih => exact pairwise_insertSorted ih

theorem mem_files {d : Disk} {base f : String} {includes patterns : List String} :
    f ∈ (scan d base includes patterns).files ↔
      ∃ root ∈ (roots d base includes).1,
        ∃ p ∈ (walkRoot d (ignores base patterns).1.covers root).files,
          Path.isDump p = true ∧ f = Path.withoutHere p := by
  simp only [scan, mem_dumps, List.mem_flatMap, List.mem_map, exists_exists_and_eq_and]
  constructor
  · rintro ⟨p, ⟨root, hroot, hp⟩, hdump⟩
    exact ⟨root, hroot, p, hp, hdump⟩
  · rintro ⟨root, hroot, p, hp, hdump⟩
    exact ⟨p, ⟨root, hroot, hp⟩, hdump⟩

theorem pairwise_files (d : Disk) (base : String) (includes patterns : List String) :
    (scan d base includes patterns).files.Pairwise (· < ·) :=
  pairwise_dumps _

theorem nodup_files (d : Disk) (base : String) (includes patterns : List String) :
    (scan d base includes patterns).files.Nodup :=
  (pairwise_files d base includes patterns).imp fun h => h.ne

/-- Two scans that find the same dumps list them in the same way. -/
theorem files_eq_of_mem_iff {s t : List String} (hs : s.Pairwise (· < ·)) (ht : t.Pairwise (· < ·))
    (h : ∀ f, f ∈ s ↔ f ∈ t) : s = t := by
  have hperm : s.Perm t :=
    (List.perm_ext_iff_of_nodup (hs.imp fun h => h.ne) (ht.imp fun h => h.ne)).mpr h
  exact hperm.eq_of_pairwise (fun a b _ _ hab hba => absurd hba hab.asymm) hs ht

/-- Every include has roots of its own. -/
theorem mem_roots {d : Disk} {base root : String} {includes : List String} (h : includes ≠ []) :
    root ∈ (roots d base includes).1 ↔ ∃ e ∈ includes, root ∈ (roots d base [e]).1 := by
  simp [roots, h]

section

variable {d : Disk} {path root : String} {names : List String}

theorem lstat_ne_link (hd : d.root.WellFormed) (hfree : d.root.LinkFree) {n : Node}
    (h : d.lstat path = .ok n) (target : String) : n ≠ .link target := by
  rintro rfl
  obtain ⟨place, _, hat⟩ := Disk.lstat_eq_ok.mp h
  exact hfree place target ((Node.holds_iff_at? hd).mpr hat)

/-- The paths on the way down to something that is there lead to directories. -/
theorem stat_above (hpath : path ≠ "") (hnames : ∀ name ∈ names, Path.IsName name)
    (h : d.pathExists (spell path names) = true) :
    ∀ q ∈ above path names, ∃ entries, d.stat q = .ok (.dir entries) := by
  induction names generalizing path with
  | nil => simp [above]
  | cons name names ih =>
    obtain ⟨hname, hnames⟩ := List.forall_mem_cons.mp hnames
    have hnext := Path.join_ne_empty hpath hname.slashFree
    obtain ⟨m, hm⟩ := lstat_of_spell hnext hnames h
    obtain ⟨entries, hdir, _⟩ := Disk.lstat_join hpath hname.slashFree hm
    exact List.forall_mem_cons.mpr ⟨⟨entries, hdir⟩, ih hnext hnames h⟩

/-- Without links a walk comes upon every file at or below its root that is not left out. -/
theorem meets_of_linkFree (hd : d.root.WellFormed) (hfree : d.root.LinkFree)
    {ignored : String → Bool} :
    Meets d ignored root names ↔
      d.pathExists root = true ∧ (∀ name ∈ names, Path.IsName name) ∧
        d.isFile (spell root names) = true ∧ ∀ q ∈ trail root names, ignored q = false := by
  rw [trail_head, List.forall_mem_cons]
  constructor
  · intro h
    refine ⟨h.there, h.named, h.file, h.entered.resolve_right ?_, h.kept⟩
    rintro ⟨_, target, hlink⟩
    exact lstat_ne_link hd hfree hlink target rfl
  · rintro ⟨hthere, hnames, hfile, hroot, hkept⟩
    refine ⟨hthere, hnames, hfile, Or.inl hroot, hkept, ?_⟩
    intro q hq
    obtain ⟨n, hn⟩ := Disk.exists_lstat_of_pathExists hthere
    obtain ⟨entries, hdir⟩ := stat_above (Disk.path_ne_empty hn) hnames (Disk.pathExists_of_isFile hfile) q
      (List.mem_of_mem_tail hq)
    rcases Disk.lstat_of_stat hdir with hdir | ⟨target, hlink⟩
    · exact ⟨entries, hdir⟩
    · exact absurd rfl (lstat_ne_link hd hfree hlink target)

end

/-- A dump at or below a root that is there, on whose way down from the root nothing is ignored. -/
def Reported (d : Disk) (base : String) (includes patterns : List String) (f : String) : Prop :=
  ∃ root ∈ (roots d base includes).1, d.pathExists root = true ∧
    ∃ names, (∀ name ∈ names, Path.IsName name) ∧
      d.isFile (spell root names) = true ∧ Path.isDump (spell root names) = true ∧
      (∀ q ∈ trail root names, ¬ Ignored base patterns q) ∧ f = Path.withoutHere (spell root names)

theorem mem_files_linkFree {d : Disk} (hd : d.root.WellFormed) (hfree : d.root.LinkFree)
    {base f : String} {includes patterns : List String} :
    f ∈ (scan d base includes patterns).files ↔ Reported d base includes patterns f := by
  have hignored : ∀ q, (ignores base patterns).1.covers q = false ↔ ¬ Ignored base patterns q := by
    intro q
    rw [← covers_ignores, Bool.not_eq_true]
  simp only [mem_files, mem_walkRoot hd, meets_of_linkFree hd hfree, hignored, Reported]
  constructor
  · rintro ⟨root, hroot, _, ⟨names, ⟨hthere, hnames, hfile, hkept⟩, rfl⟩, hdump, hf⟩
    exact ⟨root, hroot, hthere, names, hnames, hfile, hdump, hkept, hf⟩
  · rintro ⟨root, hroot, hthere, names, hnames, hfile, hdump, hkept, hf⟩
    exact ⟨root, hroot, _, ⟨names, ⟨hthere, hnames, hfile, hkept⟩, rfl⟩, hdump, hf⟩

theorem mem_files_split {d : Disk} {base f : String} {includes patterns : List String}
    (h : includes ≠ []) :
    f ∈ (scan d base includes patterns).files ↔
      ∃ e ∈ includes, f ∈ (scan d base [e] patterns).files := by
  simp only [mem_files, mem_roots h]
  constructor
  · rintro ⟨root, ⟨e, he, hroot⟩, hp⟩
    exact ⟨e, he, root, hroot, hp⟩
  · rintro ⟨e, he, root, hroot, hp⟩
    exact ⟨root, ⟨e, he, hroot⟩, hp⟩

/-- On a disk without links a scan finds exactly the dumps at or below its roots that are not left
out on the way down, ascending and each once. It finds what its includes find one by one, so their
order does not matter, nor whether they are repeated or overlap. -/
theorem files_exactly_reported (d : Disk) (hd : d.root.WellFormed) (hfree : d.root.LinkFree)
    (base : String) (includes patterns : List String) :
    (scan d base includes patterns).files.Pairwise (· < ·) ∧
      (∀ f, f ∈ (scan d base includes patterns).files ↔ Reported d base includes patterns f) ∧
      (∀ others : List String, (∀ e, e ∈ others ↔ e ∈ includes) →
        (scan d base others patterns).files = (scan d base includes patterns).files) ∧
      (includes ≠ [] → ∀ f, f ∈ (scan d base includes patterns).files ↔
        ∃ e ∈ includes, f ∈ (scan d base [e] patterns).files) := by
  refine ⟨pairwise_files d base includes patterns, fun f => mem_files_linkFree hd hfree, ?_,
    fun h f => mem_files_split h⟩
  intro others hsame
  apply files_eq_of_mem_iff (pairwise_files ..) (pairwise_files ..)
  intro f
  by_cases hempty : includes = []
  · obtain rfl : others = [] := List.eq_nil_iff_forall_not_mem.mpr fun e he => by
      simpa [hempty] using (hsame e).mp he
    rw [hempty]
  · have hothers : others ≠ [] := by
      rintro rfl
      exact hempty (List.eq_nil_iff_forall_not_mem.mpr fun e he => by simpa using (hsame e).mpr he)
    simp only [mem_files_split hempty, mem_files_split hothers, hsame]

/-- Two features, one of them a draft. -/
def sampleDisk : Disk :=
  ⟨.dir [("features", .dir [("a.feature.json", .file (some "\x7b\x7d")),
    ("drafts", .dir [("b.feature.json", .file (some "\x7b\x7d"))])])], []⟩

theorem files_exactly_reported_sample :
    sampleDisk.root.WellFormed ∧ sampleDisk.root.LinkFree ∧
      "features/a.feature.json" ∈
        (scan sampleDisk "." ["features", "features/drafts"] ["features/drafts"]).files ∧
      (scan sampleDisk "." ["features", "features", "."] ["*/drafts"]).files =
        (scan sampleDisk "." [".", "features"] ["*/drafts"]).files := by
  have hd : sampleDisk.root.WellFormed := by
    simp only [sampleDisk, Node.wellFormed_dir_iff, List.forall_mem_cons]
    simp only [List.not_mem_nil, false_imp_iff, implies_true, and_true, Node.wellFormed_file]
    decide
  have hfree : sampleDisk.root.LinkFree := by
    simp [sampleDisk, Node.linkFree_dir_iff, Node.linkFree_file]
  refine ⟨hd, hfree, ?_, ?_⟩
  · refine ((files_exactly_reported sampleDisk hd hfree _ _ _).2.1 _).mpr
      ⟨"./features", by decide +kernel, by decide +kernel, ["a.feature.json"], by decide,
        by decide +kernel, by decide +kernel, ?_, by decide +kernel⟩
    rintro q hq ⟨e, he, hignored⟩
    obtain rfl : e = "features/drafts" := by simpa using he
    rw [if_neg (by decide)] at hignored
    revert q
    decide +kernel
  · refine (files_exactly_reported sampleDisk hd hfree _ _ _).2.2.1 _ ?_
    simp [or_comm]

section

variable {d : Disk} {ignored : String → Bool}

theorem not_ignored_of_mem_walk {path p : String} {n : Node}
    (h : p ∈ (walk d ignored path n).files) : ignored p = false := by
  obtain ⟨names, _, _, _, rfl, _, hkept, _⟩ := (mem_walk d ignored path p n).mp h
  exact hkept _ (by simp [trail])

theorem not_ignored_of_mem_walkRoot {root p : String}
    (h : p ∈ (walkRoot d ignored root).files) : ignored p = false := by
  unfold walkRoot at h
  split at h
  · simp at h
  · split at h
    · simp at h
    · obtain ⟨name, child, _, hp⟩ := mem_walkEntries.mp h
      exact not_ignored_of_mem_walk hp
    · exact not_ignored_of_mem_walk h
  · exact not_ignored_of_mem_walk h

end

/-- A dump is reported only if it was walked on a path that is not ignored. Of the path that is
reported this can be told if both are spelled in the same way: by patterns if the walk does not start
at `.`, by paths to be left out if these start there like the walk. -/
theorem files_walked_unignored (d : Disk) (base : String) (includes patterns : List String) :
    ∀ f ∈ (scan d base includes patterns).files, ∃ root ∈ (roots d base includes).1,
      ∃ p ∈ (walkRoot d (ignores base patterns).1.covers root).files,
      f = Path.withoutHere p ∧ ¬ Ignored base patterns p ∧
      (¬ Path.StartsHere p → ∀ e ∈ patterns, Glob.isPattern e = true →
        ∀ glob, Glob.parse e = .ok glob → glob.accepts f = false) ∧
      ∀ e ∈ patterns, Glob.isPattern e = false →
        (Path.StartsHere p ↔ Path.StartsHere (Path.join base e)) →
        ¬ Path.components (Path.withoutHere (Path.join base e)) <+: Path.components f := by
  intro f hf
  obtain ⟨root, hroot, p, hp, _, rfl⟩ := mem_files.mp hf
  have hkept : ¬ Ignored base patterns p := by
    rw [← covers_ignores, Bool.not_eq_true]
    exact not_ignored_of_mem_walkRoot hp
  refine ⟨root, hroot, p, hp, rfl, hkept, ?_, ?_⟩
  · intro hhere e he hpattern glob hglob
    rw [Path.withoutHere_of_not_startsHere hhere, ← Bool.not_eq_true]
    intro haccepts
    exact hkept ⟨e, he, by rw [if_pos hpattern]; exact ⟨glob, hglob, haccepts⟩⟩
  · intro e he hpattern hsame
    rw [Path.prefix_withoutHere hsame]
    intro hbelow
    exact hkept ⟨e, he, by rwa [if_neg (by simp [hpattern])]⟩

/-- A directory with one dump in it. -/
def featureDisk : Disk :=
  ⟨.dir [("features", .dir [("a.feature.json", .file (some "\x7b\x7d"))])], []⟩

/-- A pattern is told of a path that does not start at `.`, and a path to be left out of one that
does. -/
theorem files_walked_unignored_sample :
    ("features/a.feature.json" ∈ (scan featureDisk "" ["features"] ["drafts/*"]).files ∧
        ¬ Ignored "" ["drafts/*"] "features/a.feature.json" ∧
        ∀ glob, Glob.parse "drafts/*" = .ok glob →
          glob.accepts "features/a.feature.json" = false) ∧
      "features/a.feature.json" ∈ (scan featureDisk "." [] ["drafts"]).files ∧
      ¬ Path.components (Path.withoutHere (Path.join "." "drafts")) <+:
        Path.components "features/a.feature.json" := by
  have hbare : "features/a.feature.json" ∈
      (scan featureDisk "" ["features"] ["drafts/*"]).files := by decide +kernel
  have hbareRoots : (roots featureDisk "" ["features"]).1 = ["features"] := by decide +kernel
  have hbareFiles : (walkRoot featureDisk (ignores "" ["drafts/*"]).1.covers "features").files =
      ["features/a.feature.json"] := by decide +kernel
  have hdotted : "features/a.feature.json" ∈ (scan featureDisk "." [] ["drafts"]).files := by
    decide +kernel
  have hdottedFiles : (walkRoot featureDisk (ignores "." ["drafts"]).1.covers ".").files =
      ["./features/a.feature.json"] := by decide +kernel
  constructor
  · obtain ⟨root, hroot, p, hp, _, hkept, hpatterns, _⟩ :=
      files_walked_unignored featureDisk "" ["features"] ["drafts/*"] _ hbare
    rw [hbareRoots, List.mem_singleton] at hroot
    rw [hroot, hbareFiles, List.mem_singleton] at hp
    subst hp
    exact ⟨hbare, hkept, hpatterns (by decide) "drafts/*" (by simp) (by decide)⟩
  · obtain ⟨root, hroot, p, hp, _, _, _, hpaths⟩ :=
      files_walked_unignored featureDisk "." [] ["drafts"] _ hdotted
    obtain rfl : root = "." := List.mem_singleton.mp hroot
    rw [hdottedFiles, List.mem_singleton] at hp
    subst hp
    exact ⟨hdotted, hpaths "drafts" (by simp) (by decide) (by decide)⟩

/-- Where the walk starts at `.`, a pattern that matches the reported path leaves nothing out; where
an include with wildcards starts there, not even a path does. -/
theorem files_spelled_otherwise :
    ("features/a.feature.json" ∈ (scan featureDisk "." [] ["features/*"]).files ∧
        ∃ glob, Glob.parse "features/*" = .ok glob ∧
          glob.accepts "features/a.feature.json" = true) ∧
      "features/a.feature.json" ∈ (scan featureDisk "." ["feat*"] ["features"]).files ∧
      Path.components (Path.withoutHere (Path.join "." "features")) <+:
        Path.components "features/a.feature.json" := by
  refine ⟨⟨by decide +kernel, _, rfl, ?_⟩, by decide +kernel, by decide +kernel⟩
  decide +kernel

end Scan

end FeatureLint
