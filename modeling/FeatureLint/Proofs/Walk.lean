import FeatureLint.Proofs.Resolution
import FeatureLint.Scan

namespace FeatureLint

namespace Scan

/-- The path that a walk comes to from another over some names. -/
def spell (path : String) (names : List String) : String := names.foldl Path.join path

/-- The paths that a walk comes through on its way from a path over some names, without the last. -/
def above (path : String) : List String → List String
  | [] => []
  | name :: names => path :: above (Path.join path name) names

/-- All paths on the way, as the walk spells them. -/
def trail (path : String) (names : List String) : List String := above path names ++ [spell path names]

@[simp]
theorem spell_nil (path : String) : spell path [] = path := rfl

@[simp]
theorem spell_cons (path name : String) (names : List String) :
    spell path (name :: names) = spell (Path.join path name) names := rfl

@[simp]
theorem trail_nil (path : String) : trail path [] = [path] := rfl

@[simp]
theorem trail_cons (path name : String) (names : List String) :
    trail path (name :: names) = path :: trail (Path.join path name) names := rfl

theorem mem_inOrder {walks : List (String × Walked)} {p : String} :
    p ∈ (Walked.inOrder walks).files ↔ ∃ w ∈ walks, p ∈ w.2.files := by
  simp [Walked.inOrder, List.mem_mergeSort]

theorem walkEntries_eq (d : Disk) (ignored : String → Bool) (path : String)
    (entries : List (String × Node)) :
    walkEntries d ignored path entries =
      entries.map fun e => (e.1, walk d ignored (Path.join path e.1) e.2) := by
  induction entries with
  | nil => rfl
  | cons e entries ih => rw [walkEntries, ih, List.map_cons]

theorem mem_walkEntries {d : Disk} {ignored : String → Bool} {path p : String}
    {entries : List (String × Node)} :
    p ∈ (Walked.inOrder (walkEntries d ignored path entries)).files ↔
      ∃ name child, (name, child) ∈ entries ∧
        p ∈ (walk d ignored (Path.join path name) child).files := by
  rw [mem_inOrder, walkEntries_eq]
  constructor
  · rintro ⟨w, hw, hp⟩
    obtain ⟨e, he, rfl⟩ := List.mem_map.mp hw
    exact ⟨e.1, e.2, he, hp⟩
  · rintro ⟨name, child, he, hp⟩
    exact ⟨_, List.mem_map.mpr ⟨(name, child), he, rfl⟩, hp⟩

/-- At a node that is no directory the walk can find that node only. -/
theorem mem_walk_leaf {d : Disk} {ignored : String → Bool} {path p : String} {n : Node}
    (hn : ∀ entries, n ≠ .dir entries) :
    p ∈ (walk d ignored path n).files ↔
      p = path ∧ d.isFile path = true ∧ ignored path = false := by
  have hfiles : (walk d ignored path n).files =
      if !ignored path && d.isFile path then [path] else [] := by
    cases n with
    | dir entries => exact absurd rfl (hn entries)
    | file text => simp [walk]
    | link target => simp [walk]
  rw [hfiles]
  split
  · rename_i h
    simp_all
  · rename_i h
    simp only [List.not_mem_nil, false_iff]
    rintro ⟨_, hfile, hkept⟩
    exact h (by simp [hfile, hkept])

/-- Into a directory the walk goes if it is not ignored and its path can be used. -/
theorem mem_walk_dir {d : Disk} {ignored : String → Bool} {path p : String}
    {entries : List (String × Node)} :
    p ∈ (walk d ignored path (.dir entries)).files ↔
      ignored path = false ∧ (∃ m, d.stat path = .ok m) ∧
        ∃ name child, (name, child) ∈ entries ∧
          p ∈ (walk d ignored (Path.join path name) child).files := by
  rw [walk]
  split
  · rename_i h
    simp [h]
  · rename_i h
    cases hstat : d.stat path with
    | error e => simp
    | ok m =>
      rw [mem_walkEntries]
      simp [h]

/-- A walk over a node finds the files below it, unless a path on the way is ignored or too long. -/
theorem mem_walk (d : Disk) (ignored : String → Bool) (path p : String) (n : Node) :
    p ∈ (walk d ignored path n).files ↔
      ∃ names leaf, n.Holds names leaf ∧ (∀ entries, leaf ≠ .dir entries) ∧ p = spell path names ∧
        d.isFile p = true ∧ (∀ q ∈ trail path names, ignored q = false) ∧
        ∀ q ∈ above path names, ∃ m, d.stat q = .ok m := by
  by_cases hn : ∀ entries, n ≠ .dir entries
  · rw [mem_walk_leaf hn]
    constructor
    · rintro ⟨rfl, hfile, hkept⟩
      exact ⟨[], n, .here n, hn, rfl, hfile, by simpa using hkept, by simp [above]⟩
    · rintro ⟨names, leaf, hholds, _, hp, hfile, hkept, _⟩
      cases names with
      | nil => exact ⟨hp, by simpa [hp] using hfile, hkept path (by simp)⟩
      | cons name names =>
        obtain ⟨entries, _, heq, _⟩ := Node.holds_cons_iff.mp hholds
        exact absurd heq (hn entries)
  · obtain ⟨entries, rfl⟩ : ∃ entries, n = .dir entries := by simpa using hn
    rw [mem_walk_dir]
    constructor
    · rintro ⟨hkept, hstat, name, child, hentry, hp⟩
      obtain ⟨names, leaf, hholds, hleaf, hp, hfile, hrest, habove⟩ :=
        (mem_walk d ignored (Path.join path name) p child).mp hp
      refine ⟨name :: names, leaf, .inside hentry hholds, hleaf, hp, hfile, ?_, ?_⟩
      · simpa [hkept] using hrest
      · simpa [above, hstat] using habove
    · rintro ⟨names, leaf, hholds, hleaf, hp, hfile, hkept, habove⟩
      cases names with
      | nil => exact absurd (Node.holds_nil_iff.mp hholds) (hleaf entries)
      | cons name names =>
        obtain ⟨_, child, heq, hentry, hchild⟩ := Node.holds_cons_iff.mp hholds
        obtain rfl := Node.dir.inj heq
        simp only [trail_cons, above, List.mem_cons, forall_eq_or_imp] at hkept habove
        exact ⟨hkept.1, habove.1, name, child, hentry,
          (mem_walk d ignored (Path.join path name) p child).mpr
            ⟨names, leaf, hchild, hleaf, hp, hfile, hkept.2, habove.2⟩⟩
termination_by sizeOf n
decreasing_by
  all_goals
    subst_vars
    have hsize := List.sizeOf_lt_of_mem hentry
    simp only [Prod.mk.sizeOf_spec] at hsize
    simp only [Node.dir.sizeOf_spec]
    omega

section

variable {d : Disk} {ignored : String → Bool} {path p : String} {n : Node} {names : List String}

/-- What is below a path can be there only if the path is. -/
theorem lstat_of_spell (hpath : path ≠ "") (hnames : ∀ name ∈ names, Path.IsName name)
    (h : d.pathExists (spell path names) = true) : ∃ n, d.lstat path = .ok n := by
  induction names generalizing path with
  | nil =>
    obtain ⟨n, hn⟩ := Disk.pathExists_iff.mp h
    exact Disk.exists_lstat hn
  | cons name names ih =>
    obtain ⟨hname, hnames⟩ := List.forall_mem_cons.mp hnames
    obtain ⟨m, hm⟩ := ih (Path.join_ne_empty hpath hname.slashFree) hnames h
    obtain ⟨entries, hdir, _⟩ := Disk.lstat_join hpath hname.slashFree hm
    exact Disk.exists_lstat hdir

/-- A walk goes on from a directory with the entries that paths lead to. -/
theorem lstat_entry (hd : d.root.WellFormed) {entries : List (String × Node)}
    (hdir : d.stat path = .ok (.dir entries)) (hpath : path ≠ "") {name : String} {child : Node}
    (hentry : (name, child) ∈ entries) (hname : Path.IsName name)
    (hnames : ∀ name ∈ names, Path.IsName name)
    (h : d.pathExists (spell path (name :: names)) = true) :
    d.lstat (Path.join path name) = .ok child := by
  obtain ⟨m, hm⟩ := lstat_of_spell (Path.join_ne_empty hpath hname.slashFree) hnames h
  obtain ⟨found, hfound, hchild⟩ := Disk.lstat_join hpath hname.slashFree hm
  obtain rfl : found = entries := by simpa [hdir, eq_comm] using hfound
  obtain ⟨place, _, hat⟩ := Disk.stat_eq_ok.mp hdir
  have hdirectory := (Node.wellFormed_dir_iff.mp (hd.of_at? hat)).1
  rw [hm, ← Option.some.inj ((Node.child?_of_mem hdirectory hentry).symm.trans (hchild hname))]

/-- A walk comes down to a node over directories that are no links. -/
theorem lstat_above (hd : d.root.WellFormed) (hn : d.lstat path = .ok n) {leaf : Node}
    (hholds : n.Holds names leaf) (h : d.pathExists (spell path names) = true) :
    ∀ q ∈ above path names, ∃ entries, d.lstat q = .ok (.dir entries) := by
  induction names generalizing path n with
  | nil => simp [above]
  | cons name names ih =>
    obtain ⟨place, hplace, hat⟩ := Disk.lstat_eq_ok.mp hn
    have hnamed := hholds.named (hd.of_at? hat)
    obtain ⟨hname, hnames⟩ := List.forall_mem_cons.mp hnamed
    obtain ⟨entries, child, rfl, hentry, hchild⟩ := Node.holds_cons_iff.mp hholds
    have hdir := Disk.stat_of_lstat hn (by simp)
    have hnext := lstat_entry hd hdir (Disk.path_ne_empty hn) hentry hname hnames h
    intro q hq
    rcases List.mem_cons.mp hq with rfl | hq
    · exact ⟨entries, hn⟩
    · exact ih hnext hchild h q hq

/-- Over directories that are no links a path leads into the tree. -/
theorem holds_of_above (hn : d.lstat path = .ok n) (hnames : ∀ name ∈ names, Path.IsName name)
    (h : d.pathExists (spell path names) = true)
    (habove : ∀ q ∈ above path names, ∃ entries, d.lstat q = .ok (.dir entries)) :
    ∃ leaf, n.Holds names leaf ∧ d.lstat (spell path names) = .ok leaf := by
  induction names generalizing path n with
  | nil => exact ⟨n, .here n, hn⟩
  | cons name names ih =>
    obtain ⟨hname, hnames⟩ := List.forall_mem_cons.mp hnames
    obtain ⟨⟨entries, hdir⟩, hrest⟩ := List.forall_mem_cons.mp habove
    obtain rfl : n = .dir entries := by simpa [hdir, eq_comm] using hn
    have hpath := Disk.path_ne_empty hn
    obtain ⟨m, hm⟩ := lstat_of_spell (Path.join_ne_empty hpath hname.slashFree) hnames h
    obtain ⟨found, hfound, hchild⟩ := Disk.lstat_join hpath hname.slashFree hm
    obtain rfl : found = entries := by
      simpa [Disk.stat_of_lstat hdir, eq_comm] using hfound
    obtain ⟨leaf, hleaf, hlast⟩ := ih hm hnames h hrest
    exact ⟨leaf, .inside (Node.mem_of_child? (hchild hname)) hleaf, hlast⟩

/-- What a walk over a node finds, told from the paths alone. -/
theorem mem_walk_iff (hd : d.root.WellFormed) (hn : d.lstat path = .ok n) :
    p ∈ (walk d ignored path n).files ↔
      ∃ names, (∀ name ∈ names, Path.IsName name) ∧ p = spell path names ∧ d.isFile p = true ∧
        (∀ q ∈ trail path names, ignored q = false) ∧
        ∀ q ∈ above path names, ∃ entries, d.lstat q = .ok (.dir entries) := by
  rw [mem_walk]
  constructor
  · rintro ⟨names, leaf, hholds, _, rfl, hfile, hkept, _⟩
    obtain ⟨place, _, hat⟩ := Disk.lstat_eq_ok.mp hn
    exact ⟨names, hholds.named (hd.of_at? hat), rfl, hfile, hkept,
      lstat_above hd hn hholds (Disk.pathExists_of_isFile hfile)⟩
  · rintro ⟨names, hnames, rfl, hfile, hkept, habove⟩
    obtain ⟨leaf, hholds, hleaf⟩ := holds_of_above hn hnames (Disk.pathExists_of_isFile hfile) habove
    refine ⟨names, leaf, hholds, ?_, rfl, hfile, hkept, ?_⟩
    · rintro entries rfl
      obtain ⟨text, htext⟩ := Disk.isFile_iff.mp hfile
      simp [Disk.stat_of_lstat hleaf] at htext
    · intro q hq
      obtain ⟨entries, hdir⟩ := habove q hq
      exact ⟨_, Disk.stat_of_lstat hdir (by simp)⟩

end

/-- A walk from a root comes upon a file over some names. -/
structure Meets (d : Disk) (ignored : String → Bool) (root : String) (names : List String) :
    Prop where
  there : d.pathExists root = true
  named : ∀ name ∈ names, Path.IsName name
  file : d.isFile (spell root names) = true
  /-- Whether a link that the walk starts from is ignored does not matter for a directory. -/
  entered : ignored root = false ∨
    d.isDir root = true ∧ ∃ target, d.lstat root = .ok (.link target)
  kept : ∀ q ∈ (trail root names).tail, ignored q = false
  /-- Links below the root are not followed. -/
  direct : ∀ q ∈ (above root names).tail, ∃ entries, d.lstat q = .ok (.dir entries)

section

variable {d : Disk} {ignored : String → Bool} {root p : String} {names : List String}

theorem trail_head (path : String) (names : List String) :
    trail path names = path :: (trail path names).tail := by
  cases names <;> rfl

/-- Over some names a walk comes through its root, which leads to a directory. -/
theorem Meets.root_dir {name : String} (h : Meets d ignored root (name :: names)) :
    ∃ entries child, d.stat root = .ok (.dir entries) ∧ (name, child) ∈ entries ∧
      d.lstat (Path.join root name) = .ok child := by
  obtain ⟨n, hn⟩ := Disk.exists_lstat_of_pathExists h.there
  have hroot := Disk.path_ne_empty hn
  obtain ⟨hname, hnames⟩ := List.forall_mem_cons.mp h.named
  obtain ⟨child, hchild⟩ := lstat_of_spell (Path.join_ne_empty hroot hname.slashFree) hnames
    (Disk.pathExists_of_isFile h.file)
  obtain ⟨entries, hdir, hentry⟩ := Disk.lstat_join hroot hname.slashFree hchild
  exact ⟨entries, child, hdir, Node.mem_of_child? (hentry hname), hchild⟩

/-- The walk from a root that is no link. -/
theorem mem_walk_root (hd : d.root.WellFormed) {n : Node} (hn : d.lstat root = .ok n)
    (hnot : ∀ target, n ≠ .link target) :
    p ∈ (walk d ignored root n).files ↔
      ∃ names, Meets d ignored root names ∧ p = spell root names := by
  have hstat := Disk.stat_of_lstat hn hnot
  rw [mem_walk_iff hd hn]
  constructor
  · rintro ⟨names, hnames, rfl, hfile, hkept, habove⟩
    rw [trail_head, List.forall_mem_cons] at hkept
    exact ⟨names, ⟨Disk.pathExists_iff.mpr ⟨n, hstat⟩, hnames, hfile, Or.inl hkept.1, hkept.2,
      fun q hq => habove q (List.mem_of_mem_tail hq)⟩, rfl⟩
  · rintro ⟨names, hmet, rfl⟩
    refine ⟨names, hmet.named, rfl, hmet.file, ?_, ?_⟩
    · rw [trail_head, List.forall_mem_cons]
      refine ⟨hmet.entered.resolve_right ?_, hmet.kept⟩
      rintro ⟨_, target, hlink⟩
      exact hnot target (Except.ok.inj (hn.symm.trans hlink))
    · cases names with
      | nil => simp [above]
      | cons name names =>
        obtain ⟨entries, _, hdir, _⟩ := hmet.root_dir
        rw [above, List.forall_mem_cons]
        exact ⟨⟨entries, by rw [hn, ← hstat, hdir]⟩, hmet.direct⟩

/-- The walk from a root that is a link to a directory. -/
theorem mem_walkEntries_root (hd : d.root.WellFormed) {entries : List (String × Node)}
    {target : String} (hlink : d.lstat root = .ok (.link target))
    (hdir : d.stat root = .ok (.dir entries)) :
    p ∈ (Walked.inOrder (walkEntries d ignored root entries)).files ↔
      ∃ names, Meets d ignored root names ∧ p = spell root names := by
  have hroot := Disk.path_ne_empty hlink
  obtain ⟨place, _, hat⟩ := Disk.stat_eq_ok.mp hdir
  obtain ⟨hdirectory, hchildren⟩ := Node.wellFormed_dir_iff.mp (hd.of_at? hat)
  rw [mem_walkEntries]
  constructor
  · rintro ⟨name, child, hentry, hp⟩
    obtain ⟨names, leaf, hholds, _, rfl, hfile, -⟩ := (mem_walk d ignored _ p child).mp hp
    have hname := hdirectory.named _ hentry
    have hchild := lstat_entry hd hdir hroot hentry hname (hholds.named (hchildren _ hentry))
      (Disk.pathExists_of_isFile hfile)
    obtain ⟨names, hnames, hp, hfile, hkept, habove⟩ := (mem_walk_iff hd hchild).mp hp
    refine ⟨name :: names, ⟨Disk.pathExists_iff.mpr ⟨_, hdir⟩,
      List.forall_mem_cons.mpr ⟨hname, hnames⟩, by simpa [hp] using hfile,
      Or.inr ⟨Disk.isDir_iff.mpr ⟨_, hdir⟩, target, hlink⟩, hkept, habove⟩, hp⟩
  · rintro ⟨names, hmet, rfl⟩
    cases names with
    | nil =>
      obtain ⟨text, htext⟩ := Disk.isFile_iff.mp hmet.file
      simp [hdir] at htext
    | cons name names =>
      obtain ⟨found, child, hfound, hentry, hchild⟩ := hmet.root_dir
      obtain rfl : found = entries := by simpa [hdir, eq_comm] using hfound
      refine ⟨name, child, hentry, (mem_walk_iff hd hchild).mpr
        ⟨names, (List.forall_mem_cons.mp hmet.named).2, rfl, hmet.file, hmet.kept, hmet.direct⟩⟩

/-- The walk from a root that is a link to something else. -/
theorem mem_walk_link {n : Node} {target : String} (hlink : d.lstat root = .ok (.link target))
    (hn : d.stat root = .ok n) (hnot : ∀ entries, n ≠ .dir entries) :
    p ∈ (walk d ignored root (.link target)).files ↔
      ∃ names, Meets d ignored root names ∧ p = spell root names := by
  have hnodir : d.isDir root ≠ true := by
    rw [Ne, Disk.isDir_iff]
    rintro ⟨entries, hdir⟩
    exact hnot entries (Except.ok.inj (hn.symm.trans hdir))
  rw [mem_walk_leaf (by simp)]
  constructor
  · rintro ⟨rfl, hfile, hkept⟩
    exact ⟨[], ⟨Disk.pathExists_iff.mpr ⟨n, hn⟩, by simp, hfile, Or.inl hkept, by simp,
      by simp [above]⟩, rfl⟩
  · rintro ⟨names, hmet, rfl⟩
    cases names with
    | nil => exact ⟨rfl, hmet.file, hmet.entered.resolve_right fun h => hnodir h.1⟩
    | cons name names =>
      obtain ⟨entries, _, hdir, _⟩ := hmet.root_dir
      exact absurd (Disk.isDir_iff.mpr ⟨entries, hdir⟩) hnodir

theorem mem_walkRoot (hd : d.root.WellFormed) :
    p ∈ (walkRoot d ignored root).files ↔
      ∃ names, Meets d ignored root names ∧ p = spell root names := by
  unfold walkRoot
  split
  · rename_i e herror
    simp only [List.not_mem_nil, false_iff]
    rintro ⟨names, hmet, -⟩
    obtain ⟨n, hn⟩ := Disk.exists_lstat_of_pathExists hmet.there
    simp [hn] at herror
  · rename_i target hlink
    split
    · rename_i e herror
      simp only [List.not_mem_nil, false_iff]
      rintro ⟨names, hmet, -⟩
      obtain ⟨n, hn⟩ := Disk.pathExists_iff.mp hmet.there
      simp [hn] at herror
    · rename_i entries hdir
      exact mem_walkEntries_root hd hlink hdir
    · rename_i n hnot hn
      exact mem_walk_link hlink hn hnot
  · rename_i n hnot hn
    exact mem_walk_root hd hn hnot

end

end Scan

end FeatureLint
