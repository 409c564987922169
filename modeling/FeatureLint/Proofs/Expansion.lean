import FeatureLint.Glob.Expand
import FeatureLint.Proofs.Growth

namespace FeatureLint.Glob

/-- A component without wildcards is a name, not a path. -/
def Plain (g : Glob) : Prop := ∀ name, g.literal? = some name → '/' ∉ name.toList

theorem classAt_rest {cs rest : List Char} {t : Token} (h : classAt cs = some (t, rest)) :
    rest ⊆ cs ∧ ∀ c, t ≠ .char c := by
  have htail : ∀ {cs rest : List Char} {c : Char},
      cs.dropWhile (· != ']') = c :: rest → rest ⊆ cs := by
    intro cs rest c hdrop x hx
    exact (List.dropWhile_suffix _).subset (hdrop ▸ List.mem_cons_of_mem c hx)
  unfold classAt at h
  split at h
  · split at h
    · rename_i hdrop
      cases h
      refine ⟨fun x hx => ?_, by simp⟩
      have := htail hdrop hx
      simp [this]
    · cases h
  · cases h
  · split at h
    · rename_i hdrop
      cases h
      refine ⟨fun x hx => ?_, by simp⟩
      have := htail hdrop hx
      simp [this]
    · cases h
  · cases h

theorem directoriesAt_rest {position : Nat} {previous : Option Char} {rest left : List Char}
    (h : directoriesAt position previous rest = .ok left) : left ⊆ rest := by
  unfold directoriesAt at h
  split at h
  · split at h
    · cases h
      exact fun x hx => hx
    · cases h
      exact List.subset_cons_self _ _
    · cases h
  · cases h

theorem char_mem_addDirectories {done : List Token} {c : Char}
    (h : .char c ∈ addDirectories done) : .char c ∈ done := by
  unfold addDirectories at h
  split at h <;> simpa using h

/-- Characters that stand for themselves are characters of the pattern. -/
theorem parseLoop_chars {n position : Nat} {previous : Option Char} {done tokens : List Token}
    {cs : List Char} (h : parseLoop n position previous done cs = .ok tokens) {c : Char}
    (hc : .char c ∈ tokens) : .char c ∈ done ∨ c ∈ cs := by
  induction n generalizing position previous done cs with
  | zero =>
    cases h
    exact Or.inl (List.mem_reverse.mp hc)
  | succ n ih =>
    cases cs with
    | nil =>
      cases h
      exact Or.inl (List.mem_reverse.mp hc)
    | cons first cs =>
      rw [parseLoop] at h
      split at h
      · rcases ih h with hdone | hcs
        · exact Or.inl (by simpa using hdone)
        · exact Or.inr (List.mem_cons_of_mem first hcs)
      · split at h
        · split at h
          · rcases ih h with hdone | hcs
            · exact Or.inl (by simpa using hdone)
            · exact Or.inr ((List.dropWhile_suffix _).subset hcs)
          · cases hleft : directoriesAt position previous ((first :: cs).dropWhile (· == '*')) with
            | error e => simp [hleft, bind, Except.bind] at h
            | ok left =>
              simp only [hleft, bind, Except.bind] at h
              rcases ih h with hdone | hcs
              · exact Or.inl (char_mem_addDirectories hdone)
              · exact Or.inr ((List.dropWhile_suffix _).subset (directoriesAt_rest hleft hcs))
          · cases h
        · split at h
          · split at h
            · rename_i t rest hclass
              obtain ⟨hsub, hchar⟩ := classAt_rest hclass
              rcases ih h with hdone | hcs
              · rcases List.mem_cons.mp hdone with heq | hdone
                · exact absurd heq.symm (hchar c)
                · exact Or.inl hdone
              · exact Or.inr (List.mem_cons_of_mem first (hsub hcs))
            · cases h
          · rcases ih h with hdone | hcs
            · rcases List.mem_cons.mp hdone with heq | hdone
              · cases heq
                exact Or.inr (List.mem_cons_self ..)
              · exact Or.inl hdone
            · exact Or.inr (List.mem_cons_of_mem first hcs)

theorem tokens_of_mapM {tokens : List Token} {cs : List Char}
    (h : tokens.mapM Token.char? = some cs) : tokens = cs.map .char := by
  induction tokens generalizing cs with
  | nil =>
    obtain rfl : cs = [] := by simpa using h.symm
    rfl
  | cons t tokens ih =>
    simp only [List.mapM_cons, Option.bind_eq_bind, Option.bind_eq_some_iff, Option.pure_def,
      Option.some.injEq] at h
    obtain ⟨c, hc, rest, hrest, rfl⟩ := h
    have ht : t = .char c := by
      cases t <;> simp_all [Token.char?]
    rw [ht, ih hrest, List.map_cons]

theorem plain_of_parse {segment : String} {g : Glob} (h : parse segment = .ok g)
    (hs : '/' ∉ segment.toList) : Plain g := by
  intro name hname hslash
  obtain ⟨cs, hcs, rfl⟩ := Option.map_eq_some_iff.mp hname
  have hmem : .char '/' ∈ g.tokens := by
    rw [tokens_of_mapM hcs]
    exact List.mem_map_of_mem (by simpa using hslash)
  simp only [parse] at h
  cases hloop : parseLoop (segment.toList.length + 1) 0 none [] segment.toList with
  | error e => simp [hloop, bind, Except.bind] at h
  | ok tokens =>
    simp only [hloop, bind, Except.bind, pure, Except.pure] at h
    cases h
    rcases parseLoop_chars hloop hmem with hnone | hin
    · cases hnone
    · exact hs hin

theorem parse_of_mapM {segments : List String} {globs : List Glob}
    (h : segments.mapM parse = .ok globs) : ∀ g ∈ globs, ∃ s ∈ segments, parse s = .ok g := by
  induction segments generalizing globs with
  | nil =>
    cases h
    simp
  | cons s segments ih =>
    rw [List.mapM_cons] at h
    cases hs : parse s with
    | error e => simp [hs, bind, Except.bind] at h
    | ok g =>
      cases hrest : segments.mapM parse with
      | error e => simp [hs, hrest, bind, Except.bind] at h
      | ok rest =>
        simp only [hs, hrest, bind, Except.bind, pure, Except.pure] at h
        cases h
        intro g' hg'
        rcases List.mem_cons.mp hg' with rfl | hg'
        · exact ⟨s, by simp, hs⟩
        · obtain ⟨t, ht, hparse⟩ := ih hrest g' hg'
          exact ⟨t, List.mem_cons_of_mem s ht, hparse⟩

theorem plain_of_ofPattern {pattern : String} {search : Search}
    (h : Search.ofPattern pattern = .ok search) : ∀ g ∈ search.components, Plain g := by
  simp only [Search.ofPattern] at h
  cases hparse : parse pattern with
  | error e => simp [hparse, bind, Except.bind] at h
  | ok _ =>
    cases hmap : (patternSegments (searchStart pattern).2).mapM parse with
    | error e => simp [hparse, hmap, bind, Except.bind] at h
    | ok components =>
      simp only [hparse, hmap, bind, Except.bind, pure, Except.pure] at h
      cases h
      intro g hg
      obtain ⟨s, hs, hg⟩ := parse_of_mapM hmap g hg
      refine plain_of_parse hg ?_
      have hsegment : s ∈ Path.segments (searchStart pattern).2 := by
        simp only [patternSegments] at hs
        split at hs
        · exact (List.dropLast_sublist _).subset hs
        · exact hs
      rw [Path.segments_eq] at hsegment
      exact Path.slashFree_of_mem_segmentsOf hsegment

theorem lt_depthOf {k : Nat} {entries : List (String × Node)} :
    k < depth.depthOf entries ↔ ∃ e ∈ entries, k < depth e.2 := by
  induction entries with
  | nil => simp [depth.depthOf]
  | cons e entries ih =>
    have hmax : k < max (depth e.2) (depth.depthOf entries) ↔
        k < depth e.2 ∨ k < depth.depthOf entries := by omega
    rw [depth.depthOf, hmax, ih, List.exists_mem_cons_iff]

/-- A tree has a directory on every level that counts. -/
theorem lt_depth {k : Nat} {n : Node} :
    k < depth n ↔ ∃ names entries, names.length = k ∧ n.Holds names (.dir entries) := by
  cases n with
  | file content =>
    simp only [depth, Nat.not_lt_zero, false_iff]
    rintro ⟨names, entries, _, h⟩
    cases h
  | link target =>
    simp only [depth, Nat.not_lt_zero, false_iff]
    rintro ⟨names, entries, _, h⟩
    cases h
  | dir entries =>
    cases k with
    | zero =>
      simp only [depth, Nat.zero_lt_succ, true_iff]
      exact ⟨[], entries, rfl, .here _⟩
    | succ k =>
      rw [depth, Nat.succ_lt_succ_iff, lt_depthOf]
      constructor
      · rintro ⟨⟨name, child⟩, he, hk⟩
        obtain ⟨names, found, hlen, h⟩ := lt_depth.mp hk
        exact ⟨name :: names, found, by simp [hlen], .inside he h⟩
      · rintro ⟨names, found, hlen, h⟩
        cases h with
        | here => simp at hlen
        | inside he h =>
          exact ⟨_, he, lt_depth.mpr ⟨_, found, by simpa using hlen, h⟩⟩
termination_by k

/-- No directory is added, so a search goes no deeper than before. -/
theorem depth_gains {sort : Option String → Prop} {d d' : Disk} (hd : d.root.WellFormed)
    (h : Disk.Gains sort d d') : depth d'.root = depth d.root := by
  have hiff : ∀ k, k < depth d'.root ↔ k < depth d.root := by
    intro k
    rw [lt_depth, lt_depth]
    constructor
    · rintro ⟨names, entries, hlen, hholds⟩
      rw [Node.holds_iff_at? h.wellFormed] at hholds
      obtain ⟨before, hbefore⟩ := h.dir_before hholds
      exact ⟨names, before, hlen, (Node.holds_iff_at? hd).mpr hbefore⟩
    · rintro ⟨names, entries, hlen, hholds⟩
      rw [Node.holds_iff_at? hd] at hholds
      obtain ⟨more, hmore⟩ := h.dir_kept hholds
      exact ⟨names, more, hlen, (Node.holds_iff_at? h.wellFormed).mpr hmore⟩
  have hle := (hiff (depth d.root)).mp
  have hge := (hiff (depth d'.root)).mpr
  omega

/-- A path that led nowhere on one disk, leads to a file on another if it leads anywhere there, and
is more than a start at `.`. -/
structure Fresh (d d' : Disk) (path : String) : Prop where
  nonempty : path ≠ ""
  apart : Path.components path ≠ [.here]
  before : d.pathExists path = false
  leads : ∀ n, d'.stat path = .ok n → ∃ content, n = .file content

theorem isThere_iff {d : Disk} {path : String} :
    isThere d path = true ↔ ∃ n, d.lstat path = .ok n := by
  unfold isThere
  rw [Bool.or_eq_true, Disk.pathExists_iff]
  constructor
  · rintro (⟨n, hn⟩ | h)
    · exact Disk.exists_lstat hn
    · split at h
      · rename_i n hn
        exact ⟨n, hn⟩
      · cases h
  · rintro ⟨n, hn⟩
    simp [hn]

theorem mem_namesIn {d : Disk} {path name : String} :
    name ∈ d.namesIn path ↔
      ∃ entries child, d.stat path = .ok (.dir entries) ∧ (name, child) ∈ entries := by
  unfold Disk.namesIn
  split
  · rename_i entries hdir
    simp [hdir, List.mem_mergeSort]
  · rename_i hnot
    simp only [List.not_mem_nil, false_iff]
    rintro ⟨entries, _, hdir, _⟩
    exact hnot entries hdir

/-- The path of an entry ends with its name. -/
theorem mem_segments_entryPath {dir name : String} (hdir : dir ≠ "") (hname : '/' ∉ name.toList) :
    name ∈ Path.segments (entryPath dir name) := by
  unfold entryPath
  split
  · rw [Path.segments_eq, Path.segmentsOf_slashFree hname]
    simp
  · rcases Path.segments_join hdir hname with h | ⟨front, _, h⟩ <;> simp [h]

/-- The path of an entry leads to that entry if it leads anywhere. -/
theorem lstat_entryPath {d : Disk} {dir name : String} {entries : List (String × Node)} {n : Node}
    (hdir : d.stat dir = .ok (.dir entries)) (hname : Path.IsName name)
    (h : d.lstat (entryPath dir name) = .ok n) : Node.child? entries name = some n := by
  unfold entryPath at h
  split at h
  · rename_i hhere
    exact Disk.lstat_name hhere hdir hname h
  · obtain ⟨_, hthere⟩ := Disk.exists_lstat hdir
    obtain ⟨found, hfound, hchild⟩ :=
      Disk.lstat_join (Disk.path_ne_empty hthere) hname.slashFree h
    rw [hdir] at hfound
    cases hfound
    exact hchild hname

namespace Fresh

variable {sort : Option String → Prop} {d d' : Disk} {path dir name : String}

theorem not_isDir (h : Fresh d d' path) : d'.isDir path = false := by
  rw [← Bool.not_eq_true, Disk.isDir_iff]
  rintro ⟨entries, hdir⟩
  obtain ⟨content, hfile⟩ := h.leads _ hdir
  cases hfile

/-- Nothing is below a file. -/
theorem nothing_below (h : Fresh d d' path) (hname : '/' ∉ name.toList) :
    isThere d' (entryPath path name) = false := by
  rw [← Bool.not_eq_true, isThere_iff, entryPath, if_neg h.apart]
  rintro ⟨n, hn⟩
  obtain ⟨entries, hdir, _⟩ := Disk.lstat_join h.nonempty hname hn
  obtain ⟨content, hfile⟩ := h.leads _ hdir
  cases hfile

theorem of_file {content : Option String} (hbefore : d.pathExists path = false)
    (hfile : d'.stat path = .ok (.file content)) : Fresh d d' path := by
  obtain ⟨_, hthere⟩ := Disk.exists_lstat hfile
  refine ⟨Disk.path_ne_empty hthere, ?_, hbefore, ?_⟩
  · intro hhere
    obtain ⟨entries, hdir, _⟩ := Disk.at?_current hhere hfile
    cases hdir
  · intro m hm
    exact ⟨content, Except.ok.inj (hm.symm.trans hfile)⟩

theorem of_pathExists (hgains : Disk.Gains sort d d') (hnew : d'.pathExists path = true)
    (hold : ¬ d.pathExists path = true) : Fresh d d' path := by
  obtain ⟨n, hn⟩ := Disk.pathExists_iff.mp hnew
  rcases hgains.found_cases hn with ⟨m, hm, _⟩ | ⟨_, content, rfl, _⟩
  · exact absurd (Disk.pathExists_iff.mpr ⟨m, hm⟩) hold
  · exact of_file (Bool.not_eq_true _ ▸ hold) hn

/-- What comes to be there is fresh. -/
theorem of_isThere (hgains : Disk.Gains sort d d') (hnew : isThere d' path = true)
    (hold : ¬ isThere d path = true) : Fresh d d' path := by
  have hbefore : d.pathExists path = false := by
    rw [isThere, Bool.or_eq_true, not_or, Bool.not_eq_true] at hold
    exact hold.1
  rw [isThere_iff] at hnew hold
  obtain ⟨n, hn⟩ := hnew
  rcases hgains.found_cases hn with ⟨m, hm, _⟩ | ⟨_, content, rfl, _⟩
  · exact absurd ⟨m, hm⟩ hold
  · exact of_file hbefore (Disk.stat_of_lstat hn (by simp))

/-- So is the path of an entry that comes into a directory. -/
theorem of_entry (hgains : Disk.Gains sort d d') (hnew : name ∈ d'.namesIn dir)
    (hold : name ∉ d.namesIn dir) : Fresh d d' (entryPath dir name) := by
  rw [mem_namesIn] at hnew hold
  obtain ⟨more, child, hdir, hentry⟩ := hnew
  rcases hgains.entry_cases hdir hentry with hbefore | ⟨content, rfl, _⟩
  · exact absurd hbefore hold
  obtain ⟨place, _, hat⟩ := Disk.stat_eq_ok.mp hdir
  have hdirectory := (Node.wellFormed_dir_iff.mp (hgains.wellFormed.of_at? hat)).1
  have hname := hdirectory.named _ hentry
  have hchild := Node.child?_of_mem hdirectory hentry
  obtain ⟨_, hthere⟩ := Disk.exists_lstat hdir
  have hsegment := mem_segments_entryPath (Disk.path_ne_empty hthere) hname.slashFree
  refine ⟨?_, Path.components_ne_here_of_busy hsegment hname.busy, ?_, ?_⟩
  · intro hempty
    have hone : Path.segments "" = [""] := rfl
    rw [hempty, hone, List.mem_singleton] at hsegment
    exact hname.busy (Or.inl hsegment)
  · obtain ⟨entries, hdirBefore⟩ := hgains.dir_iff.mp ⟨more, hdir⟩
    rw [← Bool.not_eq_true]
    intro hthere
    obtain ⟨m, hm⟩ := Disk.exists_lstat_of_pathExists hthere
    exact hold ⟨entries, m, hdirBefore,
      Node.mem_of_child? (lstat_entryPath hdirBefore hname hm)⟩
  · intro n hn
    obtain ⟨m, hm⟩ := Disk.exists_lstat hn
    have hsame := Option.some.inj (hchild.symm.trans (lstat_entryPath hdir hname hm))
    have hfile := Disk.stat_of_lstat hm (by simp [← hsame])
    rw [hn, ← hsame] at hfile
    exact ⟨content, Except.ok.inj hfile⟩

end Fresh

/-- Some paths, and the same ones among others that are fresh. -/
structure Joined (d d' : Disk) (before after : List String) : Prop where
  kept : before ⊆ after
  new : ∀ path ∈ after, path ∈ before ∨ Fresh d d' path

namespace Joined

variable {d d' : Disk}

theorem same (paths : List String) : Joined d d' paths paths :=
  ⟨List.Subset.refl paths, fun _ h => Or.inl h⟩

theorem of_fresh {after : List String} (h : ∀ path ∈ after, Fresh d d' path) :
    Joined d d' [] after :=
  ⟨List.nil_subset after, fun path hpath => Or.inr (h path hpath)⟩

theorem append {a b a' b' : List String} (h : Joined d d' a a') (g : Joined d d' b b') :
    Joined d d' (a ++ b) (a' ++ b') := by
  constructor
  · exact List.append_subset.mpr
      ⟨List.subset_append_of_subset_left _ h.kept, List.subset_append_of_subset_right _ g.kept⟩
  · intro path hpath
    rcases List.mem_append.mp hpath with ha | hb
    · exact (h.new path ha).imp (List.mem_append_left b) id
    · exact (g.new path hb).imp (List.mem_append_right a) id

/-- Paths found from names, of which some are new. -/
theorem flatMap {names more : List String} {f g : String → List String}
    (hkept : names ⊆ more) (hboth : ∀ name ∈ names, Joined d d' (f name) (g name))
    (hnew : ∀ name ∈ more, name ∉ names → ∀ path ∈ g name, Fresh d d' path) :
    Joined d d' (names.flatMap f) (more.flatMap g) := by
  constructor
  · intro path hpath
    obtain ⟨name, hname, hpath⟩ := List.mem_flatMap.mp hpath
    exact List.mem_flatMap.mpr ⟨name, hkept hname, (hboth name hname).kept hpath⟩
  · intro path hpath
    obtain ⟨name, hname, hpath⟩ := List.mem_flatMap.mp hpath
    by_cases hold : name ∈ names
    · rcases (hboth name hold).new path hpath with hin | hfresh
      · exact Or.inl (List.mem_flatMap.mpr ⟨name, hold, hin⟩)
      · exact Or.inr hfresh
    · exact Or.inr (hnew name hname hold path hpath)

end Joined

/-- The components that a search is still to match. -/
def Task.components : Task → List Glob
  | .inside components => components
  | .entry components => components

section

variable (d : Disk) (dirsOnly : Bool) (n : Nat)

/-- The search from a path that a component stands for. -/
def proceed (rest : List Glob) (path : String) : List String :=
  if rest.isEmpty then (if dirsOnly && !d.isDir path then [] else [path])
  else expandFrom d dirsOnly n (.inside rest) path

theorem expandFrom_inside (g : Glob) (rest : List Glob) (dir : String) :
    expandFrom d dirsOnly (n + 1) (.inside (g :: rest)) dir =
      match g.literal? with
      | some name =>
        if name = "." || name = ".." then
          (if d.isDir dir then proceed d dirsOnly n rest (entryPath dir name) else [])
        else if isThere d (entryPath dir name) then
          proceed d dirsOnly n rest (entryPath dir name)
        else []
      | none =>
        if d.isDir dir then
          (specialNames g).flatMap (fun name => proceed d dirsOnly n rest (Path.join dir name))
            ++ (d.namesIn dir).flatMap fun name =>
              expandFrom d dirsOnly n (.entry (g :: rest)) (entryPath dir name)
        else [] := by
  rw [expandFrom]
  rfl

theorem expandFrom_entry (g : Glob) (rest : List Glob) (path : String) :
    expandFrom d dirsOnly (n + 1) (.entry (g :: rest)) path =
      if g.isRecursive then
        let later := rest.dropWhile isRecursive
        if d.isDir path then
          (if later.isEmpty then [path] else expandFrom d dirsOnly n (.entry later) path)
            ++ expandFrom d dirsOnly n (.inside (g :: later)) path
        else if later.isEmpty then []
        else expandFrom d dirsOnly n (.entry later) path
      else if (Path.fileName? path).any g.accepts then proceed d dirsOnly n rest path
      else [] := by
  rw [expandFrom]
  rfl

end

section

variable {sort : Option String → Prop} {d d' : Disk} {dirsOnly : Bool}

theorem fresh_proceed {n : Nat} {rest : List Glob} {path : String} (hpath : Fresh d d' path)
    (hmore : ∀ found ∈ expandFrom d' dirsOnly n (.inside rest) path, Fresh d d' found) :
    ∀ found ∈ proceed d' dirsOnly n rest path, Fresh d d' found := by
  intro found hfound
  unfold proceed at hfound
  split at hfound
  · split at hfound
    · cases hfound
    · rwa [List.mem_singleton.mp hfound]
  · exact hmore found hfound

/-- A search that goes on from a fresh path finds fresh paths only. -/
theorem fresh_expandFrom (n : Nat) (task : Task) (hplain : ∀ g ∈ task.components, Plain g)
    {path : String} (hpath : Fresh d d' path) :
    ∀ found ∈ expandFrom d' dirsOnly n task path, Fresh d d' found := by
  induction n generalizing task with
  | zero => simp [expandFrom]
  | succ n ih =>
    cases task with
    | inside components =>
      cases components with
      | nil => simp [expandFrom]
      | cons g rest =>
        have hg : Plain g := hplain g (List.mem_cons_self ..)
        rw [expandFrom_inside, hpath.not_isDir]
        cases hliteral : g.literal? with
        | none => simp
        | some name => simp [hpath.nothing_below (hg name hliteral)]
    | entry components =>
      cases components with
      | nil => simp [expandFrom]
      | cons g rest =>
        have hrest : ∀ g ∈ rest, Plain g := fun g hg => hplain g (List.mem_cons_of_mem _ hg)
        rw [expandFrom_entry, hpath.not_isDir]
        split
        · dsimp only
          rw [if_neg Bool.false_ne_true]
          split
          · simp
          · exact ih (.entry _) fun g hg => hrest g ((List.dropWhile_suffix _).subset hg)
        · split
          · exact fresh_proceed hpath (ih (.inside rest) hrest)
          · simp

/-- Within so many steps a search on the disk that gained files finds what it found before, and
fresh paths. -/
def JoinedWithin (d d' : Disk) (dirsOnly : Bool) (n : Nat) : Prop :=
  ∀ task : Task, (∀ g ∈ task.components, Plain g) → ∀ path,
    Joined d d' (expandFrom d dirsOnly n task path) (expandFrom d' dirsOnly n task path)

namespace JoinedWithin

variable {n : Nat} (h : Disk.Gains sort d d') (hn : JoinedWithin d d' dirsOnly n) {g : Glob}
  {rest : List Glob}

include h hn

theorem proceed (hrest : ∀ g ∈ rest, Plain g) (path : String) :
    Joined d d' (Glob.proceed d dirsOnly n rest path) (Glob.proceed d' dirsOnly n rest path) := by
  unfold Glob.proceed
  rw [h.isDir_eq]
  split
  · exact .same _
  · exact hn (.inside rest) hrest path

/-- An entry that is called for by its name may come to be there. -/
theorem named (hrest : ∀ g ∈ rest, Plain g) (path name : String) :
    Joined d d'
      (if isThere d (entryPath path name) then
        Glob.proceed d dirsOnly n rest (entryPath path name) else [])
      (if isThere d' (entryPath path name) then
        Glob.proceed d' dirsOnly n rest (entryPath path name) else []) := by
  by_cases hold : isThere d (entryPath path name) = true
  · have hnew : isThere d' (entryPath path name) = true := by
      rw [isThere_iff] at hold ⊢
      obtain ⟨child, hchild⟩ := hold
      obtain ⟨child', hchild', _⟩ := h.found_kept hchild
      exact ⟨child', hchild'⟩
    rw [if_pos hold, if_pos hnew]
    exact hn.proceed h hrest _
  · rw [if_neg hold]
    split
    · rename_i hnew
      have hfresh : Fresh d d' (entryPath path name) := .of_isThere h hnew hold
      exact .of_fresh (fresh_proceed hfresh (fresh_expandFrom n (.inside rest) hrest hfresh))
    · exact .same []

theorem inside (hplain : ∀ g' ∈ g :: rest, Plain g') (path : String) :
    Joined d d' (expandFrom d dirsOnly (n + 1) (.inside (g :: rest)) path)
      (expandFrom d' dirsOnly (n + 1) (.inside (g :: rest)) path) := by
  have hrest : ∀ g ∈ rest, Plain g := fun g hg => hplain g (List.mem_cons_of_mem _ hg)
  rw [expandFrom_inside, expandFrom_inside, h.isDir_eq]
  cases g.literal? with
  | some name =>
    dsimp only
    split
    · split
      · exact hn.proceed h hrest _
      · exact .same []
    · exact hn.named h hrest path name
  | none =>
    dsimp only
    split
    · refine .append ?_ ?_
      · exact .flatMap (List.Subset.refl _) (fun name _ => hn.proceed h hrest _)
          (fun name hin hout => absurd hin hout)
      · refine .flatMap ?_ (fun name _ => hn (.entry (g :: rest)) hplain _) ?_
        · intro name hname
          rw [mem_namesIn] at hname ⊢
          obtain ⟨entries, child, hdir, hentry⟩ := hname
          exact h.entry_kept hdir hentry
        · intro name hnew hold
          exact fresh_expandFrom n (.entry (g :: rest)) hplain (.of_entry h hnew hold)
    · exact .same []

theorem entry (hplain : ∀ g' ∈ g :: rest, Plain g') (path : String) :
    Joined d d' (expandFrom d dirsOnly (n + 1) (.entry (g :: rest)) path)
      (expandFrom d' dirsOnly (n + 1) (.entry (g :: rest)) path) := by
  have hrest : ∀ g ∈ rest, Plain g := fun g hg => hplain g (List.mem_cons_of_mem _ hg)
  have hlater : ∀ g ∈ rest.dropWhile isRecursive, Plain g :=
    fun g hg => hrest g ((List.dropWhile_suffix _).subset hg)
  have hsame : ∀ g' ∈ g :: rest.dropWhile isRecursive, Plain g' :=
    List.forall_mem_cons.mpr ⟨hplain g (List.mem_cons_self ..), hlater⟩
  rw [expandFrom_entry, expandFrom_entry, h.isDir_eq]
  split
  · dsimp only
    split
    · refine .append ?_ (hn (.inside _) hsame path)
      split
      · exact .same _
      · exact hn (.entry _) hlater path
    · split
      · exact .same []
      · exact hn (.entry _) hlater path
  · split
    · exact hn.proceed h hrest path
    · exact .same []

end JoinedWithin

/-- From a path that is new the search goes on to more of that kind only. -/
theorem expandFrom_joined (h : Disk.Gains sort d d') (n : Nat) : JoinedWithin d d' dirsOnly n := by
  induction n with
  | zero => exact fun _ _ _ => .same []
  | succ n ih =>
    intro task hplain path
    match task with
    | .inside [] | .entry [] => exact .same []
    | .inside (g :: rest) => exact ih.inside h hplain path
    | .entry (g :: rest) => exact ih.entry h hplain path

end

/-- A pattern that is none stays none, and one that is stands for what it stood for and for fresh
paths. -/
theorem expand_joined {sort : Option String → Prop} {d d' : Disk} (hd : d.root.WellFormed)
    (h : Disk.Gains sort d d') (pattern : String) :
    (∃ e, expand d pattern = .error e ∧ expand d' pattern = .error e) ∨
      ∃ paths more, expand d pattern = .ok paths ∧ expand d' pattern = .ok more ∧
        Joined d d' paths more := by
  simp only [expand]
  cases hsearch : Search.ofPattern pattern with
  | error e => exact Or.inl ⟨e, rfl, rfl⟩
  | ok search =>
    refine Or.inr ⟨_, _, rfl, rfl, ?_⟩
    have hbound : stepBound d' search.components = stepBound d search.components := by
      rw [stepBound, stepBound, depth_gains hd h]
    rw [hbound]
    exact expandFrom_joined h _ (.inside search.components) (plain_of_ofPattern hsearch) _

end FeatureLint.Glob
