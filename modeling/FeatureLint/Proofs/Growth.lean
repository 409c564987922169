import FeatureLint.Dump.Load
import FeatureLint.Proofs.Resolution

namespace FeatureLint

/-- No dump can be read from what a file holds. -/
def Dump.Broken (content : Option String) : Prop :=
  ∀ text, content = some text → ∀ dump, Dump.ofText text ≠ .ok dump

/-- A name that ends like those of dumps. -/
def Path.DumpName (name : String) : Prop := (Path.stem? Path.dumpSuffix name).isSome = true

instance (name : String) : Decidable (Path.DumpName name) :=
  inferInstanceAs (Decidable ((Path.stem? Path.dumpSuffix name).isSome = true))

namespace Node

/-- Nodes of one kind; what a file holds and where a link leads is the same too. -/
inductive Alike : Node → Node → Prop where
  | file (content : Option String) : Alike (.file content) (.file content)
  | link (target : String) : Alike (.link target) (.link target)
  | dir (entries more : List (String × Node)) : Alike (.dir entries) (.dir more)

theorem Alike.refl (n : Node) : n.Alike n := by
  cases n with
  | file content => exact .file content
  | dir entries => exact .dir entries entries
  | link target => exact .link target

theorem Alike.trans {n m k : Node} (h : n.Alike m) (g : m.Alike k) : n.Alike k := by
  cases h with
  | file content => exact g
  | link target => exact g
  | dir entries more =>
    cases g with
    | dir _ others => exact .dir entries others

theorem child?_putEntry (name other : String) (n : Node) (entries : List (String × Node)) :
    child? (putEntry name n entries) other =
      if other = name then some n else child? entries other := by
  induction entries with
  | nil =>
    by_cases h : other = name
    · simp [putEntry, child?, h]
    · simp [putEntry, child?, h, Ne.symm h]
  | cons e entries ih =>
    rw [putEntry]
    by_cases he : e.1 = name
    · by_cases h : other = name
      · simp [child?, he, h]
      · simp [child?, he, h, Ne.symm h]
    · by_cases h : e.1 = other
      · subst h
        simp [child?, he]
      · simpa [child?, he, h] using ih

theorem names_putEntry (name : String) (n : Node) (entries : List (String × Node)) :
    (putEntry name n entries).map (·.1) =
      if name ∈ entries.map (·.1) then entries.map (·.1) else entries.map (·.1) ++ [name] := by
  induction entries with
  | nil => rfl
  | cons e entries ih =>
    rw [putEntry]
    by_cases he : e.1 = name
    · simp [he]
    · have hne : ¬ name = e.1 := fun h => he h.symm
      simp only [beq_iff_eq, he, if_false, List.map_cons, ih, List.mem_cons, hne, false_or]
      split <;> rfl

theorem mem_putEntry {name : String} {n : Node} {entries : List (String × Node)}
    {e : String × Node} (h : e ∈ putEntry name n entries) : e = (name, n) ∨ e ∈ entries := by
  induction entries with
  | nil => exact Or.inl (by simpa [putEntry] using h)
  | cons f entries ih =>
    rw [putEntry] at h
    split at h
    · rcases List.mem_cons.mp h with rfl | h
      · exact Or.inl rfl
      · exact Or.inr (List.mem_cons_of_mem f h)
    · rcases List.mem_cons.mp h with rfl | h
      · exact Or.inr (List.mem_cons_self ..)
      · exact (ih h).imp id (List.mem_cons_of_mem f)

theorem Directory.putEntry {entries : List (String × Node)} (h : Directory entries)
    {name : String} (hname : Path.IsName name) (n : Node) :
    Directory (putEntry name n entries) := by
  constructor
  · rw [names_putEntry]
    split
    · exact h.distinct
    · rename_i hnew
      exact List.Nodup.append h.distinct (List.nodup_singleton name) (by simpa using hnew)
  · intro e he
    rcases mem_putEntry he with rfl | he
    · exact hname
    · exact h.named e he

theorem wellFormed_putEntry {entries : List (String × Node)} (h : (Node.dir entries).WellFormed)
    {name : String} (hname : Path.IsName name) {n : Node} (hn : n.WellFormed) :
    (Node.dir (putEntry name n entries)).WellFormed := by
  obtain ⟨hdir, hchildren⟩ := wellFormed_dir_iff.mp h
  refine wellFormed_dir_iff.mpr ⟨hdir.putEntry hname n, ?_⟩
  intro e he
  rcases mem_putEntry he with rfl | he
  · exact hn
  · exact hchildren e he

/-- A file put into a directory of a tree leaves directories with entries of their own. -/
theorem wellFormed_editDir {root : Node} (h : root.WellFormed) {name : String}
    (hname : Path.IsName name) (content : Option String) (names : List String) :
    (root.editDir (putEntry name (.file content)) names).WellFormed := by
  induction names generalizing root with
  | nil =>
    cases root with
    | dir entries => exact wellFormed_putEntry h hname (wellFormed_file content)
    | file _ => exact h
    | link _ => exact h
  | cons first names ih =>
    cases root with
    | file _ => exact h
    | link _ => exact h
    | dir entries =>
      rw [editDir]
      cases hchild : child? entries first with
      | none => exact h
      | some child =>
        obtain ⟨hdir, hchildren⟩ := wellFormed_dir_iff.mp h
        have hentry := mem_of_child? hchild
        exact wellFormed_putEntry h (hdir.named _ hentry) (ih (hchildren _ hentry))

section

variable {root : Node} {names : List String} {entries : List (String × Node)} {name : String}
  {content : Option String}

/-- A file put into a directory changes nothing but what that directory holds. -/
theorem at?_editDir_kept (hdir : root.at? names = some (.dir entries))
    (hvacant : child? entries name = none) {place : List String} {n : Node}
    (h : root.at? place = some n) :
    ∃ n', (root.editDir (putEntry name (.file content)) names).at? place = some n' ∧
      n.Alike n' := by
  induction names generalizing root place with
  | nil =>
    obtain rfl : root = .dir entries := by simpa [at?] using hdir
    cases place with
    | nil =>
      obtain rfl : n = .dir entries := by simpa [at?, eq_comm] using h
      exact ⟨_, rfl, .dir _ _⟩
    | cons first place =>
      have hother : first ≠ name := by
        rintro rfl
        simp [at?, hvacant] at h
      refine ⟨n, ?_, .refl n⟩
      simpa only [editDir, at?, child?_putEntry, if_neg hother] using h
  | cons first names ih =>
    cases root with
    | file _ => simp [at?] at hdir
    | link _ => simp [at?] at hdir
    | dir others =>
      simp only [at?, Option.bind_eq_some_iff] at hdir
      obtain ⟨child, hchild, hdir⟩ := hdir
      simp only [editDir, hchild]
      cases place with
      | nil =>
        obtain rfl : n = .dir others := by simpa [at?, eq_comm] using h
        exact ⟨_, rfl, .dir _ _⟩
      | cons next place =>
        simp only [at?, Option.bind_eq_some_iff] at h
        obtain ⟨step, hstep, h⟩ := h
        simp only [at?, child?_putEntry]
        by_cases hnext : next = first
        · subst hnext
          obtain rfl : step = child := by simpa [hchild, eq_comm] using hstep
          rw [if_pos rfl, Option.bind_some]
          exact ih hdir h
        · rw [if_neg hnext, hstep, Option.bind_some]
          exact ⟨n, h, .refl n⟩

theorem at?_editDir_self (hdir : root.at? names = some (.dir entries)) {n : Node} :
    (root.editDir (putEntry name n) names).at? names = some (.dir (putEntry name n entries)) := by
  induction names generalizing root with
  | nil =>
    obtain rfl : root = .dir entries := by simpa [at?] using hdir
    rfl
  | cons first names ih =>
    cases root with
    | file _ => simp [at?] at hdir
    | link _ => simp [at?] at hdir
    | dir others =>
      simp only [at?, Option.bind_eq_some_iff] at hdir
      obtain ⟨child, hchild, hdir⟩ := hdir
      simp only [editDir, hchild, at?, child?_putEntry, if_pos, Option.bind_some]
      exact ih hdir

/-- The only new node is the file. -/
theorem at?_editDir_added (hdir : root.at? names = some (.dir entries)) {place : List String}
    {n : Node} (h : (root.editDir (putEntry name (.file content)) names).at? place = some n)
    (hnew : root.at? place = none) : place = names ++ [name] ∧ n = .file content := by
  induction names generalizing root place with
  | nil =>
    obtain rfl : root = .dir entries := by simpa [at?] using hdir
    cases place with
    | nil => simp [at?] at hnew
    | cons first place =>
      simp only [editDir, at?, child?_putEntry] at h hnew
      by_cases hfirst : first = name
      · rw [if_pos hfirst, Option.bind_some] at h
        cases place with
        | nil => exact ⟨by rw [hfirst]; rfl, by simpa [at?, eq_comm] using h⟩
        | cons next place => simp [at?] at h
      · rw [if_neg hfirst, hnew] at h
        cases h
  | cons first names ih =>
    cases root with
    | file _ => simp [at?] at hdir
    | link _ => simp [at?] at hdir
    | dir others =>
      simp only [at?, Option.bind_eq_some_iff] at hdir
      obtain ⟨child, hchild, hdir⟩ := hdir
      simp only [editDir, hchild] at h
      cases place with
      | nil => simp [at?] at hnew
      | cons next place =>
        simp only [at?, child?_putEntry] at h hnew
        by_cases hnext : next = first
        · subst hnext
          rw [if_pos rfl, Option.bind_some] at h
          rw [hchild, Option.bind_some] at hnew
          obtain ⟨rfl, hn⟩ := ih hdir h hnew
          exact ⟨rfl, hn⟩
        · rw [if_neg hnext, hnew] at h
          cases h

end

end Node

namespace Disk

/-- Broken dumps were put into directories, one after the other. -/
inductive Littered (d : Disk) : Disk → Prop where
  | clean : Littered d d
  | file {d' : Disk} {names : List String} {entries : List (String × Node)} {name : String}
      {content : Option String} (before : Littered d d')
      (dir : d'.root.at? names = some (.dir entries)) (vacant : Node.child? entries name = none)
      (named : Path.IsName name) (dump : Path.DumpName name) (broken : Dump.Broken content) :
      Littered d (d'.put names name (.file content))

/-- One disk holds everything that another holds and, in the same directories, further files with
contents of some sort. -/
structure Gains (sort : Option String → Prop) (d d' : Disk) : Prop where
  current : d'.current = d.current
  wellFormed : d'.root.WellFormed
  kept : ∀ names n, d.root.at? names = some n →
    ∃ n', d'.root.at? names = some n' ∧ n.Alike n'
  added : ∀ names n', d'.root.at? names = some n' → d.root.at? names = none →
    ∃ content, n' = .file content ∧ sort content

theorem Gains.refl {sort : Option String → Prop} {d : Disk} (h : d.root.WellFormed) :
    Gains sort d d where
  current := rfl
  wellFormed := h
  kept _ n hn := ⟨n, hn, .refl n⟩
  added _ _ hn hnone := by simp [hn] at hnone

theorem gains_put {d : Disk} (hd : d.root.WellFormed) {names : List String}
    {entries : List (String × Node)} (hdir : d.root.at? names = some (.dir entries))
    {name : String} (hvacant : Node.child? entries name = none) (hname : Path.IsName name)
    {sort : Option String → Prop} {content : Option String} (hsort : sort content) :
    Gains sort d (d.put names name (.file content)) where
  current := rfl
  wellFormed := Node.wellFormed_editDir hd hname content names
  kept _ _ hn := Node.at?_editDir_kept hdir hvacant hn
  added _ _ hn hnone := by
    obtain ⟨_, rfl⟩ := Node.at?_editDir_added hdir hn hnone
    exact ⟨content, rfl, hsort⟩

/-- The files gained are broken dumps. -/
structure Grows (d d' : Disk) : Prop extends Gains Dump.Broken d d' where
  named : ∀ names n', d'.root.at? names = some n' → d.root.at? names = none →
    ∃ front name, names = front ++ [name] ∧ Path.DumpName name

theorem Grows.refl {d : Disk} (h : d.root.WellFormed) : Grows d d where
  toGains := .refl h
  named _ _ hn hnone := by simp [hn] at hnone

theorem Grows.trans {d d' d'' : Disk} (h : Grows d d') (g : Grows d' d'') : Grows d d'' where
  current := g.current.trans h.current
  wellFormed := g.wellFormed
  kept names n hn := by
    obtain ⟨n', hn', halike⟩ := h.kept names n hn
    obtain ⟨n'', hn'', halike'⟩ := g.kept names n' hn'
    exact ⟨n'', hn'', halike.trans halike'⟩
  added names n'' hn'' hnone := by
    cases hmid : d'.root.at? names with
    | none => exact g.added names n'' hn'' hmid
    | some n' =>
      obtain ⟨content, rfl, hbroken⟩ := h.added names n' hmid hnone
      obtain ⟨_, hsame, halike⟩ := g.kept names _ hmid
      cases halike
      obtain rfl := Option.some.inj (hsame.symm.trans hn'')
      exact ⟨content, rfl, hbroken⟩
  named names n'' hn'' hnone := by
    cases hmid : d'.root.at? names with
    | none => exact g.named names n'' hn'' hmid
    | some n' => exact h.named names n' hmid hnone

theorem grows_put {d : Disk} (hd : d.root.WellFormed) {names : List String}
    {entries : List (String × Node)} (hdir : d.root.at? names = some (.dir entries))
    {name : String} (hvacant : Node.child? entries name = none) (hname : Path.IsName name)
    (hdump : Path.DumpName name) {content : Option String} (hbroken : Dump.Broken content) :
    Grows d (d.put names name (.file content)) where
  toGains := gains_put hd hdir hvacant hname hbroken
  named _ _ hn hnone := by
    obtain ⟨rfl, _⟩ := Node.at?_editDir_added hdir hn hnone
    exact ⟨names, name, rfl, hdump⟩

theorem Littered.grows {d d' : Disk} (h : Littered d d') (hd : d.root.WellFormed) :
    Grows d d' := by
  induction h with
  | clean => exact .refl hd
  | file _ hdir hvacant hname hdump hbroken ih =>
    exact ih.trans (grows_put ih.wellFormed hdir hvacant hname hdump hbroken)

namespace Gains

variable {sort : Option String → Prop} {d d' : Disk} (h : Gains sort d d')

include h

theorem dir_kept {names : List String} {entries : List (String × Node)}
    (hdir : d.root.at? names = some (.dir entries)) :
    ∃ more, d'.root.at? names = some (.dir more) := by
  obtain ⟨n', hn', halike⟩ := h.kept names _ hdir
  cases halike with
  | dir _ more => exact ⟨more, hn'⟩

/-- No directory is new. -/
theorem dir_before {names : List String} {more : List (String × Node)}
    (hdir : d'.root.at? names = some (.dir more)) :
    ∃ entries, d.root.at? names = some (.dir entries) := by
  cases hat : d.root.at? names with
  | none =>
    obtain ⟨content, hfile, _⟩ := h.added names _ hdir hat
    cases hfile
  | some n =>
    obtain ⟨n', hn', halike⟩ := h.kept names n hat
    rw [hdir] at hn'
    cases hn'
    cases halike with
    | dir entries _ => exact ⟨entries, rfl⟩

/-- A segment does on the grown disk what it did before, unless it leads to a file that is new. -/
theorem move_cases (names : List String) (segment : String) :
    move d'.root names segment = move d.root names segment ∨
      (move d.root names segment = .missing ∧
        move d'.root names segment = .go (names ++ [segment]) ∧
        d.root.at? (names ++ [segment]) = none ∧
        ∃ content, d'.root.at? (names ++ [segment]) = some (.file content)) ∨
      ∃ e e', move d.root names segment = .blocked e ∧
        move d'.root names segment = .blocked e' := by
  cases hat : d.root.at? names with
  | none =>
    right; right
    cases hat' : d'.root.at? names with
    | none => exact ⟨.notFound, .notFound, by simp [move, hat], by simp [move, hat']⟩
    | some n' =>
      obtain ⟨content, rfl, _⟩ := h.added names n' hat' hat
      exact ⟨.notFound, .notDirectory, by simp [move, hat], by simp [move, hat']⟩
  | some n =>
    obtain ⟨n', hat', halike⟩ := h.kept names n hat
    cases halike with
    | file content => exact Or.inl (by simp [move, hat, hat'])
    | link target => exact Or.inl (by simp [move, hat, hat'])
    | dir entries more =>
      simp only [move, hat, hat']
      by_cases hidle : (segment = "" || segment = ".") = true
      · rw [if_pos hidle, if_pos hidle]
        exact Or.inl rfl
      rw [if_neg hidle, if_neg hidle]
      by_cases hup : segment = ".."
      · rw [if_pos hup, if_pos hup]
        exact Or.inl rfl
      rw [if_neg hup, if_neg hup]
      by_cases hlong : nameLimit < segment.utf8ByteSize
      · rw [if_pos hlong, if_pos hlong]
        exact Or.inl rfl
      rw [if_neg hlong, if_neg hlong]
      rw [← Node.at?_concat hat, ← Node.at?_concat hat']
      cases hchild : d.root.at? (names ++ [segment]) with
      | none =>
        cases hchild' : d'.root.at? (names ++ [segment]) with
        | none => exact Or.inl rfl
        | some child =>
          obtain ⟨content, rfl, _⟩ := h.added _ child hchild' hchild
          exact Or.inr (Or.inl ⟨rfl, rfl, rfl, content, rfl⟩)
      | some child =>
        obtain ⟨child', hchild', halike⟩ := h.kept _ child hchild
        rw [hchild']
        cases halike <;> exact Or.inl rfl

end Gains

/-- Where a path leads once there is more to be found: to the same place, to a node that was
missing, or nowhere as before. -/
inductive Step.Onward (root root' : Node) : Step → Step → Prop where
  | same (s : Step) : Onward root root' s s
  | filled {names : List String} {name : String} {n : Node}
      (missing : root.at? (names ++ [name]) = none) (there : root'.at? (names ++ [name]) = some n) :
      Onward root root' (.vacant names name) (.reached (names ++ [name]))
  | blocked (e e' : FileError) : Onward root root' (.blocked e) (.blocked e')

namespace Gains

variable {sort : Option String → Prop} {d d' : Disk} (h : Gains sort d d')

include h

theorem step_onward (last : Bool) (names segments : List String) :
    Step.Onward d.root d'.root (step d.root last names segments)
      (step d'.root last names segments) := by
  induction segments generalizing names with
  | nil => exact .same _
  | cons segment rest ih =>
    rw [step_cons, step_cons]
    rcases h.move_cases names segment with hsame | ⟨hold, hnew, hnone, content, hfile⟩ |
      ⟨e, e', hold, hnew⟩
    · rw [hsame]
      cases move d.root names segment with
      | go next => exact ih next
      | missing => exact .same _
      | link target => exact .same _
      | blocked e => exact .same _
    · rw [hold, hnew]
      cases rest with
      | nil => exact .filled hnone hfile
      | cons next rest =>
        -- Nothing can be behind a file.
        have hstop : step d'.root last (names ++ [segment]) (next :: rest) =
            .blocked .notDirectory := by
          simp [step_cons, move, hfile]
        dsimp only
        rw [hstop]
        exact .blocked _ _
    · rw [hold, hnew]
      exact .blocked e e'

theorem follow_onward (last : Bool) (links : Nat) (names segments : List String) :
    Step.Onward d.root d'.root (follow d.root last links names segments)
      (follow d'.root last links names segments) := by
  rw [follow_eq, follow_eq]
  have hstep := h.step_onward last names segments
  generalize step d.root last names segments = s at hstep
  generalize step d'.root last names segments = s' at hstep
  cases hstep with
  | filled missing there => exact .filled missing there
  | blocked e e' => exact .blocked e e'
  | same =>
    cases s with
    | linked place target rest =>
      cases links with
      | zero => exact .same _
      | succ links => exact follow_onward last links _ _
    | _ => exact .same _

theorem locate_onward (last : Bool) (path : String) :
    Step.Onward d.root d'.root (d.locate last path) (d'.locate last path) := by
  by_cases husable : Usable path
  · rw [locate_of_usable husable, locate_of_usable husable, h.current]
    exact h.follow_onward last _ _ _
  · obtain ⟨e, he⟩ := locate_of_not_usable husable
    rw [he, he]
    exact .same _

/-- What was found stays what it was. -/
theorem found_kept {last : Bool} {path : String} {n : Node}
    (hn : d.nodeAt (d.locate last path) = .ok n) :
    ∃ n', d'.nodeAt (d'.locate last path) = .ok n' ∧ n.Alike n' := by
  obtain ⟨place, hplace, hat⟩ := nodeAt_eq_ok.mp hn
  obtain ⟨n', hat', halike⟩ := h.kept place n hat
  have hsame := h.locate_onward last path
  rw [hplace] at hsame
  generalize hs : d'.locate last path = s at hsame
  cases hsame
  exact ⟨n', nodeAt_eq_ok.mpr ⟨place, rfl, hat'⟩, halike⟩

/-- What is found was found before, or it is one of the new files. -/
theorem found_cases {last : Bool} {path : String} {n' : Node}
    (hn' : d'.nodeAt (d'.locate last path) = .ok n') :
    (∃ n, d.nodeAt (d.locate last path) = .ok n ∧ n.Alike n') ∨
      (∀ n, d.nodeAt (d.locate last path) ≠ .ok n) ∧
        ∃ content, n' = .file content ∧ sort content := by
  obtain ⟨place, hplace, hat'⟩ := nodeAt_eq_ok.mp hn'
  have honward := h.locate_onward last path
  rw [hplace] at honward
  generalize hs : d.locate last path = s at honward
  cases honward with
  | same =>
    cases hat : d.root.at? place with
    | some n =>
      obtain ⟨m, hm, halike⟩ := h.kept place n hat
      obtain rfl := Option.some.inj (hm.symm.trans hat')
      exact Or.inl ⟨n, nodeAt_eq_ok.mpr ⟨place, rfl, hat⟩, halike⟩
    | none =>
      refine Or.inr ⟨?_, h.added place n' hat' hat⟩
      intro n hn
      obtain ⟨_, hreached, hn⟩ := nodeAt_eq_ok.mp hn
      cases hreached
      simp [hat] at hn
  | filled missing there =>
    refine Or.inr ⟨?_, h.added _ n' hat' missing⟩
    intro n hn
    obtain ⟨_, hreached, _⟩ := nodeAt_eq_ok.mp hn
    cases hreached

section

variable {path : String}

theorem pathExists_kept (hold : d.pathExists path = true) : d'.pathExists path = true := by
  obtain ⟨n, hn⟩ := pathExists_iff.mp hold
  obtain ⟨n', hn', _⟩ := h.found_kept hn
  exact pathExists_iff.mpr ⟨n', hn'⟩

/-- A path leads to a directory if and only if it did before. -/
theorem dir_iff {last : Bool} :
    (∃ entries, d'.nodeAt (d'.locate last path) = .ok (.dir entries)) ↔
      ∃ entries, d.nodeAt (d.locate last path) = .ok (.dir entries) := by
  constructor
  · rintro ⟨entries, hdir⟩
    rcases h.found_cases hdir with ⟨n, hn, halike⟩ | ⟨_, content, hfile, _⟩
    · cases halike with
      | dir before _ => exact ⟨before, hn⟩
    · cases hfile
  · rintro ⟨entries, hdir⟩
    obtain ⟨n', hn', halike⟩ := h.found_kept hdir
    cases halike with
    | dir _ more => exact ⟨more, hn'⟩

theorem isDir_eq (path : String) : d'.isDir path = d.isDir path := by
  rw [Bool.eq_iff_iff, isDir_iff, isDir_iff]
  exact h.dir_iff

theorem isFile_kept (hold : d.isFile path = true) : d'.isFile path = true := by
  obtain ⟨content, hfile⟩ := isFile_iff.mp hold
  obtain ⟨_, hn', halike⟩ := h.found_kept hfile
  cases halike
  exact isFile_iff.mpr ⟨content, hn'⟩

/-- A file that comes to be found is one of the new files. -/
theorem isFile_cases (hnew : d'.isFile path = true) :
    d.isFile path = true ∨ ∃ content, d'.stat path = .ok (.file content) ∧ sort content := by
  obtain ⟨content, hfile⟩ := isFile_iff.mp hnew
  rcases h.found_cases hfile with ⟨n, hn, halike⟩ | ⟨_, _, hsame, hsort⟩
  · cases halike
    exact Or.inl (isFile_iff.mpr ⟨content, hn⟩)
  · cases hsame
    exact Or.inr ⟨content, hfile, hsort⟩

theorem lstat_link_iff {target : String} :
    d'.lstat path = .ok (.link target) ↔ d.lstat path = .ok (.link target) := by
  constructor
  · intro hlink
    rcases h.found_cases hlink with ⟨n, hn, halike⟩ | ⟨_, content, hfile, _⟩
    · cases halike
      exact hn
    · cases hfile
  · intro hlink
    obtain ⟨_, hn', halike⟩ := h.found_kept hlink
    cases halike
    exact hn'

/-- An entry of a directory is an old one or one of the new files. -/
theorem entry_cases {more : List (String × Node)} (hdir : d'.stat path = .ok (.dir more))
    {name : String} {child : Node} (hentry : (name, child) ∈ more) :
    (∃ entries other, d.stat path = .ok (.dir entries) ∧ (name, other) ∈ entries) ∨
      ∃ content, child = .file content ∧ sort content := by
  obtain ⟨place, hplace, hat'⟩ := stat_eq_ok.mp hdir
  obtain ⟨entries, hat⟩ := h.dir_before hat'
  have hchild' : d'.root.at? (place ++ [name]) = some child := by
    have hwell := Node.wellFormed_dir_iff.mp (h.wellFormed.of_at? hat')
    rw [Node.at?_concat hat', Node.child?_of_mem hwell.1 hentry]
  cases hchild : d.root.at? (place ++ [name]) with
  | none => exact Or.inr (h.added _ child hchild' hchild)
  | some other =>
    rw [Node.at?_concat hat] at hchild
    have honward := h.locate_onward true path
    rw [hplace] at honward
    generalize hs : d.locate true path = s at honward
    cases honward with
    | same =>
      have hstat := stat_eq_ok.mpr ⟨place, hs, hat⟩
      exact Or.inl ⟨entries, other, hstat, Node.mem_of_child? hchild⟩
    | filled missing there => simp [missing] at hat

/-- A directory keeps its entries. -/
theorem entry_kept {entries : List (String × Node)} (hdir : d.stat path = .ok (.dir entries))
    {name : String} {child : Node} (hentry : (name, child) ∈ entries) :
    ∃ more other, d'.stat path = .ok (.dir more) ∧ (name, other) ∈ more := by
  obtain ⟨place, hplace, hat⟩ := stat_eq_ok.mp hdir
  obtain ⟨more, hat'⟩ := h.dir_kept hat
  have honward := h.locate_onward true path
  rw [hplace] at honward
  generalize hs : d'.locate true path = s at honward
  cases honward
  cases hchild : Node.child? entries name with
  | none =>
    have hnone : entries.find? (·.1 == name) = none := by simpa [Node.child?] using hchild
    exact absurd (by simp) (List.find?_eq_none.mp hnone _ hentry)
  | some found =>
    rw [← Node.at?_concat hat] at hchild
    obtain ⟨other, hother, _⟩ := h.kept _ found hchild
    rw [Node.at?_concat hat'] at hother
    exact ⟨more, other, stat_eq_ok.mpr ⟨place, hs, hat'⟩, Node.mem_of_child? hother⟩

theorem readText_eq (hold : d.pathExists path = true) : d'.readText path = d.readText path := by
  obtain ⟨n, hn⟩ := pathExists_iff.mp hold
  obtain ⟨n', hn', halike⟩ := h.found_kept hn
  have hstat' : d'.stat path = .ok n' := hn'
  simp only [readText, hn, hstat']
  cases halike <;> rfl

theorem canonical?_eq (hpath : d'.pathExists path = true → d.pathExists path = true) :
    d'.canonical? path = d.canonical? path := by
  have honward := h.locate_onward true path
  unfold canonical?
  generalize hs : d.locate true path = s at honward
  generalize hs' : d'.locate true path = s' at honward
  cases honward with
  | same => rfl
  | blocked e e' => rfl
  | filled missing there =>
    have hthere := hpath (pathExists_iff.mpr ⟨_, stat_eq_ok.mpr ⟨_, hs', there⟩⟩)
    obtain ⟨n, hn⟩ := pathExists_iff.mp hthere
    obtain ⟨place, hplace, _⟩ := stat_eq_ok.mp hn
    simp [hs] at hplace

end

end Gains

/-- A path comes to lead somewhere only if it ends with the name of a dump, or else over a link. -/
theorem Grows.dumpName_of_new {d d' : Disk} (h : Grows d d') {path : String} {n' : Node}
    (hnew : d'.lstat path = .ok n') (hold : ∀ n, d.lstat path ≠ .ok n) :
    ∃ name, (Path.segments path).getLast? = some name ∧ Path.DumpName name := by
  obtain ⟨place, hplace, hat'⟩ := lstat_eq_ok.mp hnew
  have husable := usable_of_reached hplace
  have honward := h.locate_onward false path
  rw [hplace] at honward
  generalize hs : d.locate false path = s at honward
  cases honward with
  | same =>
    have hfollow := hs
    rw [locate_of_usable husable] at hfollow
    obtain ⟨n, hat⟩ := at?_of_follow (Path.segments_eq path ▸ Path.segmentsOf_ne_nil _) hfollow
    exact absurd (lstat_eq_ok.mpr ⟨place, hs, hat⟩) (hold n)
  | filled missing there =>
    rw [locate_of_usable husable] at hs
    obtain ⟨front, name, hnames, hname⟩ := h.named _ n' hat' missing
    have hsame := List.cons.inj (List.append_inj' hnames rfl).2
    exact ⟨name, hsame.1 ▸ getLast?_of_vacant hs, hname⟩

end Disk

namespace Dump

variable {d d' : Disk} {path : String}

theorem load_eq_ok {dump : Dump} :
    load d path = .ok dump ↔
      ∃ text, d.stat path = .ok (.file (some text)) ∧ ofText text = .ok dump := by
  simp only [load, Disk.readText]
  cases hstat : d.stat path with
  | error e => simp [bind, Except.bind, Except.mapError]
  | ok n =>
    cases n with
    | dir entries => simp [bind, Except.bind, Except.mapError]
    | link target => simp [bind, Except.bind, Except.mapError]
    | file content =>
      cases content with
      | none => simp [bind, Except.bind, Except.mapError]
      | some text =>
        cases htext : ofText text with
        | error fault => simp [bind, Except.bind, Except.mapError, htext]
        | ok other => simp [bind, Except.bind, Except.mapError, htext]

theorem not_load_of_broken {content : Option String} (hfile : d.stat path = .ok (.file content))
    (hbroken : Broken content) : (load d path).toOption = none := by
  cases hload : load d path with
  | error e => rfl
  | ok dump =>
    obtain ⟨text, htext, hdump⟩ := load_eq_ok.mp hload
    rw [htext] at hfile
    cases hfile
    exact absurd hdump (hbroken text rfl dump)

/-- The grown disk has no dumps that load but those that were there. -/
theorem load_grows (h : Disk.Grows d d') (path : String) :
    (load d' path).toOption = (load d path).toOption := by
  have hiff : ∀ dump, load d' path = .ok dump ↔ load d path = .ok dump := by
    intro dump
    rw [load_eq_ok, load_eq_ok]
    constructor
    · rintro ⟨text, hfile, hdump⟩
      rcases h.found_cases hfile with ⟨n, hn, halike⟩ | ⟨_, content, hsame, hbroken⟩
      · cases halike
        exact ⟨text, hn, hdump⟩
      · cases hsame
        exact absurd hdump (hbroken text rfl dump)
    · rintro ⟨text, hfile, hdump⟩
      obtain ⟨_, hn', halike⟩ := h.found_kept hfile
      cases halike
      exact ⟨text, hn', hdump⟩
  cases hload : load d path with
  | ok dump => rw [(hiff dump).mpr hload]
  | error e =>
    cases hload' : load d' path with
    | ok dump => simp [(hiff dump).mp hload'] at hload
    | error e' => rfl

end Dump

end FeatureLint
