import FeatureLint.Proofs.NonInterference
import FeatureLint.Proofs.RoundTrip

namespace FeatureLint

namespace Disk

open FeatureLint.Path (IsName)

theorem missing_of_move {root : Node} {names : List String} {segment : String}
    (h : move root names segment = .missing) :
    ¬ Path.Idle segment ∧ segment ≠ ".." ∧
      ∃ entries, root.at? names = some (.dir entries) ∧ Node.child? entries segment = none := by
  rcases move_cases root names with ⟨entries, hdir⟩ | ⟨e, hall⟩
  · simp only [move, hdir] at h
    split at h
    · cases h
    · rename_i hidle
      split at h
      · cases h
      · rename_i hup
        split at h
        · cases h
        · cases hchild : Node.child? entries segment with
          | none =>
            refine ⟨?_, hup, entries, hdir, hchild⟩
            simpa [Path.Idle] using hidle
          | some child =>
            rw [hchild] at h
            cases child <;> cases h
  · rw [hall] at h
    cases h

section

variable {root : Node} {last : Bool} {names segments place : List String} {name : String}

theorem vacant_of_step (hsegments : ∀ s ∈ segments, '/' ∉ s.toList)
    (h : step root last names segments = .vacant place name) :
    IsName name ∧
      ∃ entries, root.at? place = some (.dir entries) ∧ Node.child? entries name = none := by
  induction segments generalizing names with
  | nil => cases h
  | cons segment rest ih =>
    rw [List.forall_mem_cons] at hsegments
    rw [step_cons] at h
    cases hmove : move root names segment with
    | go next =>
      rw [hmove] at h
      exact ih hsegments.2 h
    | missing =>
      rw [hmove] at h
      dsimp only at h
      split at h
      · cases h
        obtain ⟨hbusy, hup, hplace⟩ := missing_of_move hmove
        exact ⟨⟨hsegments.1, hbusy, hup⟩, hplace⟩
      · cases h
    | link target =>
      rw [hmove] at h
      dsimp only at h
      split at h <;> cases h
    | blocked e =>
      rw [hmove] at h
      cases h

/-- What is left of a path behind a link is a part of it. -/
theorem mem_of_step_linked {target : String} {rest : List String}
    (h : step root last names segments = .linked place target rest) : ∀ s ∈ rest, s ∈ segments := by
  induction segments generalizing names with
  | nil => cases h
  | cons segment others ih =>
    rw [step_cons] at h
    cases hmove : move root names segment with
    | go next =>
      rw [hmove] at h
      intro s hs
      exact List.mem_cons_of_mem _ (ih h s hs)
    | missing =>
      rw [hmove] at h
      dsimp only at h
      split at h <;> cases h
    | link target =>
      rw [hmove] at h
      dsimp only at h
      split at h
      · cases h
      · cases h
        intro s hs
        exact List.mem_cons_of_mem _ hs
    | blocked e =>
      rw [hmove] at h
      cases h

theorem vacant_of_follow {links : Nat} {names segments : List String}
    (hsegments : ∀ s ∈ segments, '/' ∉ s.toList)
    (h : follow root last links names segments = .vacant place name) :
    IsName name ∧
      ∃ entries, root.at? place = some (.dir entries) ∧ Node.child? entries name = none := by
  rw [follow_eq] at h
  cases hs : step root last names segments with
  | reached next => simp [hs] at h
  | blocked e => simp [hs] at h
  | vacant next other =>
    rw [hs] at h
    exact vacant_of_step hsegments (by rw [hs]; exact h)
  | linked next target rest =>
    rw [hs] at h
    cases links with
    | zero => cases h
    | succ links =>
      refine vacant_of_follow ?_ h
      intro s hs'
      rcases List.mem_append.mp hs' with htarget | hrest
      · rw [Path.segments_eq] at htarget
        exact Path.slashFree_of_mem_segmentsOf htarget
      · exact hsegments s (mem_of_step_linked hs s hrest)

end

section

variable {d : Disk} {last : Bool} {path name : String} {place : List String}

theorem usable_of_vacant (h : d.locate last path = .vacant place name) : Usable path := by
  by_contra hnot
  obtain ⟨e, he⟩ := locate_of_not_usable hnot
  rw [he] at h
  cases h

/-- A vacant place is a name in a directory that has no entry of that name. -/
theorem vacant_of_locate (h : d.locate last path = .vacant place name) :
    IsName name ∧
      ∃ entries, d.root.at? place = some (.dir entries) ∧ Node.child? entries name = none := by
  rw [locate_of_usable (usable_of_vacant h)] at h
  refine vacant_of_follow ?_ h
  intro s hs
  rw [Path.segments_eq] at hs
  exact Path.slashFree_of_mem_segmentsOf hs

theorem not_pathExists_of_vacant (h : d.locate true path = .vacant place name) :
    d.pathExists path = false := by
  rw [← Bool.not_eq_true, pathExists_iff]
  rintro ⟨n, hn⟩
  obtain ⟨_, hreached, _⟩ := stat_eq_ok.mp hn
  rw [h] at hreached
  cases hreached

/-- The name of an entry that the current directory does not have leads to a vacant place. -/
theorem locate_missing {entries : List (String × Node)}
    (hdir : d.root.at? d.current = some (.dir entries)) (hname : IsName name)
    (husable : Usable name) (hshort : name.utf8ByteSize ≤ nameLimit)
    (hmissing : Node.child? entries name = none) (last : Bool) :
    d.locate last name = .vacant d.current name := by
  have hsegments : Path.segments name = [name] := by
    rw [Path.segments_eq, Path.segmentsOf_slashFree hname.slashFree, String.ofList_toList]
  have hmove : move d.root d.current name = .missing := by
    rw [move_name hdir hname, if_neg (Nat.not_lt.mpr hshort), hmissing]
  rw [locate_of_usable husable, hsegments, origin, Path.not_absolute_of_slashFree hname.slashFree,
    if_neg Bool.false_ne_true, follow_eq, step_cons, hmove]
  rfl

/-- A file put into a vacant place is found by every path that led there. -/
theorem stat_put (hd : d.root.WellFormed) (hvacant : d.locate true path = .vacant place name)
    (content : Option String) :
    (d.put place name (.file content)).stat path = .ok (.file content) := by
  obtain ⟨hname, entries, hdir, hchild⟩ := vacant_of_locate hvacant
  have hgains : Gains (· = content) d (d.put place name (.file content)) :=
    gains_put hd hdir hchild hname rfl
  have honward := hgains.locate_onward true path
  rw [hvacant] at honward
  generalize hs : (d.put place name (.file content)).locate true path = s at honward
  cases honward with
  | same =>
    obtain ⟨_, others, hothers, hmissing⟩ := vacant_of_locate hs
    rw [put, Node.at?_editDir_self hdir] at hothers
    cases hothers
    rw [Node.child?_putEntry, if_pos rfl] at hmissing
    cases hmissing
  | filled missing there =>
    obtain ⟨_, rfl⟩ := Node.at?_editDir_added hdir there missing
    exact stat_eq_ok.mpr ⟨_, hs, there⟩

/-- In a tree without links a path that leads to a vacant place ends with its name. -/
theorem getLast?_of_locate_vacant (hd : d.root.WellFormed) (hfree : d.root.LinkFree)
    (h : d.locate true path = .vacant place name) :
    (Path.segments path).getLast? = some name := by
  rcases locate_unfollowed d path with hsame | ⟨other, target, _, hlink⟩
  · rw [← hsame, locate_of_usable (usable_of_vacant h)] at h
    exact getLast?_of_vacant h
  · exact absurd ((Node.holds_iff_at? hd).mpr hlink) (hfree other target)

/-- A file put into a directory comes to be found by paths alone that led to its place. -/
theorem locate_of_put {content : Option String} {entries : List (String × Node)}
    (hdir : d.root.at? place = some (.dir entries)) {sort : Option String → Prop}
    (hgains : Gains sort d (d.put place name (.file content)))
    (hnew : (d.put place name (.file content)).isFile path = true)
    (hold : d.isFile path = false) : d.locate true path = .vacant place name := by
  obtain ⟨text, hfile⟩ := isFile_iff.mp hnew
  obtain ⟨found, hfound, hnode⟩ := stat_eq_ok.mp hfile
  have honward := hgains.locate_onward true path
  rw [hfound] at honward
  generalize hs : d.locate true path = s at honward
  cases honward with
  | same =>
    have hfollow := hs
    rw [locate_of_usable (usable_of_reached hs)] at hfollow
    obtain ⟨n, hat⟩ := at?_of_follow (Path.segments_eq path ▸ Path.segmentsOf_ne_nil _) hfollow
    obtain ⟨n', hat', halike⟩ := hgains.kept found n hat
    obtain rfl := Option.some.inj (hat'.symm.trans hnode)
    cases halike
    rw [isFile_iff.mpr ⟨text, stat_eq_ok.mpr ⟨found, hs, hat⟩⟩] at hold
    cases hold
  | filled missing there =>
    obtain ⟨hplace, _⟩ := Node.at?_editDir_added hdir there missing
    obtain ⟨rfl, hname⟩ := List.append_inj' hplace rfl
    rw [(List.cons.inj hname).1]

end

end Disk

namespace Scan

section

variable {sort : Option String → Prop} {d d' : Disk} (h : Disk.Gains sort d d')
  (hd : d.root.WellFormed) {base : String} {includes patterns : List String}

include h hd

/-- Files that come to be found as no dumps change nothing for a scan. -/
theorem files_eq (hapart : ∀ path, Path.isDump path = true → d'.isFile path = true →
      d.isFile path = true) :
    (scan d' base includes patterns).files = (scan d base includes patterns).files := by
  apply files_eq_of_mem_iff (pairwise_files ..) (pairwise_files ..)
  intro f
  constructor
  · intro hf
    rcases files_cases h hd hf with hold | ⟨p, content, _, hdump, hnot, hfile, _⟩
    · exact hold
    · rw [hapart p hdump (Disk.isFile_iff.mpr ⟨content, hfile⟩)] at hnot
      cases hnot
  · exact files_kept h hd

/-- The files of a scan are read as before. -/
theorem load_of_mem_files {f : String} (hf : f ∈ (scan d base includes patterns).files) :
    Dump.load d' f = Dump.load d f := by
  obtain ⟨root, _, p, hp, _, rfl⟩ := mem_files.mp hf
  obtain ⟨names, hmet, rfl⟩ := (mem_walkRoot hd).mp hp
  obtain ⟨content, hfile⟩ := Disk.isFile_iff.mp hmet.file
  have hthere := Disk.pathExists_iff.mpr ⟨_, Disk.stat_withoutHere hfile⟩
  simp only [Dump.load, h.readText_eq hthere]

end

end Scan

namespace Config

theorem validate_standard : standard.validate = .ok () := by decide +kernel

theorem loadFile_of_text {d : Disk} {path text : String} (hread : d.readText path = .ok text)
    {config : Config} (htext : ofText text = .ok config) (hvalid : config.validate = .ok ()) :
    loadFile d path = .ok config := by
  simp [loadFile, hread, htext, hvalid, bind, Except.bind, Except.mapError, pure, Except.pure]

section

variable {sort : Option String → Prop} {d d' : Disk} (h : Disk.Gains sort d d')

include h

/-- A search that found nothing comes upon what is new or still upon nothing. -/
theorem firstConfig?_new {dirs : List String} (hnone : firstConfig? d dirs = none) {path : String}
    (hpath : firstConfig? d' dirs = some path) : d.pathExists path = false := by
  induction dirs with
  | nil => cases hpath
  | cons dir dirs ih =>
    rw [firstConfig?] at hnone hpath
    by_cases hconfig : d.pathExists (Path.join dir fileName) = true
    · rw [if_pos hconfig] at hnone
      cases hnone
    rw [if_neg hconfig] at hnone
    by_cases hconfig' : d'.pathExists (Path.join dir fileName) = true
    · rw [if_pos hconfig'] at hpath
      cases hpath
      exact Bool.not_eq_true _ ▸ hconfig
    rw [if_neg hconfig'] at hpath
    by_cases hgit : d.pathExists (Path.join dir ".git") = true
    · rw [if_pos (h.pathExists_kept hgit)] at hpath
      cases hpath
    rw [if_neg hgit] at hnone
    by_cases hgit' : d'.pathExists (Path.join dir ".git") = true
    · rw [if_pos hgit'] at hpath
      cases hpath
    rw [if_neg hgit'] at hpath
    exact ih hnone hpath

/-- The current directory is none of the files that are new. -/
theorem canonical?_here : d'.canonical? "." = d.canonical? "." := by
  refine h.canonical?_eq ?_
  intro hthere
  obtain ⟨n, hn⟩ := Disk.pathExists_iff.mp hthere
  rcases h.found_cases hn with ⟨m, hm, _⟩ | ⟨_, content, rfl, _⟩
  · exact Disk.pathExists_iff.mpr ⟨m, hm⟩
  · obtain ⟨entries, hdir, _⟩ := Disk.at?_current (by decide) hn
    cases hdir

end

/-- Where no configuration is found, the standard one is gone by, also if it is what the new files
hold. -/
theorem load_standard {d d' : Disk}
    (h : Disk.Gains (· = some Command.standardConfigText) d d')
    (hnone : find? d ((d.canonical? ".").getD ".") = none) :
    ∃ fromFile, load d' "." = .ok ⟨standard, fromFile⟩ := by
  unfold load
  rw [canonical?_here h]
  cases hpath : find? d' ((d.canonical? ".").getD ".") with
  | none => exact ⟨false, rfl⟩
  | some path =>
    refine ⟨true, ?_⟩
    have hbefore : d.pathExists path = false := firstConfig?_new h hnone hpath
    obtain ⟨n, hn⟩ := Disk.pathExists_iff.mp (pathExists_of_firstConfig? hpath)
    rcases h.found_cases hn with ⟨m, hm, _⟩ | ⟨_, content, rfl, rfl⟩
    · rw [Disk.pathExists_iff.mpr ⟨m, hm⟩] at hbefore
      cases hbefore
    · have hread : d'.readText path = .ok Command.standardConfigText := by
        simp only [Disk.readText, hn, bind, Except.bind]
      have htext : ofText Command.standardConfigText = .ok standard :=
        standard.ofText_toJson (Json.spelledBy_pretty _)
      dsimp only
      rw [loadFile_of_text hread htext validate_standard]
      rfl

end Config

/-- What is seen of a run: both channels and how it ends. -/
def Outcome.seen (o : Outcome) : String × String × Except Failure Status :=
  (o.stdout, o.stderr, o.ending)

namespace Command

/-- What a check that is not verbose makes of its findings. -/
def verdict (env : Environment) (f : Findings) : String × String × Except Failure Status :=
  match (reportText env f).fault with
  | some fault => ((reportText env f).text, "", .error (.report fault))
  | none =>
    ((reportText env f).text, Report.parseWarning env.colors f.failures.length false,
      .ok (.ofIssueCount f.issues.length))

section

variable {env : Environment} {d d' : Disk} {options : CheckOptions}

theorem seen_runCheck {loaded : Config.Loaded} (hsettings : settings env d options = .ok loaded)
    {rule : Rule} (hrule : Rule.ofSettings loaded.config.rule = .ok rule)
    (hverbose : options.verbose = false) :
    (runCheck env d options).seen =
      verdict env (findings d options loaded.config rule) := by
  unfold verdict
  cases hfault : (reportText env (findings d options loaded.config rule)).fault with
  | none =>
    rw [Outcome.seen, runCheck_stdout hsettings hrule, runCheck_ending hsettings hrule,
      runCheck_stderr hsettings hrule hfault hverbose, hfault]
  | some fault =>
    have hstderr : (runCheck env d options).stderr = "" := by
      rw [findings] at hfault
      simp only [runCheck, hsettings, hrule, whenVerbose, hverbose, hfault, Bool.false_eq_true,
        if_false, String.empty_append]
    rw [Outcome.seen, runCheck_stdout hsettings hrule, runCheck_ending hsettings hrule, hstderr,
      hfault]

theorem seen_runCheck_problem {loaded : Config.Loaded}
    (hsettings : settings env d options = .ok loaded) {problem : Config.Problem}
    (hrule : Rule.ofSettings loaded.config.rule = .error problem)
    (hverbose : options.verbose = false) :
    (runCheck env d options).seen = ("", "", .error (.problem problem)) := by
  simp only [Outcome.seen, runCheck, hsettings, hrule, whenVerbose, hverbose, Bool.false_eq_true,
    if_false]

/-- Two checks with one configuration that find and load the same files are alike, as long as they
are not verbose. -/
theorem seen_runCheck_congr {config : Config} {fromFile fromFile' : Bool}
    (hsettings : settings env d options = .ok ⟨config, fromFile⟩)
    (hsettings' : settings env d' options = .ok ⟨config, fromFile'⟩)
    (hfiles : (dumps d' options config).files = (dumps d options config).files)
    (hload : ∀ f ∈ (dumps d options config).files, Dump.load d' f = Dump.load d f)
    (hverbose : options.verbose = false) :
    (runCheck env d' options).seen = (runCheck env d options).seen := by
  cases hrule : Rule.ofSettings config.rule with
  | error problem =>
    rw [seen_runCheck_problem hsettings hrule hverbose,
      seen_runCheck_problem hsettings' hrule hverbose]
  | ok rule =>
    have houtcomes : (dumps d options config).files.map
          (fun f => (f, Checker.checkFile ⟨[rule]⟩ d' f)) =
        (dumps d options config).files.map (fun f => (f, Checker.checkFile ⟨[rule]⟩ d f)) := by
      apply List.map_congr_left
      intro f hf
      simp only [Checker.checkFile, hload f hf]
    have hfindings : findings d' options config rule = findings d options config rule := by
      simp only [findings, Checker.checkFiles, hfiles, houtcomes]
    rw [seen_runCheck hsettings hrule hverbose, seen_runCheck hsettings' hrule hverbose, hfindings]

theorem settings_of_load {config : Config} {fromFile : Bool}
    (hload : Config.load d options.path = .ok ⟨config, fromFile⟩)
    (htag : withIgnoreTag env options config = config) (hvalid : config.validate = .ok ()) :
    settings env d options = .ok ⟨config, fromFile⟩ := by
  simp only [settings, hload, bind, Except.bind, Except.mapError, htag, hvalid]
  rfl

variable (env)

/-- Where the standard configuration is gone by, whether it comes from a file does not matter for
the settings. -/
theorem settings_standard {fromFile fromFile' : Bool} (hpath : options.path = ".")
    (hload : Config.load d "." = .ok ⟨.standard, fromFile⟩)
    (hload' : Config.load d' "." = .ok ⟨.standard, fromFile'⟩) :
    (∃ failure, settings env d options = .error failure ∧
        settings env d' options = .error failure) ∨
      ∃ config, settings env d options = .ok ⟨config, fromFile⟩ ∧
        settings env d' options = .ok ⟨config, fromFile'⟩ := by
  simp only [settings, hpath, hload, hload', bind, Except.bind, Except.mapError, pure, Except.pure]
  cases (withIgnoreTag env options .standard).validate with
  | error problem => exact Or.inl ⟨_, rfl, rfl⟩
  | ok _ => exact Or.inr ⟨_, rfl, rfl⟩

/-- Files with the standard configuration that are found as no dumps make no difference to a check
that finds no configuration. -/
theorem seen_runCheck_standard (hd : d.root.WellFormed)
    (h : Disk.Gains (· = some standardConfigText) d d')
    (hnone : Config.find? d ((d.canonical? ".").getD ".") = none)
    (hapart : ∀ path, Path.isDump path = true → d'.isFile path = true → d.isFile path = true)
    (hpath : options.path = ".") (hverbose : options.verbose = false) :
    (runCheck env d' options).seen = (runCheck env d options).seen := by
  obtain ⟨fromFile, hload⟩ := Config.load_standard (.refl hd) hnone
  obtain ⟨fromFile', hload'⟩ := Config.load_standard h hnone
  rcases settings_standard env hpath hload hload' with ⟨failure, hsettings, hsettings'⟩ |
    ⟨config, hsettings, hsettings'⟩
  · simp only [Outcome.seen, runCheck, hsettings, hsettings']
  · have hfiles : (dumps d' options config).files = (dumps d options config).files := by
      unfold dumps
      split <;> exact Scan.files_eq h hd hapart
    refine seen_runCheck_congr hsettings hsettings' hfiles ?_ hverbose
    intro f hf
    unfold dumps at hf
    split at hf <;> exact Scan.load_of_mem_files h hd hf

theorem runInit_of_vacant {place : List String} {name : String}
    (hvacant : d.locate true Config.fileName = .vacant place name) :
    runInit env d = ⟨createdText env, "", .ok .clean,
      d.put place name (.file (some standardConfigText))⟩ := by
  simp [runInit, Disk.not_pathExists_of_vacant hvacant, Disk.write, hvacant]

theorem readText_runInit (hd : d.root.WellFormed) {place : List String} {name : String}
    (hvacant : d.locate true Config.fileName = .vacant place name) :
    (runInit env d).disk.readText Config.fileName = .ok standardConfigText := by
  rw [runInit_of_vacant env hvacant]
  simp only [Disk.readText, Disk.stat_put hd hvacant, bind, Except.bind]

theorem runInit_of_not_vacant
    (hnot : ∀ place name, d.locate true Config.fileName ≠ .vacant place name) :
    (∃ failure, (runInit env d).ending = .error failure) ∧ (runInit env d).disk = d := by
  unfold runInit
  split
  · exact ⟨⟨_, rfl⟩, rfl⟩
  · rename_i habsent
    have hwrite : ∃ e, d.write Config.fileName (some standardConfigText) = .error e := by
      unfold Disk.write
      cases hlocate : d.locate true Config.fileName with
      | vacant place name => exact absurd hlocate (hnot place name)
      | blocked e => exact ⟨e, rfl⟩
      | linked place target rest => exact ⟨.notFound, rfl⟩
      | reached place =>
        cases hat : d.root.at? place with
        | none => exact ⟨.isDirectory, by simp [hat]⟩
        | some n =>
          have hthere := Disk.pathExists_iff.mpr ⟨n, Disk.stat_eq_ok.mpr ⟨place, hlocate, hat⟩⟩
          exact absurd hthere habsent
    obtain ⟨e, he⟩ := hwrite
    rw [he]
    exact ⟨⟨_, rfl⟩, rfl⟩

/-- At most a file with the standard configuration is new. -/
theorem gains_runInit (hd : d.root.WellFormed) :
    Disk.Gains (· = some standardConfigText) d (runInit env d).disk := by
  by_cases hvacant : ∃ place name, d.locate true Config.fileName = .vacant place name
  · obtain ⟨place, name, hvacant⟩ := hvacant
    obtain ⟨hname, entries, hdir, hchild⟩ := Disk.vacant_of_locate hvacant
    rw [runInit_of_vacant env hvacant]
    exact Disk.gains_put hd hdir hchild hname rfl
  · have hnot : ∀ place name, d.locate true Config.fileName ≠ .vacant place name :=
      fun place name h => hvacant ⟨place, name, h⟩
    rw [(runInit_of_not_vacant env hnot).2]
    exact .refl hd

/-- No configuration is found and one can be written: its path leads to a vacant place, and no path
with the name of a dump leads there too. -/
structure Uninitialized (d : Disk) : Prop where
  unfound : Config.find? d ((d.canonical? ".").getD ".") = none
  vacant : ∃ place name, d.locate true Config.fileName = .vacant place name
  apart : ∀ path, Path.isDump path = true → d.locate true path ≠ d.locate true Config.fileName

/-- Without links only a dump has the name of one. -/
theorem apart_of_linkFree (hd : d.root.WellFormed) (hfree : d.root.LinkFree) {path : String}
    (hdump : Path.isDump path = true) {place : List String} :
    d.locate true path ≠ .vacant place Config.fileName := by
  intro hvacant
  have hlast := Disk.getLast?_of_locate_vacant hd hfree hvacant
  obtain ⟨stem, _, hname⟩ := (Path.isDump_iff path).mp hdump
  obtain ⟨front, back, hsegments, hback⟩ := Path.fileName?_segments hname
  rw [hsegments] at hlast
  cases back using List.reverseRecOn with
  | nil =>
    have hsame : stem ++ Path.dumpSuffix = Config.fileName := by simpa using hlast
    have hends : Path.DumpName Config.fileName := by
      rw [← hsame, Path.DumpName, Path.stem?_append]
      rfl
    exact Config.not_dumpName_of_mem_marks (by simp [Config.marks]) hends
  | append_singleton back s =>
    rw [← List.cons_append, ← List.append_assoc, List.getLast?_concat] at hlast
    have hsame : s = Config.fileName := Option.some.inj hlast
    have hidle := hback s (by simp)
    rw [hsame] at hidle
    exact absurd hidle (by decide)

/-- Links apart, it is enough that the current directory has no entry of that name. -/
theorem uninitialized_of_linkFree (hd : d.root.WellFormed) (hfree : d.root.LinkFree)
    (hunfound : Config.find? d ((d.canonical? ".").getD ".") = none)
    {entries : List (String × Node)} (hdir : d.root.at? d.current = some (.dir entries))
    (hmissing : Node.child? entries Config.fileName = none) : Uninitialized d := by
  have hvacant : d.locate true Config.fileName = .vacant d.current Config.fileName :=
    Disk.locate_missing hdir (by decide) ⟨by decide, by decide, by decide⟩ (by decide) hmissing true
  refine ⟨hunfound, ⟨_, _, hvacant⟩, ?_⟩
  intro path hdump
  rw [hvacant]
  exact apart_of_linkFree hd hfree hdump

theorem Uninitialized.seen_runCheck (hd : d.root.WellFormed) (h : Uninitialized d)
    (hpath : options.path = ".") (hverbose : options.verbose = false) :
    (runCheck env (runInit env d).disk options).seen = (runCheck env d options).seen := by
  have hgains := gains_runInit env hd
  refine seen_runCheck_standard env hd hgains h.unfound ?_ hpath hverbose
  intro path hdump hnew
  obtain ⟨place, name, hvacant⟩ := h.vacant
  obtain ⟨_, entries, hdir, _⟩ := Disk.vacant_of_locate hvacant
  rw [runInit_of_vacant env hvacant] at hgains hnew
  by_contra hold
  have hsame := Disk.locate_of_put hdir hgains hnew (Bool.not_eq_true _ ▸ hold)
  exact h.apart path hdump (hsame.trans hvacant.symm)

end

end Command

namespace Request

open Command (runInit Uninitialized)

/-- What is seen of a run with some arguments, if they can be read. -/
def seen (env : Environment) (d : Disk) (arguments : List String) :
    Except UsageError (String × String × Except Failure Status) :=
  (ofArguments arguments).map fun request => (request.answer env d).seen

/-- A check that looks for its configuration in the current directory and is not verbose. -/
def QuietCheck (arguments : List String) : Prop :=
  ∀ options, ofArguments arguments = .ok (.run (.check options)) →
    options.path = "." ∧ options.verbose = false

/-- `init` makes no difference to a check where no configuration is found, and it fails where an
entry is in its way that is no link to a vacant place. It never overwrites what is there. -/
theorem seen_check_initialized (env : Environment) (d : Disk) (hd : d.root.WellFormed) :
    (Uninitialized d →
      (runInit env d).ending = .ok .clean ∧
        (runInit env d).disk.readText Config.fileName = .ok Command.standardConfigText ∧
        ∀ words, QuietCheck ("check" :: words) →
          seen env (runInit env d).disk ("check" :: words) = seen env d ("check" :: words)) ∧
    (∀ n, d.lstat Config.fileName = .ok n →
      (∀ target, n = .link target →
        ∀ place name, d.locate true Config.fileName ≠ .vacant place name) →
      (∃ failure, (runInit env d).ending = .error failure) ∧ (runInit env d).disk = d) ∧
    ∀ names n, d.root.at? names = some n →
      ∃ n', (runInit env d).disk.root.at? names = some n' ∧ n.Alike n' := by
  refine ⟨?_, ?_, (Command.gains_runInit env hd).kept⟩
  · intro huninitialized
    obtain ⟨place, name, hvacant⟩ := huninitialized.vacant
    refine ⟨by rw [Command.runInit_of_vacant env hvacant],
      Command.readText_runInit env hd hvacant, ?_⟩
    intro words hquiet
    cases hread : ofArguments ("check" :: words) with
    | error e => simp only [seen, hread, Except.map]
    | ok request =>
      rcases CheckOptions.read_request hread with rfl | ⟨options, rfl⟩
      · simp only [seen, hread, Except.map]
        rfl
      · obtain ⟨hpath, hverbose⟩ := hquiet options hread
        have hsame := huninitialized.seen_runCheck env hd hpath hverbose
        simp only [seen, hread, Except.map]
        exact congrArg Except.ok hsame
  · intro n hentry hlink
    refine Command.runInit_of_not_vacant env ?_
    intro place name hvacant
    by_cases htarget : ∃ target, n = .link target
    · obtain ⟨target, htarget⟩ := htarget
      exact hlink target htarget place name hvacant
    · have hstat := Disk.stat_of_lstat hentry (not_exists.mp htarget)
      have habsent := Disk.not_pathExists_of_vacant hvacant
      rw [Disk.pathExists_iff.mpr ⟨n, hstat⟩] at habsent
      cases habsent

/-- A directory in place of the configuration. -/
def occupiedDisk : Disk := ⟨.dir [(Config.fileName, .dir [])], []⟩

theorem seen_check_initialized_sample :
    Uninitialized Command.sampleDisk ∧
      QuietCheck ["check", "a.feature.json", "--ignore-tag", "wip"] ∧
      seen Command.sampleEnvironment (runInit Command.sampleEnvironment Command.sampleDisk).disk
          ["check", "a.feature.json", "--ignore-tag", "wip"] =
        seen Command.sampleEnvironment Command.sampleDisk
          ["check", "a.feature.json", "--ignore-tag", "wip"] ∧
      (runInit Command.sampleEnvironment occupiedDisk).disk = occupiedDisk := by
  have hd : Command.sampleDisk.root.WellFormed := by
    simp only [Command.sampleDisk, Node.wellFormed_dir_iff, List.forall_mem_cons,
      List.not_mem_nil, false_imp_iff, implies_true, and_true, Node.wellFormed_file]
    decide
  have hfree : Command.sampleDisk.root.LinkFree := by
    simp [Command.sampleDisk, Node.linkFree_dir_iff, Node.linkFree_file]
  have huninitialized : Uninitialized Command.sampleDisk :=
    Command.uninitialized_of_linkFree hd hfree (by decide +kernel) rfl rfl
  have hread : ofArguments ["check", "a.feature.json", "--ignore-tag", "wip"] =
      .ok (.run (.check ⟨["a.feature.json"], ".", some "wip", false⟩)) := by
    decide +kernel
  have hquiet : QuietCheck ["check", "a.feature.json", "--ignore-tag", "wip"] := by
    intro options hoptions
    cases hread.symm.trans hoptions
    exact ⟨rfl, rfl⟩
  have hoccupied : occupiedDisk.root.WellFormed := by
    simp only [occupiedDisk, Node.wellFormed_dir_iff, List.forall_mem_cons, List.not_mem_nil,
      false_imp_iff, implies_true, and_true]
    decide
  refine ⟨huninitialized, hquiet, ?_, ?_⟩
  · exact ((seen_check_initialized _ _ hd).1 huninitialized).2.2 _ hquiet
  · refine ((seen_check_initialized _ _ hoccupied).2.1 (.dir []) ?_ ?_).2
    · rfl
    · simp

/-- A link with the name of a dump that leads to where the configuration goes. -/
def linkedDumpDisk : Disk := ⟨.dir [("x.feature.json", .link Config.fileName)], []⟩

/-- A configuration that is a link into a directory that is missing. -/
def strayConfigDisk : Disk := ⟨.dir [(Config.fileName, .link "gone/x.json")], []⟩

theorem runInit_linkedDump :
    (runInit Command.sampleEnvironment linkedDumpDisk).disk =
      linkedDumpDisk.put [] Config.fileName (.file (some Command.standardConfigText)) := by
  have hvacant : linkedDumpDisk.locate true Config.fileName = .vacant [] Config.fileName :=
    Disk.locate_missing rfl (by decide) ⟨by decide, by decide, by decide⟩ (by decide) rfl true
  rw [Command.runInit_of_vacant _ hvacant]

/-- By that link the configuration counts as a dump. -/
theorem stdout_linkedDump :
    (Command.runCheck Command.sampleEnvironment
      (runInit Command.sampleEnvironment linkedDumpDisk).disk
      ⟨["x.feature.json"], ".", none, false⟩).stdout = Report.success false 1 := by
  have hwell : linkedDumpDisk.root.WellFormed := by
    simp only [linkedDumpDisk, Node.wellFormed_dir_iff, List.forall_mem_cons, List.not_mem_nil,
      false_imp_iff, implies_true, and_true]
    exact ⟨by decide, fun names entries h => by cases h⟩
  obtain ⟨fromFile, hload⟩ := Config.load_standard
    (Command.gains_runInit Command.sampleEnvironment hwell) (by decide +kernel)
  have hstat : ∀ content, (linkedDumpDisk.put [] Config.fileName (.file content)).stat
      "x.feature.json" = .ok (.file content) := fun _ => rfl
  have hfile := hstat (some Command.standardConfigText)
  have hfiles : (Command.dumps
      (linkedDumpDisk.put [] Config.fileName (.file (some Command.standardConfigText)))
      ⟨["x.feature.json"], ".", none, false⟩ .standard).files = ["x.feature.json"] := by
    decide +kernel
  rw [runInit_linkedDump] at hload ⊢
  generalize linkedDumpDisk.put [] Config.fileName (.file (some Command.standardConfigText)) = after
    at hload hfile hfiles ⊢
  have hsettings : Command.settings Command.sampleEnvironment after
      ⟨["x.feature.json"], ".", none, false⟩ = .ok ⟨.standard, fromFile⟩ :=
    Command.settings_of_load hload rfl Config.validate_standard
  have hrule : Rule.ofSettings Config.standard.rule = .ok Rule.standard := by decide +kernel
  have hdump : Dump.load after "x.feature.json" = .ok ⟨none, [], []⟩ :=
    Dump.load_eq_ok.mpr ⟨_, hfile, Config.standard.dump_ofText_toJson (Json.spelledBy_pretty _)⟩
  have hloaded : Dump.loaded after ["x.feature.json"] = [("x.feature.json", ⟨none, [], []⟩)] :=
    Dump.loaded_cons_of_ok hdump
  have hissues : Checker.checkDump ⟨[Rule.standard]⟩ (Path.featurePath "x.feature.json")
      ⟨none, [], []⟩ = [] := by decide +kernel
  rw [Command.runCheck_stdout hsettings hrule, Command.findings, hfiles, Command.reportText,
    Checker.checkFiles_checked, Checker.checkFiles_issues, hloaded]
  simp [hissues, Issue.sort, Command.sampleEnvironment]

set_option maxRecDepth 100000 in
/-- Links make a difference: the configuration may come to be counted as a dump, there may be no way
to write it, and it may be written where an entry of its name is already. -/
theorem seen_check_linked :
    (Config.find? linkedDumpDisk ((linkedDumpDisk.canonical? ".").getD ".") = none ∧
      (runInit Command.sampleEnvironment linkedDumpDisk).code = 0 ∧
      shown Command.sampleEnvironment linkedDumpDisk ["check", "x.feature.json"] ≠
        shown Command.sampleEnvironment
          (runInit Command.sampleEnvironment linkedDumpDisk).disk ["check", "x.feature.json"]) ∧
    (Config.find? strayConfigDisk ((strayConfigDisk.canonical? ".").getD ".") = none ∧
      (runInit Command.sampleEnvironment strayConfigDisk).code = 2) ∧
    (linkedConfigDisk.lstat Config.fileName = .ok (.link "x.feature.json") ∧
      (runInit Command.sampleEnvironment linkedConfigDisk).code = 0 ∧
      linkedConfigDisk.isFile "x.feature.json" = false ∧
      (runInit Command.sampleEnvironment linkedConfigDisk).disk.isFile "x.feature.json" =
        true) := by
  have hread : ofArguments ["check", "x.feature.json"] =
      .ok (.run (.check ⟨["x.feature.json"], ".", none, false⟩)) := by decide +kernel
  have hbefore : (Command.runCheck Command.sampleEnvironment linkedDumpDisk
      ⟨["x.feature.json"], ".", none, false⟩).stdout = Report.success false 0 := by decide +kernel
  refine ⟨⟨by decide +kernel, by decide +kernel, ?_⟩, ⟨by decide +kernel, by decide +kernel⟩,
    rfl, by decide +kernel, by decide +kernel, by decide +kernel⟩
  intro hsame
  rw [shown_of_check hread, shown_of_check hread] at hsame
  have hstdout := (Prod.mk.inj hsame).1
  rw [hbefore, stdout_linkedDump] at hstdout
  exact absurd hstdout (by decide +kernel)

end Request

end FeatureLint
