import FeatureLint.Proofs.Expansion
import FeatureLint.Proofs.Tally
import FeatureLint.Proofs.Verbosity

namespace FeatureLint

open Glob (Fresh Joined)

namespace Scan

section

variable {sort : Option String → Prop} {d d' : Disk} (h : Disk.Gains sort d d') {base : String}
  {includes patterns : List String}

include h

theorem rootsOf_joined (hd : d.root.WellFormed) (base pattern : String) :
    Joined d d' (rootsOf d base pattern).1 (rootsOf d' base pattern).1 := by
  unfold rootsOf
  dsimp only
  split
  · rcases Glob.expand_joined hd h (Path.join base pattern) with ⟨e, hold, hnew⟩ |
      ⟨paths, more, hold, hnew, hjoined⟩
    · rw [hold, hnew]
      exact .same []
    · rw [hold, hnew]
      exact hjoined
  · by_cases hold : d.pathExists (Path.join base pattern) = true
    · rw [if_pos hold, if_pos (h.pathExists_kept hold)]
      exact .same _
    · rw [if_neg hold]
      split
      · rename_i hnew
        refine .of_fresh ?_
        simpa using Fresh.of_pathExists h hnew hold
      · exact .same []

theorem roots_joined (hd : d.root.WellFormed) (base : String) (includes : List String) :
    Joined d d' (roots d base includes).1 (roots d' base includes).1 := by
  unfold roots
  split
  · exact .same _
  · simp only [List.flatMap_map]
    exact .flatMap (List.Subset.refl _) (fun pattern _ => rootsOf_joined h hd base pattern)
      (fun pattern hin hout => absurd hin hout)

/-- A walk still comes upon the files that it came upon. -/
theorem Meets.after {ignored : String → Bool} {root : String} {names : List String}
    (hmet : Meets d ignored root names) : Meets d' ignored root names where
  there := h.pathExists_kept hmet.there
  named := hmet.named
  file := h.isFile_kept hmet.file
  entered := hmet.entered.imp id fun ⟨hdir, target, hlink⟩ =>
    ⟨by rw [h.isDir_eq, hdir], target, h.lstat_link_iff.mpr hlink⟩
  kept := hmet.kept
  direct q hq := h.dir_iff.mpr (hmet.direct q hq)

/-- A file that a walk comes upon and that was there before was come upon before. -/
theorem Meets.before {ignored : String → Bool} {root : String} {names : List String}
    (hmet : Meets d' ignored root names) (hfile : d.isFile (spell root names) = true) :
    Meets d ignored root names where
  there := by
    cases names with
    | nil => exact Disk.pathExists_of_isFile hfile
    | cons name names =>
      obtain ⟨entries, _, hdir, _⟩ := hmet.root_dir
      have hisDir := Disk.isDir_iff.mpr ⟨entries, hdir⟩
      rw [h.isDir_eq] at hisDir
      obtain ⟨_, hstat⟩ := Disk.isDir_iff.mp hisDir
      exact Disk.pathExists_iff.mpr ⟨_, hstat⟩
  named := hmet.named
  file := hfile
  entered := hmet.entered.imp id fun ⟨hdir, target, hlink⟩ =>
    ⟨by rw [← h.isDir_eq, hdir], target, h.lstat_link_iff.mp hlink⟩
  kept := hmet.kept
  direct q hq := h.dir_iff.mp (hmet.direct q hq)

omit h in
/-- From a fresh root a walk comes upon that root at most. -/
theorem Meets.of_fresh {ignored : String → Bool} {root : String} {names : List String}
    (hmet : Meets d' ignored root names) (hroot : Fresh d d' root) : names = [] := by
  cases names with
  | nil => rfl
  | cons name names =>
    obtain ⟨entries, _, hdir, _⟩ := hmet.root_dir
    obtain ⟨_, hfile⟩ := hroot.leads _ hdir
    cases hfile

theorem files_kept (hd : d.root.WellFormed) {f : String}
    (hf : f ∈ (scan d base includes patterns).files) :
    f ∈ (scan d' base includes patterns).files := by
  obtain ⟨root, hroot, p, hp, hdump, rfl⟩ := mem_files.mp hf
  obtain ⟨names, hmet, rfl⟩ := (mem_walkRoot hd).mp hp
  exact mem_files.mpr ⟨root, (roots_joined h hd base includes).kept hroot, _,
    (mem_walkRoot h.wellFormed).mpr ⟨names, hmet.after h, rfl⟩, hdump, rfl⟩

/-- A file that comes to be found is found as one of the new files. -/
theorem files_cases (hd : d.root.WellFormed) {f : String}
    (hf : f ∈ (scan d' base includes patterns).files) :
    f ∈ (scan d base includes patterns).files ∨
      ∃ p content, f = Path.withoutHere p ∧ Path.isDump p = true ∧ d.isFile p = false ∧
        d'.stat p = .ok (.file content) ∧ sort content := by
  obtain ⟨root, hroot, p, hp, hdump, rfl⟩ := mem_files.mp hf
  obtain ⟨names, hmet, rfl⟩ := (mem_walkRoot h.wellFormed).mp hp
  by_cases hbefore : d.isFile (spell root names) = true
  · refine Or.inl (mem_files.mpr ⟨root, ?_, _,
      (mem_walkRoot hd).mpr ⟨names, hmet.before h hbefore, rfl⟩, hdump, rfl⟩)
    rcases (roots_joined h hd base includes).new root hroot with hold | hfresh
    · exact hold
    · obtain rfl := hmet.of_fresh hfresh
      have hthere := Disk.pathExists_of_isFile hbefore
      rw [spell_nil, hfresh.before] at hthere
      cases hthere
  · obtain ⟨content, hfile, hsort⟩ := (h.isFile_cases hmet.file).resolve_left hbefore
    exact Or.inr ⟨_, content, rfl, hdump, Bool.not_eq_true _ ▸ hbefore, hfile, hsort⟩

end

section

variable {d d' : Disk} (h : Disk.Grows d d') {base : String} {includes patterns : List String}

include h

/-- Every file that comes to be found is a broken dump. -/
theorem files_new (hd : d.root.WellFormed) {f : String}
    (hf : f ∈ (scan d' base includes patterns).files) :
    f ∈ (scan d base includes patterns).files ∨ (Dump.load d' f).toOption = none := by
  rcases files_cases h.toGains hd hf with hold | ⟨p, content, rfl, _, _, hfile, hbroken⟩
  · exact Or.inl hold
  · exact Or.inr (Dump.not_load_of_broken (Disk.stat_withoutHere hfile) hbroken)

/-- The dumps found that load are the same. -/
theorem loaded_eq (hd : d.root.WellFormed) :
    Dump.loaded d' (scan d' base includes patterns).files =
      Dump.loaded d (scan d base includes patterns).files := by
  have hloads : ∀ files, Dump.loaded d' files = Dump.loaded d files := by
    intro files
    simp only [Dump.loaded, Dump.load_grows h]
  have hold : (scan d base includes patterns).files =
      (scan d' base includes patterns).files.filter
        (· ∈ (scan d base includes patterns).files) := by
    apply files_eq_of_mem_iff (pairwise_files ..) ((pairwise_files ..).filter _)
    intro f
    simp only [List.mem_filter, decide_eq_true_eq]
    exact ⟨fun hf => ⟨files_kept h.toGains hd hf, hf⟩, fun hf => hf.2⟩
  rw [hloads]
  conv_rhs => rw [hold]
  simp only [Dump.loaded, List.filterMap_filter]
  apply List.filterMap_congr
  intro f hf
  split
  · rfl
  · rename_i hnot
    rcases files_new h hd hf with hin | hnone
    · simp [hin] at hnot
    · rw [Dump.load_grows h] at hnone
      rw [hnone]
      rfl

end

end Scan

namespace Config

/-- What ends the search for a configuration in a directory. -/
def marks : List String := [fileName, ".git"]

/-- The paths that a search may ask for in some directories. -/
def questions (dirs : List String) : List String :=
  dirs.flatMap fun dir => marks.map (Path.join dir)

/-- The paths that a search asks for in vain. -/
def askedInVain (d : Disk) (start : String) : List String :=
  let place := (d.canonical? start).getD start
  (questions (ancestors place.length place)).takeWhile fun path => !d.pathExists path

/-- The search for a configuration does not come upon what is new: neither the path it starts from
nor a link that it asks for comes to lead somewhere. -/
structure Undisturbed (d d' : Disk) (start : String) : Prop where
  origin : d'.pathExists start = true → d.pathExists start = true
  links : ∀ path ∈ askedInVain d start, ∀ target,
    d.lstat path = .ok (.link target) → d'.pathExists path = false

theorem not_dumpName_of_mem_marks {mark : String} (h : mark ∈ marks) : ¬ Path.DumpName mark := by
  simp only [marks, List.mem_cons, List.not_mem_nil, or_false] at h
  rcases h with rfl | rfl <;> decide +kernel

theorem slashFree_of_mem_marks {mark : String} (h : mark ∈ marks) : '/' ∉ mark.toList := by
  simp only [marks, List.mem_cons, List.not_mem_nil, or_false] at h
  rcases h with rfl | rfl <;> decide

section

variable {d d' : Disk} (h : Disk.Grows d d')

include h

/-- What was asked for in vain still is. -/
theorem vain_kept {start path : String} (hundisturbed : Undisturbed d d' start)
    (hpath : path ∈ askedInVain d start) : d'.pathExists path = false := by
  have hvain : d.pathExists path = false := by
    simpa using List.all_eq_true.mp List.all_takeWhile _ hpath
  obtain ⟨dir, _, hasked⟩ := List.mem_flatMap.mp ((List.takeWhile_prefix _).subset hpath)
  obtain ⟨mark, hmark, rfl⟩ := List.mem_map.mp hasked
  by_cases hold : ∃ n, d.lstat (Path.join dir mark) = .ok n
  · obtain ⟨n, hn⟩ := hold
    by_cases hlink : ∃ target, n = .link target
    · obtain ⟨target, rfl⟩ := hlink
      exact hundisturbed.links _ hpath target hn
    · have hstat := Disk.stat_of_lstat hn (not_exists.mp hlink)
      rw [Disk.pathExists_iff.mpr ⟨n, hstat⟩] at hvain
      cases hvain
  · -- Only a file with the name of a dump can be new, and no mark is called so.
    rw [← Bool.not_eq_true]
    intro hnew
    obtain ⟨n', hn'⟩ := Disk.exists_lstat_of_pathExists hnew
    obtain ⟨name, hlast, hname⟩ := h.dumpName_of_new hn' (not_exists.mp hold)
    rw [Path.getLast?_segments_join dir (slashFree_of_mem_marks hmark)] at hlast
    cases hlast
    exact absurd hname (not_dumpName_of_mem_marks hmark)

/-- A search goes by the first path that is there. -/
theorem firstConfig?_eq {dirs : List String}
    (hvain : ∀ path ∈ (questions dirs).takeWhile fun path => !d.pathExists path,
      d'.pathExists path = false) : firstConfig? d' dirs = firstConfig? d dirs := by
  induction dirs with
  | nil => rfl
  | cons dir dirs ih =>
    have hquestions : questions (dir :: dirs) =
        Path.join dir fileName :: Path.join dir ".git" :: questions dirs := rfl
    rw [hquestions, List.takeWhile_cons] at hvain
    rw [firstConfig?, firstConfig?]
    by_cases hconfig : d.pathExists (Path.join dir fileName) = true
    · rw [if_pos hconfig, if_pos (h.pathExists_kept hconfig)]
    rw [if_pos (by simpa using hconfig), List.forall_mem_cons, List.takeWhile_cons] at hvain
    rw [if_neg hconfig, if_neg (by simp [hvain.1])]
    by_cases hgit : d.pathExists (Path.join dir ".git") = true
    · rw [if_pos hgit, if_pos (h.pathExists_kept hgit)]
    rw [if_pos (by simpa using hgit), List.forall_mem_cons] at hvain
    rw [if_neg hgit, if_neg (by simp [hvain.2.1])]
    exact ih hvain.2.2

omit h in
theorem pathExists_of_firstConfig? {dirs : List String} {path : String}
    (hfirst : firstConfig? d dirs = some path) : d.pathExists path = true := by
  induction dirs with
  | nil => cases hfirst
  | cons dir dirs ih =>
    rw [firstConfig?] at hfirst
    split at hfirst
    · rename_i hthere
      cases hfirst
      exact hthere
    · split at hfirst
      · cases hfirst
      · exact ih hfirst

theorem load_eq {start : String} (hundisturbed : Undisturbed d d' start) :
    load d' start = load d start := by
  have hfind : find? d' ((d'.canonical? start).getD start) =
      find? d ((d.canonical? start).getD start) := by
    rw [h.canonical?_eq hundisturbed.origin]
    exact firstConfig?_eq h fun path hpath => vain_kept h hundisturbed hpath
  unfold load
  rw [hfind]
  cases hpath : find? d ((d.canonical? start).getD start) with
  | none => rfl
  | some path =>
    have hread := h.readText_eq (pathExists_of_firstConfig? hpath)
    simp only [loadFile, hread]

end

end Config

namespace Command

section

variable (env : Environment) {d d' : Disk} (options : CheckOptions)

theorem reportText_congr {f f' : Findings} (hissues : f'.issues = f.issues)
    (hchecked : f'.checked = f.checked) : reportText env f' = reportText env f := by
  simp only [reportText, hissues, hchecked]

/-- The paths, the settings of the rule and where the configuration is looked for decide what a
check finds; whether it is verbose does not matter. -/
theorem loaded_dumps_eq (hd : d.root.WellFormed) (h : Disk.Grows d d') (config : Config)
    (verbose : Bool) :
    Dump.loaded d' (dumps d' { options with verbose := verbose } config).files =
      Dump.loaded d (dumps d options config).files := by
  unfold dumps
  dsimp only
  split <;> exact Scan.loaded_eq h hd

theorem settings_eq (h : Disk.Grows d d')
    (hundisturbed : Config.Undisturbed d d' options.path) (verbose : Bool) :
    settings env d' { options with verbose := verbose } = settings env d options := by
  simp only [settings, Config.load_eq h hundisturbed]
  rfl

/-- On a disk that grows by broken dumps a check writes the same report and ends in the same way,
verbose or not. -/
theorem runCheck_grows (hd : d.root.WellFormed) (h : Disk.Grows d d')
    (hundisturbed : Config.Undisturbed d d' options.path) (verbose : Bool) :
    (runCheck env d' { options with verbose := verbose }).stdout =
        (runCheck env d options).stdout ∧
      (runCheck env d' { options with verbose := verbose }).ending =
        (runCheck env d options).ending := by
  have hsame := settings_eq env options h hundisturbed verbose
  cases hsettings : settings env d options with
  | error failure =>
    rw [hsettings] at hsame
    simp only [runCheck, hsettings, hsame, and_self]
  | ok loaded =>
    rw [hsettings] at hsame
    cases hrule : Rule.ofSettings loaded.config.rule with
    | error problem => simp only [runCheck, hsettings, hsame, hrule, and_self]
    | ok rule =>
      have hloaded := loaded_dumps_eq options hd h loaded.config verbose
      have hissues : (findings d' { options with verbose := verbose } loaded.config rule).issues =
          (findings d options loaded.config rule).issues := by
        rw [findings, findings, Checker.checkFiles_issues, Checker.checkFiles_issues, hloaded]
      have hchecked :
          (findings d' { options with verbose := verbose } loaded.config rule).checked =
            (findings d options loaded.config rule).checked := by
        rw [findings, findings, Checker.checkFiles_checked, Checker.checkFiles_checked, hloaded]
      rw [runCheck_stdout hsame hrule, runCheck_stdout hsettings hrule,
        runCheck_ending hsame hrule, runCheck_ending hsettings hrule,
        reportText_congr env hissues hchecked, hissues]
      exact ⟨rfl, rfl⟩

end

end Command

namespace Request

open CheckOptions (TakesVerbose)

/-- What the arguments of a run bring to the first channel, and its exit code. Arguments that cannot
be read bring nothing there. -/
def shown (env : Environment) (d : Disk) (arguments : List String) : String × Nat :=
  match ofArguments arguments with
  | .error _ => ("", Status.failed.code)
  | .ok request => ((request.answer env d).stdout, (request.answer env d).code)

theorem shown_of_error {env : Environment} {d : Disk} {arguments : List String} {e : UsageError}
    (h : ofArguments arguments = .error e) : shown env d arguments = ("", Status.failed.code) := by
  simp only [shown, h]

theorem shown_of_help {env : Environment} {d : Disk} {arguments : List String} {page : Page}
    (h : ofArguments arguments = .ok (.help page)) :
    shown env d arguments = (page.text env.ignoreTag, Status.clean.code) := by
  simp only [shown, h]
  rfl

theorem shown_of_check {env : Environment} {d : Disk} {arguments : List String}
    {options : CheckOptions} (h : ofArguments arguments = .ok (.run (.check options))) :
    shown env d arguments =
      ((Command.runCheck env d options).stdout, (Command.runCheck env d options).code) := by
  simp only [shown, h]
  rfl

/-- Two checks that differ in verbosity only show the same on a disk and on one with more broken
dumps. -/
theorem shown_congr {env : Environment} {d d' : Disk} (hd : d.root.WellFormed)
    (h : Disk.Grows d d') {arguments arguments' : List String} {options : CheckOptions}
    (hundisturbed : Config.Undisturbed d d' options.path) {verbose : Bool}
    (hold : ofArguments arguments = .ok (.run (.check options)))
    (hnew : ofArguments arguments' = .ok (.run (.check { options with verbose := verbose }))) :
    shown env d' arguments' = shown env d arguments := by
  obtain ⟨hstdout, hending⟩ := Command.runCheck_grows env options hd h hundisturbed verbose
  rw [shown_of_check hnew, shown_of_check hold, hstdout, Outcome.code, Outcome.code, hending]

/-- Broken dumps in any number, added to the directories of a disk, and the option `-v` change
neither what a check writes to its first channel nor its exit code, unless the search for its
configuration comes upon one of the files that were added. -/
theorem shown_check_littered (env : Environment) (d d' : Disk) (hd : d.root.WellFormed)
    (hlittered : Disk.Littered d d') (before after : List String)
    (hsearch : ∀ options, ofArguments ("check" :: (before ++ after)) = .ok (.run (.check options)) →
      Config.Undisturbed d d' options.path) :
    shown env d' ("check" :: (before ++ after)) = shown env d ("check" :: (before ++ after)) ∧
      (TakesVerbose before after →
        shown env d' ("check" :: (before ++ "-v" :: after)) =
          shown env d ("check" :: (before ++ after))) := by
  have hgrows := hlittered.grows hd
  constructor
  · cases hread : ofArguments ("check" :: (before ++ after)) with
    | error e => rw [shown_of_error hread, shown_of_error hread]
    | ok request =>
      rcases CheckOptions.read_request hread with rfl | ⟨options, rfl⟩
      · rw [shown_of_help hread, shown_of_help hread]
      · exact shown_congr hd hgrows (hsearch options hread) hread hread
  · intro hverbose
    have hmatched := ofArguments_verbose hverbose
    generalize hread : ofArguments ("check" :: (before ++ after)) = first at hmatched hsearch
    generalize hread' : ofArguments ("check" :: (before ++ "-v" :: after)) = second at hmatched
    cases hmatched with
    | failed e e' => rw [shown_of_error hread, shown_of_error hread']
    | both hechoes =>
      cases hechoes with
      | louder options => exact shown_congr hd hgrows (hsearch options rfl) hread hread'
      | same request =>
        rcases CheckOptions.read_request hread with rfl | ⟨options, rfl⟩
        · rw [shown_of_help hread, shown_of_help hread']
        · exact shown_congr hd hgrows (hsearch options rfl) hread hread'

/-- The disk of the sample with a file in the same directory that is no text. -/
def litteredSample : Disk := Command.sampleDisk.put [] "c.feature.json" (.file none)

theorem shown_check_littered_sample :
    Command.sampleDisk.root.WellFormed ∧
      Disk.Littered Command.sampleDisk litteredSample ∧
      Config.Undisturbed Command.sampleDisk litteredSample "." ∧
      TakesVerbose ["a.feature.json"] ["--ignore-tag", "wip"] ∧
      shown Command.sampleEnvironment litteredSample
          ["check", "a.feature.json", "-v", "--ignore-tag", "wip"] =
        shown Command.sampleEnvironment Command.sampleDisk
          ["check", "a.feature.json", "--ignore-tag", "wip"] := by
  have hd : Command.sampleDisk.root.WellFormed := by
    simp only [Command.sampleDisk, Node.wellFormed_dir_iff, List.forall_mem_cons,
      List.not_mem_nil, false_imp_iff, implies_true, and_true, Node.wellFormed_file]
    decide
  have hlittered : Disk.Littered Command.sampleDisk litteredSample :=
    .file .clean rfl (by rfl) (by decide) (by decide +kernel) (fun text h => by cases h)
  have hundisturbed : Config.Undisturbed Command.sampleDisk litteredSample "." := by
    refine ⟨fun _ => by decide +kernel, ?_⟩
    intro path hpath target hlink
    have hnone : ∀ path ∈ Config.askedInVain Command.sampleDisk ".",
        Glob.isThere Command.sampleDisk path = false := by decide +kernel
    have hthere := Glob.isThere_iff.mpr ⟨_, hlink⟩
    rw [hnone path hpath] at hthere
    cases hthere
  have hverbose : TakesVerbose ["a.feature.json"] ["--ignore-tag", "wip"] :=
    ⟨by decide, by decide, by decide +kernel⟩
  have hread : ofArguments ["check", "a.feature.json", "--ignore-tag", "wip"] =
      .ok (.run (.check ⟨["a.feature.json"], ".", some "wip", false⟩)) := by
    decide +kernel
  refine ⟨hd, hlittered, hundisturbed, hverbose, ?_⟩
  refine (shown_check_littered Command.sampleEnvironment Command.sampleDisk litteredSample hd
    hlittered ["a.feature.json"] ["--ignore-tag", "wip"] ?_).2 hverbose
  intro options hoptions
  cases hread.symm.trans hoptions
  exact hundisturbed

/-- A directory in place of a configuration, and one below it. -/
def brokenConfigDisk : Disk := ⟨.dir [(Config.fileName, .dir []), ("sub", .dir [])], ["sub"]⟩

/-- A configuration that is a link to a file that is missing. -/
def linkedConfigDisk : Disk := ⟨.dir [(Config.fileName, .link "x.feature.json")], []⟩

/-- A file that looks like a dump. -/
def noDump : Node := .file (some "\x7b not json")

set_option maxRecDepth 100000 in
/-- The search for a configuration may come upon a broken dump, because it starts there or is led
there by a link, and the option `-v` may be given too often. -/
theorem shown_check_disturbed :
    (Disk.Littered brokenConfigDisk (brokenConfigDisk.put ["sub"] "x.feature.json" noDump) ∧
      (shown Command.sampleEnvironment brokenConfigDisk ["check", "--path", "x.feature.json"]).2 = 0 ∧
      (shown Command.sampleEnvironment (brokenConfigDisk.put ["sub"] "x.feature.json" noDump)
        ["check", "--path", "x.feature.json"]).2 = 2) ∧
    (Disk.Littered linkedConfigDisk (linkedConfigDisk.put [] "x.feature.json" noDump) ∧
      (shown Command.sampleEnvironment linkedConfigDisk ["check"]).2 = 0 ∧
      (shown Command.sampleEnvironment (linkedConfigDisk.put [] "x.feature.json" noDump)
        ["check"]).2 = 2) ∧
    (shown Command.sampleEnvironment linkedConfigDisk ["check", "-v"]).2 = 0 ∧
    (shown Command.sampleEnvironment linkedConfigDisk ["check", "-v", "-v"]).2 = 2 := by
  have hbroken : Dump.Broken (some "\x7b not json") := by
    rintro text htext dump hdump
    cases htext
    have hfails : (Dump.ofText "\x7b not json").isOk = false := by decide +kernel
    rw [hdump] at hfails
    cases hfails
  refine ⟨⟨?_, by decide +kernel, by decide +kernel⟩, ⟨?_, by decide +kernel, by decide +kernel⟩,
    by decide +kernel, by decide +kernel⟩
  · exact .file .clean rfl rfl (by decide) (by decide +kernel) hbroken
  · exact .file .clean rfl rfl (by decide) (by decide +kernel) hbroken

end Request

end FeatureLint
