import FeatureLint.Command.Run
import FeatureLint.Proofs.Discovery
import Mathlib.Algebra.GroupWithZero.Nat

namespace FeatureLint

/-- The dumps among some files that load, with the files they come from. -/
def Dump.loaded (d : Disk) (files : List String) : List (String × Dump) :=
  files.filterMap fun f => (Dump.load d f).toOption.map (f, ·)

/-- How often a dump violates a rule. -/
def Rule.violationCount (r : Rule) (dump : Dump) : Nat := (r.check dump.stream dump.lines).length

namespace Dump

variable {d : Disk} {f : String} {files : List String}

theorem loaded_cons_of_error {e : LoadError} (h : load d f = .error e) :
    loaded d (f :: files) = loaded d files := by
  simp [loaded, h, Except.toOption]

theorem loaded_cons_of_ok {dump : Dump} (h : load d f = .ok dump) :
    loaded d (f :: files) = (f, dump) :: loaded d files := by
  simp [loaded, h, Except.toOption]

theorem loaded_sublist (d : Disk) (files : List String) :
    ((loaded d files).map (·.1)).Sublist files := by
  induction files with
  | nil => simp [loaded]
  | cons f files ih =>
    cases h : load d f with
    | error e =>
      rw [loaded_cons_of_error h]
      exact ih.cons f
    | ok dump =>
      rw [loaded_cons_of_ok h]
      exact ih.cons_cons f

end Dump

namespace Checker

theorem checkFiles_passed (c : Checker) (d : Disk) (files : List String) :
    (files.map fun f => (f, c.checkFile d f)).filterMap (·.2.toOption) =
      (Dump.loaded d files).map fun l => c.checkDump (Path.featurePath l.1) l.2 := by
  rw [List.filterMap_map, Dump.loaded, List.map_filterMap]
  congr 1
  funext f
  simp only [Function.comp, checkFile]
  cases Dump.load d f <;> rfl

theorem checkFiles_issues (c : Checker) (d : Disk) (files : List String) :
    (c.checkFiles d files).issues =
      Issue.sort ((Dump.loaded d files).flatMap fun l => c.checkDump (Path.featurePath l.1) l.2) := by
  rw [checkFiles, checkFiles_passed, List.flatMap]

theorem checkFiles_checked (c : Checker) (d : Disk) (files : List String) :
    (c.checkFiles d files).checked = (Dump.loaded d files).length := by
  rw [checkFiles, checkFiles_passed, List.length_map]

theorem checkFiles_failures (c : Checker) (d : Disk) (files : List String) :
    (c.checkFiles d files).failures =
      files.filterMap fun f =>
        match Dump.load d f with
        | .error e => some (f, e)
        | .ok _ => none := by
  simp only [checkFiles, List.filterMap_map]
  congr 1
  funext f
  simp only [Function.comp, checkFile]
  cases Dump.load d f <;> rfl

/-- Every file is either loaded or set aside. -/
theorem length_failures (c : Checker) (d : Disk) (files : List String) :
    (c.checkFiles d files).failures.length + (Dump.loaded d files).length = files.length := by
  rw [checkFiles_failures]
  induction files with
  | nil => rfl
  | cons f files ih =>
    cases h : Dump.load d f with
    | error e =>
      rw [Dump.loaded_cons_of_error h]
      simp only [List.filterMap_cons, h, List.length_cons]
      omega
    | ok dump =>
      rw [Dump.loaded_cons_of_ok h]
      simp only [List.filterMap_cons, h, List.length_cons]
      omega

/-- Checked by one rule, a file has as many issues as its dump has violations. -/
theorem length_checkDump (r : Rule) (file : String) (dump : Dump) :
    ((⟨[r]⟩ : Checker).checkDump file dump).length = r.violationCount dump := by
  simp [checkDump, Rule.violationCount]

theorem file_of_mem_checkDump {c : Checker} {file : String} {dump : Dump} {i : Issue}
    (h : i ∈ c.checkDump file dump) : i.file = file := by
  simp only [checkDump, List.mem_flatMap, List.mem_map] at h
  obtain ⟨_, _, _, _, rfl⟩ := h
  rfl

end Checker

namespace Report

/-- The last line of a report on some problems in some files. -/
def summaryLine (colors : Bool) (problems files : Nat) : String :=
  Text.colored colors .red failureMark ++ " " ++ toString problems ++ " "
    ++ Text.colored colors .red (if problems = 1 then "problem" else "problems")
    ++ " in " ++ toString files ++ " " ++ (if files = 1 then "file" else "files") ++ "\n"

theorem nodup_eraseDups (l : List String) : l.eraseDups.Nodup := by
  match l with
  | [] => simp
  | s :: l =>
    rw [List.eraseDups_cons, List.nodup_cons]
    refine ⟨?_, nodup_eraseDups _⟩
    intro h
    simpa using List.mem_eraseDups.mp h
termination_by l.length
decreasing_by exact Nat.lt_succ_of_le (List.length_filter_le _ _)

/-- Different texts can be counted in any list that has each of them once. -/
theorem length_eraseDups {l m : List String} (hm : m.Nodup) (h : ∀ s, s ∈ l ↔ s ∈ m) :
    l.eraseDups.length = m.length := by
  have hperm : l.eraseDups.Perm m := by
    rw [List.perm_ext_iff_of_nodup (nodup_eraseDups l) hm]
    intro s
    rw [List.mem_eraseDups, h]
  exact hperm.length_eq

/-- A report that does not break off has a block for every issue, and then its end. -/
theorem blocks_text {colors : Bool} {width : Nat} {last : String} {issues : List Issue}
    (h : (blocks colors width last issues).fault = none) :
    (blocks colors width last issues).text =
      String.join (issues.map fun i => (block colors width i).text) ++ last := by
  induction issues with
  | nil => simp [blocks]
  | cons i issues ih =>
    rw [blocks] at h ⊢
    cases hfault : (block colors width i).fault with
    | some fault => simp [hfault] at h
    | none =>
      simp only [hfault] at h ⊢
      rw [ih h, List.map_cons, String.join_cons, String.append_assoc]

/-- Unless a check is verbose there is a hint at files that could not be loaded if there are some. -/
theorem parseWarning_of_count (colors : Bool) (count : Nat) :
    parseWarning colors count false =
      if count = 0 then ""
      else Text.warning colors ++ " " ++ toString count ++ " file(s) could not be parsed (use "
        ++ Text.colored colors .cyan "-v" ++ " for details)\n" := by
  rw [parseWarning]
  by_cases hzero : count = 0
  · simp [hzero]
  · simp [hzero, Nat.pos_iff_ne_zero]

end Report

theorem Status.code_ofIssueCount (count : Nat) :
    (Status.ofIssueCount count).code = if 0 < count then 1 else 0 := by
  rw [Status.ofIssueCount]
  by_cases hzero : count = 0
  · simp [hzero, Status.code]
  · simp [hzero, Status.code, Nat.pos_iff_ne_zero]

theorem Issue.perm_sort (issues : List Issue) : (Issue.sort issues).Perm issues :=
  List.mergeSort_perm issues _

namespace Command

theorem isDump_of_mem_dumps {d : Disk} {options : CheckOptions} {config : Config} {f : String}
    (h : f ∈ (dumps d options config).files) : Path.isDump f = true := by
  unfold dumps at h
  split at h <;>
  · obtain ⟨_, _, p, _, hdump, rfl⟩ := Scan.mem_files.mp h
    rw [Path.isDump_withoutHere, hdump]

theorem nodup_dumps (d : Disk) (options : CheckOptions) (config : Config) :
    (dumps d options config).files.Nodup := by
  unfold dumps
  split <;> exact Scan.nodup_files ..

section

variable (r : Rule) (d : Disk) (files : List String)

/-- The issues of some files in a row. -/
def issuesOf : List Issue :=
  (Dump.loaded d files).flatMap fun l =>
    (⟨[r]⟩ : Checker).checkDump (Path.featurePath l.1) l.2

theorem length_issuesOf :
    (issuesOf r d files).length = ((Dump.loaded d files).map (r.violationCount ·.2)).sum := by
  simp only [issuesOf, List.length_flatMap, Checker.length_checkDump]

/-- The feature files of the dumps with violations. -/
def flaggedFiles : List String :=
  ((Dump.loaded d files).filter fun l => 0 < r.violationCount l.2).map (Path.featurePath ·.1)

/-- No two dumps go by one feature file. -/
theorem nodup_flaggedFiles (hnodup : files.Nodup) (hdumps : ∀ f ∈ files, Path.isDump f = true) :
    (flaggedFiles r d files).Nodup := by
  have hdistinct : ((Dump.loaded d files).map (·.1)).Nodup :=
    (Dump.loaded_sublist d files).nodup hnodup
  have hdump : ∀ l ∈ Dump.loaded d files, Path.isDump l.1 = true := fun l hl =>
    hdumps _ ((Dump.loaded_sublist d files).subset (List.mem_map_of_mem hl))
  refine List.Nodup.map_on ?_ (hdistinct.of_map.filter _)
  intro l hl m hm heq
  have hl := List.mem_of_mem_filter hl
  have hm := List.mem_of_mem_filter hm
  exact List.inj_on_of_nodup_map hdistinct hl hm
    (Path.featurePath_injective (hdump l hl) (hdump m hm) heq)

theorem mem_flaggedFiles {file : String} :
    file ∈ flaggedFiles r d files ↔ ∃ i ∈ issuesOf r d files, i.file = file := by
  simp only [flaggedFiles, issuesOf, List.mem_map, List.mem_filter, List.mem_flatMap,
    decide_eq_true_eq]
  constructor
  · rintro ⟨l, ⟨hl, hcount⟩, rfl⟩
    rw [← Checker.length_checkDump r (Path.featurePath l.1), List.length_pos_iff_exists_mem]
      at hcount
    obtain ⟨i, hi⟩ := hcount
    exact ⟨i, ⟨l, hl, hi⟩, Checker.file_of_mem_checkDump hi⟩
  · rintro ⟨i, ⟨l, hl, hi⟩, rfl⟩
    refine ⟨l, ⟨hl, ?_⟩, (Checker.file_of_mem_checkDump hi).symm⟩
    rw [← Checker.length_checkDump r (Path.featurePath l.1)]
    exact List.length_pos_of_mem hi

/-- Files with issues are counted as the dumps with violations. -/
theorem count_files (hnodup : files.Nodup) (hdumps : ∀ f ∈ files, Path.isDump f = true)
    {issues : List Issue} (hissues : issues.Perm (issuesOf r d files)) :
    (issues.map (·.file)).eraseDups.length =
      (Dump.loaded d files).countP fun l => 0 < r.violationCount l.2 := by
  have hmem : ∀ file, file ∈ issues.map (·.file) ↔ file ∈ flaggedFiles r d files := by
    intro file
    rw [mem_flaggedFiles]
    simp only [List.mem_map, hissues.mem_iff]
  rw [Report.length_eraseDups (nodup_flaggedFiles r d files hnodup hdumps) hmem, flaggedFiles,
    List.length_map, List.countP_eq_length_filter]

end

section

variable {env : Environment} {d : Disk} {options : CheckOptions} {loaded : Config.Loaded}
  {rule : Rule}

/-- What came of a check that goes by one rule. -/
def findings (d : Disk) (options : CheckOptions) (config : Config) (rule : Rule) : Findings :=
  Checker.checkFiles ⟨[rule]⟩ d (dumps d options config).files

theorem runCheck_stdout (hsettings : settings env d options = .ok loaded)
    (hrule : Rule.ofSettings loaded.config.rule = .ok rule) :
    (runCheck env d options).stdout =
      (reportText env (findings d options loaded.config rule)).text := by
  simp only [runCheck, hsettings, hrule, findings]
  split <;> rfl

theorem runCheck_ending (hsettings : settings env d options = .ok loaded)
    (hrule : Rule.ofSettings loaded.config.rule = .ok rule) :
    (runCheck env d options).ending =
      match (reportText env (findings d options loaded.config rule)).fault with
      | some fault => .error (.report fault)
      | none => .ok (.ofIssueCount (findings d options loaded.config rule).issues.length) := by
  simp only [runCheck, hsettings, hrule]
  cases h : (reportText env (findings d options loaded.config rule)).fault with
  | none =>
    rw [findings] at h
    rw [h, findings]
  | some fault =>
    rw [findings] at h
    rw [h]

/-- A check that is not verbose hints at the files it could not load, and at nothing else. -/
theorem runCheck_stderr (hsettings : settings env d options = .ok loaded)
    (hrule : Rule.ofSettings loaded.config.rule = .ok rule)
    (hreport : (reportText env (findings d options loaded.config rule)).fault = none)
    (hverbose : options.verbose = false) :
    (runCheck env d options).stderr =
      Report.parseWarning env.colors (findings d options loaded.config rule).failures.length
        false := by
  simp only [findings] at hreport
  simp only [runCheck, hsettings, hrule, hreport, whenVerbose, hverbose, findings,
    Bool.false_eq_true, if_false, String.empty_append]

theorem findings_issues_perm (config : Config) :
    (findings d options config rule).issues.Perm
      (issuesOf rule d (dumps d options config).files) := by
  rw [findings, Checker.checkFiles_issues]
  exact Issue.perm_sort _

/-- The report on some issues that does not break off ends with their count and that of the files
they are in. -/
theorem reportText_of_issues {f : Findings} {files : List String} (hnodup : files.Nodup)
    (hdumps : ∀ f ∈ files, Path.isDump f = true)
    (hissues : f.issues.Perm (issuesOf rule d files)) (hsome : f.issues ≠ [])
    (hreport : (reportText env f).fault = none) :
    ∃ issues : List Issue, issues.Perm (issuesOf rule d files) ∧
      (reportText env f).text =
        String.join (issues.map fun i =>
          (Report.block env.colors (Report.gutterWidth issues) i).text) ++
        Report.summaryLine env.colors (issuesOf rule d files).length
          ((Dump.loaded d files).countP fun l => 0 < rule.violationCount l.2) := by
  have hperm : (Issue.sort f.issues).Perm (issuesOf rule d files) :=
    (Issue.perm_sort _).trans hissues
  have hrender : reportText env f = Report.blocks env.colors
      (Report.gutterWidth (Issue.sort f.issues))
      (Report.summary env.colors (Issue.sort f.issues)) (Issue.sort f.issues) := by
    simp [reportText, Report.render, hsome]
  rw [hrender] at hreport ⊢
  refine ⟨_, hperm, ?_⟩
  rw [Report.blocks_text hreport, Report.summary, Report.summaryLine,
    count_files rule d files hnodup hdumps hperm, hperm.length_eq]

end

/-- A check that gets through its report ends with 1 if the dumps that load have violations at all,
and with 0 if not, whatever could not be loaded. Its summary counts the violations and the dumps that
have some, or else it says how many dumps it checked, and unless it is verbose it warns of as many
files as could not be loaded. -/
theorem runCheck_tally (env : Environment) (d : Disk) (options : CheckOptions)
    (loaded : Config.Loaded) (rule : Rule) (hsettings : settings env d options = .ok loaded)
    (hrule : Rule.ofSettings loaded.config.rule = .ok rule)
    (hreport : ∀ fault, (runCheck env d options).ending ≠ .error (.report fault)) :
    let files := (dumps d options loaded.config).files
    let passed := Dump.loaded d files
    let problems := (passed.map (rule.violationCount ·.2)).sum
    files.Nodup ∧
      (runCheck env d options).code = (if 0 < problems then 1 else 0) ∧
      (0 < problems → ∃ issues : List Issue, issues.length = problems ∧
        (runCheck env d options).stdout =
          String.join (issues.map fun i =>
            (Report.block env.colors (Report.gutterWidth issues) i).text) ++
          Report.summaryLine env.colors problems
            (passed.countP fun l => 0 < rule.violationCount l.2)) ∧
      (problems = 0 →
        (runCheck env d options).stdout =
          Text.colored env.colors .green "✓" ++ " " ++ Text.colored env.colors .green
            ("Checked " ++ toString passed.length ++ " feature "
              ++ (if passed.length = 1 then "file" else "files") ++ " - no issues found")
            ++ "\n") ∧
      (options.verbose = false →
        (runCheck env d options).stderr =
          if files.length - passed.length = 0 then ""
          else Text.warning env.colors ++ " " ++ toString (files.length - passed.length)
            ++ " file(s) could not be parsed (use " ++ Text.colored env.colors .cyan "-v"
            ++ " for details)\n") := by
  intro files passed problems
  have hnodup := nodup_dumps d options loaded.config
  have hdumps : ∀ f ∈ files, Path.isDump f = true := fun f => isDump_of_mem_dumps
  have hperm : (findings d options loaded.config rule).issues.Perm (issuesOf rule d files) :=
    findings_issues_perm loaded.config
  have hcount : (findings d options loaded.config rule).issues.length = problems := by
    rw [hperm.length_eq, length_issuesOf]
  have hfault : (reportText env (findings d options loaded.config rule)).fault = none := by
    cases h : (reportText env (findings d options loaded.config rule)).fault with
    | none => rfl
    | some fault =>
      refine absurd ?_ (hreport fault)
      rw [runCheck_ending hsettings hrule, h]
  refine ⟨hnodup, ?_, ?_, ?_, ?_⟩
  · rw [Outcome.code, runCheck_ending hsettings hrule, hfault, hcount]
    exact Status.code_ofIssueCount problems
  · intro hpos
    have hsome : (findings d options loaded.config rule).issues ≠ [] := by
      rw [← List.length_pos_iff, hcount]
      exact hpos
    obtain ⟨issues, hissues, htext⟩ := reportText_of_issues hnodup hdumps hperm hsome hfault
    refine ⟨issues, ?_, ?_⟩
    · rw [hissues.length_eq, length_issuesOf]
    · rw [runCheck_stdout hsettings hrule, htext, length_issuesOf]
  · intro hzero
    have hnone : (findings d options loaded.config rule).issues = [] := by
      rw [← List.length_eq_zero_iff, hcount, hzero]
    rw [runCheck_stdout hsettings hrule, reportText, hnone, List.isEmpty_nil, if_pos rfl, findings,
      Checker.checkFiles_checked]
    rfl
  · intro hverbose
    have hfailures : (findings d options loaded.config rule).failures.length =
        files.length - passed.length :=
      Nat.eq_sub_of_add_eq (Checker.length_failures ⟨[rule]⟩ d files)
    rw [runCheck_stderr hsettings hrule hfault hverbose, hfailures, Report.parseWarning_of_count]

/-- A dump with a comment in front of a scenario. -/
def sampleText : String :=
  "\x7b\"source\":\"\\n  # x\",\"tokens\":[[1,2,2,\"# x\",true]],"
    ++ "\"lines\":[\x7b\"kind\":\"stepHeader\",\"start\":0,\"steps\":[3]\x7d]\x7d"

/-- Beside that dump there is a file that is no text. -/
def sampleDisk : Disk :=
  ⟨.dir [("a.feature.json", .file (some sampleText)), ("b.feature.json", .file none)], []⟩

/-- A dump without lines, and so without violations. -/
def cleanDisk : Disk := ⟨.dir [("c.feature.json", .file (some "\x7b\x7d"))], []⟩

def sampleEnvironment : Environment := ⟨false, none, fun _ => ""⟩

def sampleOptions : CheckOptions := ⟨["a.feature.json", "b.feature.json"], ".", none, false⟩

def cleanOptions : CheckOptions := ⟨[], ".", none, false⟩

set_option maxRecDepth 100000 in
theorem runCheck_tally_sample :
    settings sampleEnvironment sampleDisk sampleOptions = .ok ⟨Config.standard, false⟩ ∧
      Rule.ofSettings Config.standard.rule = .ok Rule.standard ∧
      (runCheck sampleEnvironment sampleDisk sampleOptions).code = 1 ∧
      (∃ shown, (runCheck sampleEnvironment sampleDisk sampleOptions).stdout =
        shown ++ "✘ 1 problem in 1 file\n") ∧
      (runCheck sampleEnvironment sampleDisk sampleOptions).stderr =
        "warning: 1 file(s) could not be parsed (use -v for details)\n" ∧
      settings sampleEnvironment cleanDisk cleanOptions = .ok ⟨Config.standard, false⟩ ∧
      (runCheck sampleEnvironment cleanDisk cleanOptions).code = 0 ∧
      (runCheck sampleEnvironment cleanDisk cleanOptions).stdout =
        "✓ Checked 1 feature file - no issues found\n" ∧
      (runCheck sampleEnvironment cleanDisk cleanOptions).stderr = "" := by
  have hsettings :
      settings sampleEnvironment sampleDisk sampleOptions = .ok ⟨Config.standard, false⟩ := by
    decide +kernel
  have hrule : Rule.ofSettings Config.standard.rule = .ok Rule.standard := by decide +kernel
  have hending : (runCheck sampleEnvironment sampleDisk sampleOptions).ending =
      .ok .issuesFound := by decide +kernel
  have hfiles : (dumps sampleDisk sampleOptions Config.standard).files =
      ["a.feature.json", "b.feature.json"] := by decide +kernel
  have hcounts : ((Dump.loaded sampleDisk ["a.feature.json", "b.feature.json"]).map
      (Rule.standard.violationCount ·.2)) = [1] := by decide +kernel
  have hflagged : (Dump.loaded sampleDisk ["a.feature.json", "b.feature.json"]).countP
      (fun l => 0 < Rule.standard.violationCount l.2) = 1 := by
    simpa [List.countP_map, Function.comp_def] using congrArg (List.countP (0 < ·)) hcounts
  have hpassed : (Dump.loaded sampleDisk ["a.feature.json", "b.feature.json"]).length = 1 := by
    simpa using congrArg List.length hcounts
  obtain ⟨_, hcode, hsummary, _, hstderr⟩ := runCheck_tally sampleEnvironment sampleDisk
    sampleOptions _ _ hsettings hrule (by simp [hending])
  simp only [hfiles, hcounts, hflagged, hpassed] at hcode hsummary hstderr
  obtain ⟨issues, _, hstdout⟩ := hsummary (by decide)
  refine ⟨hsettings, hrule, hcode, ⟨_, hstdout⟩, hstderr rfl, ?_⟩
  -- The other disk has one dump, which loads and has no violation.
  have hclean : settings sampleEnvironment cleanDisk cleanOptions =
      .ok ⟨Config.standard, false⟩ := by decide +kernel
  have hfinish : (runCheck sampleEnvironment cleanDisk cleanOptions).ending = .ok .clean := by
    decide +kernel
  have hfound : (dumps cleanDisk cleanOptions Config.standard).files = ["c.feature.json"] := by
    decide +kernel
  have hnone : ((Dump.loaded cleanDisk ["c.feature.json"]).map
      (Rule.standard.violationCount ·.2)) = [0] := by decide +kernel
  have hone : (Dump.loaded cleanDisk ["c.feature.json"]).length = 1 := by
    simpa using congrArg List.length hnone
  obtain ⟨_, hcode, _, hsuccess, hstderr⟩ := runCheck_tally sampleEnvironment cleanDisk
    cleanOptions _ _ hclean hrule (by simp [hfinish])
  simp only [hfound, hnone, hone] at hcode hsuccess hstderr
  exact ⟨hclean, hcode, hsuccess rfl, hstderr rfl⟩

end Command

end FeatureLint
