import FeatureLint.Config.Load
import FeatureLint.Proofs.Resolution
import Mathlib.Data.List.TakeWhile

namespace FeatureLint

namespace Path

/-- Paths that start alike differ by the components that their segments stand for. -/
theorem components_of_start {a b : String} {more : List Component}
    (hroot : isAbsolute a = isAbsolute b) (hfirst : (segments a).head? = (segments b).head?)
    (hinner : inner (segments a) = inner (segments b) ++ more) :
    components a = components b ++ more := by
  unfold inner at hinner
  unfold components
  simp only [hroot, hfirst, hinner]
  split
  · rfl
  · split <;> rfl

theorem head?_segmentsOf_append (cs : List Char) (more : List String) :
    (segmentsOf cs ++ more).head? = (segmentsOf cs).head? :=
  List.head?_append_of_ne_nil _ (segmentsOf_ne_nil cs)

/-- The segment behind a slash adds the components that it stands for, and no others. -/
theorem components_behind_slash (front last : List Char) (hlast : '/' ∉ last) :
    components (String.ofList (front ++ '/' :: last)) =
      components (String.ofList (front ++ ['/'])) ++ inner [String.ofList last] := by
  apply components_of_start
  · cases front <;> simp [isAbsolute]
  · rw [segments_ofList, segments_ofList, segmentsOf_append_slash, segmentsOf_append_slash,
      head?_segmentsOf_append, head?_segmentsOf_append]
  · have hempty : inner (segmentsOf []) = [] := inner_idle (by simp [segmentsOf_slashFree, Idle])
    rw [segments_ofList, segments_ofList, segmentsOf_append_slash, segmentsOf_append_slash,
      segmentsOf_slashFree hlast, inner_append, inner_append, hempty, List.append_nil]

/-- A slash at the end of a path that is more than the root does not count. -/
theorem components_end_slash {cs : List Char} (h : cs ≠ []) :
    components (String.ofList (cs ++ ['/'])) = components (String.ofList cs) := by
  rw [← List.append_nil (components (String.ofList cs))]
  apply components_of_start
  · cases cs with
    | nil => exact absurd rfl h
    | cons c cs => simp [isAbsolute]
  · rw [segments_ofList, segments_ofList, segmentsOf_append_slash, head?_segmentsOf_append]
  · have hempty : inner (segmentsOf []) = [] := inner_idle (by simp [segmentsOf_slashFree, Idle])
    rw [segments_ofList, segments_ofList, segmentsOf_append_slash, inner_append, hempty]

theorem components_trimBack (cs : List Char) :
    components (String.ofList (trimBack cs).reverse) = components (String.ofList cs.reverse) := by
  fun_induction trimBack cs with
  | case1 c cs ih =>
    rw [ih, List.reverse_cons (a := '/'), components_end_slash (by simp)]
  | case2 cs ih =>
    have hdot : inner [String.ofList ['.']] = [] := inner_idle (by simp [Idle])
    have hpoint := components_behind_slash cs.reverse ['.'] (by decide)
    rw [hdot, List.append_nil] at hpoint
    rw [ih, List.reverse_cons, List.reverse_cons, List.reverse_cons, List.append_assoc]
    exact hpoint.symm
  | case3 cs => rfl

/-- What is left at the end is no slash, unless it is the root, and no point behind a slash. -/
theorem trimBack_end (cs : List Char) :
    (∀ c rest, trimBack cs ≠ '/' :: c :: rest) ∧ ∀ rest, trimBack cs ≠ '.' :: '/' :: rest := by
  fun_induction trimBack cs with
  | case1 c cs ih => exact ih
  | case2 cs ih => exact ih
  | case3 cs hslash hdot => exact ⟨hslash, hdot⟩

/-- What is taken off a path, backwards, is a segment that leads somewhere, or the start at `.`. -/
theorem parent?_split {path up : String} (h : parent? path = some up) :
    ∃ last rest, last ≠ [] ∧ '/' ∉ last ∧ trimBack path.toList.reverse = last ++ rest ∧
      (rest = [] ∨ last ≠ ['.'] ∧ ∃ more, rest = '/' :: more) ∧
      up = String.ofList (trimBack rest).reverse := by
  obtain ⟨hslash, hdot⟩ := trimBack_end path.toList.reverse
  unfold parent? at h
  generalize trimBack path.toList.reverse = cs at *
  split at h
  · cases h
  · cases h
  · rename_i hnil hroot
    have hup := (Option.some.inj h).symm
    by_cases hmem : '/' ∈ cs
    · obtain ⟨last, more, rfl, hlast⟩ := List.eq_append_cons_of_mem hmem
      have hdrop : (last ++ '/' :: more).dropWhile (· != '/') = '/' :: more := by
        rw [List.dropWhile_append_of_pos, List.dropWhile_cons_of_neg (by simp)]
        intro c hc
        simpa using ne_of_mem_of_not_mem hc hlast
      rw [hdrop] at hup
      refine ⟨last, '/' :: more, ?_, hlast, rfl, Or.inr ⟨?_, more, rfl⟩, hup⟩
      · rintro rfl
        cases more with
        | nil => exact hroot rfl
        | cons c more => exact hslash c more rfl
      · rintro rfl
        exact hdot more rfl
    · have hdrop : cs.dropWhile (· != '/') = [] := by
        rw [List.dropWhile_eq_nil_iff]
        intro c hc
        simpa using ne_of_mem_of_not_mem hc hmem
      rw [hdrop] at hup
      exact ⟨cs, [], hnil, hmem, (List.append_nil cs).symm, Or.inl rfl, hup⟩

theorem length_parent? {path up : String} (h : parent? path = some up) :
    up.length < path.length := by
  obtain ⟨last, rest, hlast, _, hcs, _, rfl⟩ := parent?_split h
  have hpath := (trimBack_suffix path.toList.reverse).length_le
  have hrest := (trimBack_suffix rest).length_le
  have hpos := List.length_pos_iff.mpr hlast
  rw [hcs, List.length_append, List.length_reverse, String.length_toList] at hpath
  rw [String.length_ofList, List.length_reverse]
  omega

/-- A segment that leads somewhere stands for one component. -/
theorem inner_busy {segment : String} (h : ¬ Idle segment) :
    ∃ last, last ≠ .root ∧ inner [segment] = [last] := by
  rcases Component.ofSegment?_busy h with hup | hname
  · exact ⟨.up, by simp, by simp [inner, hup]⟩
  · exact ⟨.name segment, by simp, by simp [inner, hname]⟩

/-- A path of one segment has one component, even if it is just the start at `.`. -/
theorem components_slashFree {cs : List Char} (hne : cs ≠ []) (h : '/' ∉ cs) :
    ∃ last, last ≠ .root ∧ components (String.ofList cs) = [last] := by
  have hsegments : segments (String.ofList cs) = [String.ofList cs] := by
    rw [segments_ofList, segmentsOf_slashFree h]
  by_cases hdot : String.ofList cs = "."
  · exact ⟨.here, by simp, by rw [hdot]; decide⟩
  · have hplain : components (String.ofList cs) = inner [String.ofList cs] := by
      rw [← hsegments]
      apply components_of_plain
      · rw [startsHere_iff, hsegments]
        simpa using hdot
      · intro hhead
        rw [String.toList_ofList] at hhead
        exact h (List.mem_of_mem_head? hhead)
    rw [hplain]
    apply inner_busy
    rintro (hempty | hself)
    · exact hne (String.ofList_eq_empty_iff.mp hempty)
    · exact hdot hself

/-- The way up from a path loses its last component. -/
theorem components_parent? {path up : String} (h : parent? path = some up) :
    ∃ last, last ≠ .root ∧ components path = components up ++ [last] := by
  obtain ⟨last, rest, hne, hlast, hcs, hrest, rfl⟩ := parent?_split h
  have hwhole := components_trimBack path.toList.reverse
  rw [List.reverse_reverse, String.ofList_toList, hcs, List.reverse_append] at hwhole
  rw [components_trimBack, ← hwhole]
  have hslash : '/' ∉ last.reverse := by simpa using hlast
  rcases hrest with rfl | ⟨hdot, more, rfl⟩
  · obtain ⟨c, hroot, hc⟩ := components_slashFree (by simpa using hne) hslash
    exact ⟨c, hroot, hc⟩
  · have hbusy : ¬ Idle (String.ofList last.reverse) := by
      rintro (hempty | hself)
      · exact hne (by simpa using String.ofList_eq_empty_iff.mp hempty)
      · apply hdot
        simpa [← String.toList_inj, List.reverse_eq_iff] using hself
    obtain ⟨c, hroot, hc⟩ := inner_busy hbusy
    refine ⟨c, hroot, ?_⟩
    rw [List.reverse_cons, List.append_assoc, List.singleton_append,
      components_behind_slash _ _ hslash, hc]

/-- Nothing can be taken off the root or off no path at all. -/
theorem components_of_parent?_none {path : String} (h : parent? path = none) :
    components path = [] ∨ components path = [.root] := by
  have hwhole := components_trimBack path.toList.reverse
  rw [List.reverse_reverse, String.ofList_toList] at hwhole
  unfold parent? at h
  split at h
  · rename_i hnil
    rw [hnil] at hwhole
    exact Or.inl (hwhole.symm.trans (by decide))
  · rename_i hroot
    rw [hroot] at hwhole
    exact Or.inr (hwhole.symm.trans (by decide))
  · cases h

theorem inner_name {name : String} (hname : IsName name) : inner [name] = [.name name] := by
  have hself : Component.ofSegment? name = some (.name name) := by
    unfold Component.ofSegment?
    split
    · exact absurd (Or.inl rfl) hname.busy
    · exact absurd (Or.inr rfl) hname.busy
    · exact absurd rfl hname.notUp
    · rfl
  simp [inner, hself]

/-- A name joined to a path is one more component. -/
theorem components_join (dir : String) {name : String} (hname : IsName name) :
    components (join dir name) = components dir ++ [.name name] := by
  by_cases hdir : dir = ""
  · have hjoin : join dir name = name := by
      simp [join, hdir, not_absolute_of_slashFree hname.slashFree]
    have hsegments : segments name = [name] := by
      rw [segments_eq, segmentsOf_slashFree hname.slashFree, String.ofList_toList]
    have hempty : components dir = [] := by rw [hdir]; decide
    rw [hjoin, hempty, List.nil_append, ← inner_name hname, ← hsegments]
    apply components_of_plain
    · rw [startsHere_iff, hsegments]
      simpa using fun hdot => hname.busy (Or.inr hdot)
    · exact mt (isAbsolute_iff name).mpr (by simp [not_absolute_of_slashFree hname.slashFree])
  · unfold join
    rw [not_absolute_of_slashFree hname.slashFree, if_neg Bool.false_ne_true]
    split
    · rename_i hend
      have hlast : dir.toList.getLast? = some '/' := by simpa [hdir] using hend
      obtain ⟨front, hfront⟩ := List.getLast?_eq_some_iff.mp hlast
      have hsplit : dir ++ name = String.ofList (front ++ '/' :: name.toList) := by
        simp [← String.toList_inj, hfront]
      rw [hsplit, components_behind_slash _ _ hname.slashFree, ← hfront, String.ofList_toList,
        String.ofList_toList, inner_name hname]
    · have hsplit : dir ++ "/" ++ name = String.ofList (dir.toList ++ '/' :: name.toList) := by
        simp [← String.toList_inj]
      rw [hsplit, components_behind_slash _ _ hname.slashFree,
        components_end_slash (mt String.toList_eq_nil_iff.mp hdir), String.ofList_toList,
        String.ofList_toList, inner_name hname]

end Path

namespace Disk

open FeatureLint.Path (IsName)

/-- The entry of a name in the directory that a path leads to, be it a link. No path at all stands
for the current directory. -/
def entry? (d : Disk) (dir name : String) : Option Node :=
  match d.stat (if dir = "" then "." else dir) with
  | .ok (.dir entries) => Node.child? entries name
  | _ => none

/-- Segments that lead nowhere lead to where they start. -/
theorem step_idles (root : Node) (last : Bool) {names segments : List String}
    {entries : List (String × Node)} (hdir : root.at? names = some (.dir entries))
    (h : ∀ s ∈ segments, Path.Idle s) : step root last names segments = .reached names := by
  induction segments with
  | nil => rfl
  | cons segment segments ih =>
    rw [step_cons, move_idle hdir (h segment (by simp))]
    exact ih fun s hs => h s (by simp [hs])

variable {d : Disk} {dir name : String}

/-- A name joined to a path is followed from the directory that the path leads to. -/
theorem locate_join (husable : Usable (Path.join dir name)) (hname : '/' ∉ name.toList) :
    d.locate false (Path.join dir name) =
      (d.locate true (if dir = "" then "." else dir)).extend d.root false [name] := by
  by_cases hdir : dir = ""
  · have hjoin : Path.join dir name = name := by
      simp [Path.join, hdir, Path.not_absolute_of_slashFree hname]
    have hsegments : Path.segments name = [name] := by
      rw [Path.segments_eq, Path.segmentsOf_slashFree hname, String.ofList_toList]
    have hhere : Path.Idle "." := Or.inr rfl
    have hdot : d.locate true "." = step d.root true d.current ["."] := by
      rw [locate_of_usable ⟨by decide, by decide, by decide⟩]
      exact follow_of_stopped d.root true (step_idle_stopped d.root true hhere _) linkLimit
    rw [hjoin] at husable
    rw [hjoin, if_pos hdir, hdot, locate_of_usable husable, origin,
      Path.not_absolute_of_slashFree hname, if_neg Bool.false_ne_true, hsegments,
      follow_of_stopped d.root false (step_false_stopped d.root _ name)]
    rcases move_cases d.root d.current with ⟨entries, hcurrent⟩ | ⟨e, hall⟩
    · rw [step_idle d.root true hcurrent hhere, Step.extend]
    · rw [step_cons, step_cons, hall, hall, Step.extend]
  · have hfront : Usable dir := by
      obtain ⟨rest, hrest⟩ := Path.join_eq_append dir hname
      rw [hrest] at husable
      exact Usable.of_append (a := "") (by simpa using husable) hdir
    rw [if_neg hdir, locate_of_usable husable, locate_of_usable hfront, origin, origin,
      Path.isAbsolute_join hdir hname]
    exact follow_join d.root linkLimit _ hdir hname

/-- A path that is not too long leads to the entry that its last name stands for. -/
theorem lstat_join_iff {n : Node} (husable : Usable (Path.join dir name)) (hname : IsName name)
    (hshort : name.utf8ByteSize ≤ nameLimit) :
    d.lstat (Path.join dir name) = .ok n ↔ d.entry? dir name = some n := by
  rw [lstat, locate_join husable hname.slashFree, entry?, stat]
  cases hlocate : d.locate true (if dir = "" then "." else dir) with
  | reached place =>
    rw [Step.extend]
    cases hat : d.root.at? place with
    | none => simp [step_cons, move, nodeAt, hat]
    | some found =>
      cases found with
      | file text => simp [step_cons, move, nodeAt, hat]
      | link target => simp [step_cons, move, nodeAt, hat]
      | dir entries =>
        have hconcat := Node.at?_concat hat name
        rw [step_cons, move_name hat hname, if_neg (Nat.not_lt.mpr hshort)]
        simp only [nodeAt, hat]
        cases hchild : Node.child? entries name with
        | none => simp
        | some child =>
          rw [hchild] at hconcat
          cases child <;> simp [step, hconcat]
  | vacant place other => simp [Step.extend, nodeAt]
  | linked place target rest => simp [Step.extend, nodeAt]
  | blocked e => simp [Step.extend, nodeAt]

/-- A directory has an entry of the name, and the entry leads somewhere. -/
def Shows (d : Disk) (dir name : String) : Prop :=
  (d.entry? dir name).isSome = true ∧ d.pathExists (Path.join dir name) = true

/-- What a path leads to is shown by the directory in front of its last name. -/
theorem shows_iff (hname : IsName name) (hshort : name.utf8ByteSize ≤ nameLimit) :
    d.Shows dir name ↔ d.pathExists (Path.join dir name) = true := by
  refine ⟨And.right, fun h => ⟨?_, h⟩⟩
  obtain ⟨n, hn⟩ := exists_lstat_of_pathExists h
  obtain ⟨place, hplace, _⟩ := lstat_eq_ok.mp hn
  rw [(lstat_join_iff (usable_of_reached hplace) hname hshort).mp hn, Option.isSome_some]

/-- Only links and paths that are too long can hide an entry. -/
theorem shows_iff_entry (hname : IsName name) (hshort : name.utf8ByteSize ≤ nameLimit)
    (husable : Usable (Path.join dir name))
    (hplain : ∀ target, d.entry? dir name ≠ some (.link target)) :
    d.Shows dir name ↔ (d.entry? dir name).isSome = true := by
  refine ⟨And.left, fun h => ?_⟩
  obtain ⟨n, hn⟩ := Option.isSome_iff_exists.mp h
  have hlstat := (lstat_join_iff husable hname hshort).mpr hn
  rw [shows_iff hname hshort, pathExists_iff]
  refine ⟨n, stat_of_lstat hlstat ?_⟩
  rintro target rfl
  exact hplain target hn

end Disk

namespace Config

open FeatureLint.Path (components)

/-- A path and those above it. Of each the last component is taken off to give the next one, until
there is none to take off. -/
inductive Ascent : String → List String → Prop
  | top {path : String} (h : Path.parent? path = none) : Ascent path [path]
  | up {path above : String} {dirs : List String} (h : Path.parent? path = some above)
      (more : Ascent above dirs) : Ascent path (path :: dirs)

theorem ascent_ancestors (n : Nat) (path : String) (h : path.length ≤ n) :
    Ascent path (ancestors n path) := by
  induction n generalizing path with
  | zero =>
    obtain rfl : path = "" := by simpa using h
    exact .top (by decide)
  | succ n ih =>
    rw [ancestors]
    cases hup : Path.parent? path with
    | none => exact .top hup
    | some above =>
      have hshorter := Path.length_parent? hup
      exact .up hup (ih above (by omega))

namespace Ascent

variable {start dir : String} {dirs : List String}

theorem unique {others : List String} (h : Ascent start dirs) (h' : Ascent start others) :
    dirs = others := by
  induction h generalizing others with
  | top hnone =>
    cases h' with
    | top => rfl
    | up hup => simp [hnone] at hup
  | up hup more ih =>
    cases h' with
    | top hnone => simp [hnone] at hup
    | up hup' more' =>
      rw [hup, Option.some.injEq] at hup'
      rw [ih (hup' ▸ more')]

/-- So many steps up, so many components fewer. -/
theorem components_eq (h : Ascent start dirs) {k : Nat} (hk : dirs[k]? = some dir) :
    ∃ gone, gone.length = k ∧ components start = components dir ++ gone := by
  induction h generalizing k with
  | top hnone =>
    obtain ⟨rfl, rfl⟩ : k = 0 ∧ _ = dir := by simpa [List.getElem?_singleton] using hk
    exact ⟨[], rfl, by simp⟩
  | @up path above dirs hup more ih =>
    cases k with
    | zero =>
      obtain rfl : path = dir := by simpa using hk
      exact ⟨[], rfl, by simp⟩
    | succ k =>
      obtain ⟨gone, hgone, habove⟩ := ih (by simpa using hk)
      obtain ⟨last, _, hlast⟩ := Path.components_parent? hup
      exact ⟨gone ++ [last], by simp [hgone], by rw [hlast, habove, List.append_assoc]⟩

/-- The way ends where nothing is left but the root, or not even that. -/
theorem components_top (h : Ascent start dirs) (hlast : dirs.getLast? = some dir) :
    components dir = [] ∨ components dir = [.root] := by
  induction h with
  | top hnone =>
    obtain rfl : _ = dir := by simpa using hlast
    exact Path.components_of_parent?_none hnone
  | up hup more ih =>
    apply ih
    cases more <;> simpa using hlast

end Ascent

/-- The `k`-th of some directories is the first to show a configuration, and none before it shows
that it is a repository. -/
structure FirstShown (d : Disk) (dirs : List String) (k : Nat) : Prop where
  shown : ∃ dir, dirs[k]? = some dir ∧ d.Shows dir fileName
  least : ∀ j < k, ∀ dir, dirs[j]? = some dir → ¬ d.Shows dir fileName
  within : ∀ j < k, ∀ dir, dirs[j]? = some dir → ¬ d.Shows dir ".git"

section

variable {d : Disk} {dir : String} {dirs : List String} {k : Nat}

theorem firstShown_zero : FirstShown d (dir :: dirs) 0 ↔ d.Shows dir fileName := by
  constructor
  · intro h
    obtain ⟨shown, hshown, h⟩ := h.shown
    obtain rfl : dir = shown := by simpa using hshown
    exact h
  · intro h
    exact ⟨⟨dir, rfl, h⟩, by simp, by simp⟩

theorem firstShown_succ : FirstShown d (dir :: dirs) (k + 1) ↔
    ¬ d.Shows dir fileName ∧ ¬ d.Shows dir ".git" ∧ FirstShown d dirs k := by
  have hbefore : ∀ name, (∀ j < k + 1, ∀ other, (dir :: dirs)[j]? = some other →
      ¬ d.Shows other name) ↔
        ¬ d.Shows dir name ∧ ∀ j < k, ∀ other, dirs[j]? = some other → ¬ d.Shows other name := by
    intro name
    rw [Nat.forall_lt_succ_left]
    simp
  constructor
  · rintro ⟨hshown, hleast, hwithin⟩
    obtain ⟨hhere, hleast⟩ := (hbefore fileName).mp hleast
    obtain ⟨hgit, hwithin⟩ := (hbefore ".git").mp hwithin
    exact ⟨hhere, hgit, hshown, hleast, hwithin⟩
  · rintro ⟨hhere, hgit, hshown, hleast, hwithin⟩
    exact ⟨hshown, (hbefore fileName).mpr ⟨hhere, hleast⟩, (hbefore ".git").mpr ⟨hgit, hwithin⟩⟩

theorem shows_config : d.Shows dir fileName ↔ d.pathExists (Path.join dir fileName) = true :=
  Disk.shows_iff (by decide) (by decide)

theorem shows_git : d.Shows dir ".git" ↔ d.pathExists (Path.join dir ".git") = true :=
  Disk.shows_iff (by decide) (by decide)

/-- The search gives the configuration of the first directory that shows one. -/
theorem firstConfig?_eq_some_iff {path : String} : firstConfig? d dirs = some path ↔
    ∃ k dir, dirs[k]? = some dir ∧ path = Path.join dir fileName ∧ FirstShown d dirs k := by
  induction dirs with
  | nil => simp [firstConfig?]
  | cons first dirs ih =>
    rw [firstConfig?]
    constructor
    · intro h
      by_cases hconfig : d.pathExists (Path.join first fileName) = true
      · rw [if_pos hconfig] at h
        exact ⟨0, first, rfl, (Option.some.inj h).symm,
          firstShown_zero.mpr (shows_config.mpr hconfig)⟩
      rw [if_neg hconfig] at h
      by_cases hgit : d.pathExists (Path.join first ".git") = true
      · rw [if_pos hgit] at h
        cases h
      rw [if_neg hgit] at h
      obtain ⟨k, dir, hk, hpath, hshown⟩ := ih.mp h
      refine ⟨k + 1, dir, by simpa using hk, hpath, firstShown_succ.mpr ⟨?_, ?_, hshown⟩⟩
      · exact mt shows_config.mp hconfig
      · exact mt shows_git.mp hgit
    · rintro ⟨k, dir, hk, rfl, hshown⟩
      cases k with
      | zero =>
        obtain rfl : first = dir := by simpa using hk
        rw [if_pos (shows_config.mp (firstShown_zero.mp hshown))]
      | succ k =>
        obtain ⟨hconfig, hgit, hshown⟩ := firstShown_succ.mp hshown
        rw [if_neg (mt shows_config.mpr hconfig), if_neg (mt shows_git.mpr hgit)]
        exact ih.mpr ⟨k, dir, by simpa using hk, rfl, hshown⟩

end

/-- The configurations of two directories on a way go by different paths. -/
theorem Ascent.join_inj {start dir other : String} {dirs : List String} (h : Ascent start dirs)
    {j k : Nat} (hj : dirs[j]? = some dir) (hk : dirs[k]? = some other)
    (hjoin : Path.join dir fileName = Path.join other fileName) : j = k := by
  have hsame := congrArg components hjoin
  rw [Path.components_join _ (by decide), Path.components_join _ (by decide),
    List.append_left_inj] at hsame
  obtain ⟨gone, rfl, hdir⟩ := h.components_eq hj
  obtain ⟨gone', rfl, hother⟩ := h.components_eq hk
  rw [hdir, hsame, List.append_right_inj] at hother
  rw [hother]

/-- The search gives the configuration of a directory on the way exactly if it is the first. -/
theorem Ascent.firstConfig?_iff {d : Disk} {start dir : String} {dirs : List String}
    (h : Ascent start dirs) {k : Nat} (hk : dirs[k]? = some dir) :
    firstConfig? d dirs = some (Path.join dir fileName) ↔ FirstShown d dirs k := by
  rw [firstConfig?_eq_some_iff]
  constructor
  · rintro ⟨j, other, hj, hjoin, hshown⟩
    rwa [h.join_inj hk hj hjoin]
  · intro hshown
    exact ⟨k, dir, hk, rfl, hshown⟩

theorem firstConfig?_eq_none_iff {d : Disk} {dirs : List String} :
    firstConfig? d dirs = none ↔ ∀ k, ¬ FirstShown d dirs k := by
  rw [Option.eq_none_iff_forall_ne_some]
  constructor
  · intro hnone k hshown
    obtain ⟨dir, hk, _⟩ := hshown.shown
    exact hnone _ (firstConfig?_eq_some_iff.mpr ⟨k, dir, hk, rfl, hshown⟩)
  · intro hnone path hpath
    obtain ⟨k, _, _, _, hshown⟩ := firstConfig?_eq_some_iff.mp hpath
    exact hnone k hshown

theorem Ascent.find?_eq {d : Disk} {start : String} {dirs : List String} (h : Ascent start dirs) :
    find? d start = firstConfig? d dirs := by
  rw [find?, (ascent_ancestors start.length start (Nat.le_refl _)).unique h]

/-- The search goes up from where it starts, one component at a time, until none is left. It gives
the configuration of a directory on the way exactly if that is the first to show one and none below
it shows the mark of a repository, and nothing if there is no such directory. So a configuration
beside the mark is found and one above it is not. To show an entry is to have it, as long as it is
no link and its path is not too long. -/
theorem find?_eq_first (d : Disk) (start : String) :
    ∃ dirs, Ascent start dirs ∧
      (∀ k dir, dirs[k]? = some dir →
        ∃ gone, gone.length = k ∧ components start = components dir ++ gone) ∧
      (∀ dir, dirs.getLast? = some dir → components dir = [] ∨ components dir = [.root]) ∧
      (∀ k dir, dirs[k]? = some dir →
        (find? d start = some (Path.join dir fileName) ↔ FirstShown d dirs k)) ∧
      (find? d start = none ↔ ∀ k, ¬ FirstShown d dirs k) ∧
      (∀ (j k : Nat) (dir above : String), dirs[j]? = some dir → d.Shows dir ".git" → j < k →
        dirs[k]? = some above → find? d start ≠ some (Path.join above fileName)) ∧
      ∀ dir, ∀ name ∈ [fileName, ".git"], Disk.Usable (Path.join dir name) →
        (∀ target, d.entry? dir name ≠ some (.link target)) →
        (d.Shows dir name ↔ (d.entry? dir name).isSome = true) := by
  have hascent := ascent_ancestors start.length start (Nat.le_refl _)
  refine ⟨_, hascent, fun k dir hk => hascent.components_eq hk,
    fun dir hlast => hascent.components_top hlast, fun k dir hk => hascent.firstConfig?_iff hk,
    firstConfig?_eq_none_iff, ?_, ?_⟩
  · intro j k dir above hj hgit hjk hk hfind
    exact ((hascent.firstConfig?_iff hk).mp hfind).within j hjk dir hj hgit
  · intro dir name hname husable hplain
    have hmark : Path.IsName name ∧ name.utf8ByteSize ≤ Disk.nameLimit := by
      simp only [List.mem_cons, List.not_mem_nil, or_false] at hname
      rcases hname with rfl | rfl <;> decide
    exact Disk.shows_iff_entry hmark.1 hmark.2 husable hplain

/-- The configuration is a link that leads nowhere. -/
def danglingConfigDisk : Disk := ⟨.dir [(fileName, .link "gone")], []⟩

/-- Below a configuration there is a directory whose mark is a link that leads nowhere. -/
def danglingMarkDisk : Disk :=
  ⟨.dir [(fileName, .file (some "\x7b\x7d")), ("sub", .dir [(".git", .link "gone")])], []⟩

def configuredDisk : Disk := ⟨.dir [(fileName, .file (some "\x7b\x7d"))], []⟩

/-- The current directory with so many slashes behind it. -/
def slashed : Nat → String
  | 0 => "."
  | n + 1 => slashed n ++ "/"

theorem toList_slashed (n : Nat) : (slashed n).toList = '.' :: List.replicate n '/' := by
  induction n with
  | zero => rfl
  | succ n ih => simp [slashed, ih, List.replicate_succ']

theorem utf8ByteSize_slashed (n : Nat) : (slashed n).utf8ByteSize = n + 1 := by
  induction n with
  | zero => rfl
  | succ n ih => rw [slashed, String.utf8ByteSize_append, ih]; rfl

theorem parent?_slashed (n : Nat) : Path.parent? (slashed n) = some "" := by
  have htrim : Path.trimBack (slashed n).toList.reverse = ['.'] := by
    rw [toList_slashed, List.reverse_cons, List.reverse_replicate]
    induction n with
    | zero => rfl
    | succ n ih => cases n <;> exact ih
  rw [Path.parent?, htrim]
  decide

theorem idle_slashed (n : Nat) : ∀ s ∈ Path.segments (slashed n), Path.Idle s := by
  induction n with
  | zero => decide
  | succ n ih =>
    intro s hs
    have hend : (slashed n ++ "/").toList = (slashed n).toList ++ '/' :: [] := by simp
    rw [slashed, Path.segments_eq, hend, Path.segmentsOf_append_slash, ← Path.segments_eq] at hs
    rcases List.mem_append.mp hs with hs | hs
    · exact ih s hs
    · exact Or.inl (by simpa [Path.segmentsOf_slashFree] using hs)

/-- However many slashes there are, the path leads to the current directory. -/
theorem stat_slashed {d : Disk} {entries : List (String × Node)}
    (hdir : d.root.at? d.current = some (.dir entries)) {n : Nat} (hn : n + 1 < Disk.pathLimit) :
    d.stat (slashed n) = .ok (.dir entries) := by
  have husable : Disk.Usable (slashed n) := by
    refine ⟨?_, ?_, ?_⟩
    · simp [← String.toList_inj, toList_slashed]
    · simp [toList_slashed]
    · rwa [utf8ByteSize_slashed]
  have hrelative : Path.isAbsolute (slashed n) = false := by
    simp [Path.isAbsolute, toList_slashed]
  have hstep := Disk.step_idles d.root true hdir (idle_slashed n)
  rw [Disk.stat_eq_ok]
  refine ⟨d.current, ?_, hdir⟩
  rw [Disk.locate_of_usable husable, Disk.origin, hrelative, if_neg Bool.false_ne_true,
    Disk.follow_of_stopped d.root true (by simp [hstep]), hstep]

/-- A configuration whose path is too long is passed over on the way up, although the directory has
it. -/
theorem find?_slashed {n : Nat} (hn : n + 1 < Disk.pathLimit)
    (hlong : Disk.pathLimit ≤ n + 1 + fileName.utf8ByteSize) :
    Ascent (slashed n) [slashed n, ""] ∧
      (configuredDisk.entry? (slashed n) fileName).isSome = true ∧
      find? configuredDisk (slashed n) = some (Path.join "" fileName) := by
  have hascent : Ascent (slashed n) [slashed n, ""] := .up (parent?_slashed n) (.top (by decide))
  have hentry : ∀ name, configuredDisk.entry? (slashed n) name =
      Node.child? [(fileName, .file (some "\x7b\x7d"))] name := by
    have hstat := stat_slashed (d := configuredDisk) rfl hn
    have hnonempty : slashed n ≠ "" := by simp [← String.toList_inj, toList_slashed]
    intro name
    simp only [Disk.entry?, hnonempty, if_false, hstat]
  have hconfig : ¬ configuredDisk.Shows (slashed n) fileName := by
    rw [shows_config, Disk.pathExists_iff]
    rintro ⟨node, hnode⟩
    obtain ⟨place, hplace, _⟩ := Disk.stat_eq_ok.mp hnode
    have hshort := (Disk.usable_of_reached hplace).short
    have hsize : n + 1 + fileName.utf8ByteSize ≤
        (Path.join (slashed n) fileName).utf8ByteSize := by
      rw [← utf8ByteSize_slashed, Path.join, if_neg (by decide)]
      split
      · rw [String.utf8ByteSize_append]
      · rw [String.utf8ByteSize_append, String.utf8ByteSize_append]
        omega
    omega
  have hgit : ¬ configuredDisk.Shows (slashed n) ".git" := by
    rintro ⟨hthere, _⟩
    rw [hentry] at hthere
    exact absurd hthere (by decide)
  refine ⟨hascent, ?_, ?_⟩
  · rw [hentry]
    decide
  · rw [hascent.find?_eq, firstConfig?_eq_some_iff]
    exact ⟨1, "", rfl, rfl, firstShown_succ.mpr ⟨hconfig, hgit,
      firstShown_zero.mpr (shows_config.mpr (by decide +kernel))⟩⟩

/-- An entry is not always found, nor does it always end the search: a link may lead nowhere, and an
entry whose path is too long is passed over. -/
theorem find?_beside_entries :
    (Ascent "." [".", ""] ∧ (danglingConfigDisk.entry? "." fileName).isSome = true ∧
      find? danglingConfigDisk "." = none) ∧
    (Ascent "sub" ["sub", ""] ∧ (danglingMarkDisk.entry? "sub" ".git").isSome = true ∧
      find? danglingMarkDisk "sub" = some (Path.join "" fileName)) ∧
    (Ascent (slashed 4080) [slashed 4080, ""] ∧
      (configuredDisk.entry? (slashed 4080) fileName).isSome = true ∧
      find? configuredDisk (slashed 4080) = some (Path.join "" fileName)) := by
  refine ⟨⟨.up (by decide) (.top (by decide)), by decide +kernel, by decide +kernel⟩,
    ⟨.up (by decide) (.top (by decide)), by decide +kernel, by decide +kernel⟩, ?_⟩
  exact find?_slashed (by decide) (by decide)

end Config

end FeatureLint
