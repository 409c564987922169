import FeatureLint.Proofs.Tree

namespace FeatureLint

namespace Disk

open FeatureLint.Path (Idle IsName)

/-- What a segment does at a place. -/
inductive Move where
  | go (names : List String)
  | missing
  | link (target : String)
  | blocked (e : FileError)

/-- It hangs on the node alone that the segment is met at. -/
def move (root : Node) (names : List String) (segment : String) : Move :=
  match root.at? names with
  | some (.dir entries) =>
    if segment = "" || segment = "." then .go names
    else if segment = ".." then .go names.dropLast
    else if nameLimit < segment.utf8ByteSize then .blocked .nameTooLong
    else
      match Node.child? entries segment with
      | none => .missing
      | some (.link target) => .link target
      | some _ => .go (names ++ [segment])
  | some _ => .blocked .notDirectory
  | none => .blocked .notFound

section

variable (root : Node) (last : Bool)

/-- One segment of a path: only whether others follow it matters of the rest. -/
theorem step_cons (names : List String) (segment : String) (rest : List String) :
    step root last names (segment :: rest) =
      match move root names segment with
      | .go next => step root last next rest
      | .missing => if rest.isEmpty then .vacant names segment else .blocked .notFound
      | .link target =>
        if rest.isEmpty && !last then .reached (names ++ [segment]) else .linked names target rest
      | .blocked e => .blocked e := by
  rw [step, move]
  cases root.at? names with
  | none => rfl
  | some n =>
    cases n with
    | file text => rfl
    | link target => rfl
    | dir entries =>
      dsimp only
      by_cases hidle : (segment = "" || segment = ".") = true
      · rw [if_pos hidle, if_pos hidle]
      · rw [if_neg hidle, if_neg hidle]
        by_cases hup : segment = ".."
        · rw [if_pos hup, if_pos hup]
        · rw [if_neg hup, if_neg hup]
          by_cases hlong : nameLimit < segment.utf8ByteSize
          · rw [if_pos hlong, if_pos hlong]
          · rw [if_neg hlong, if_neg hlong]
            cases Node.child? entries segment with
            | none => rfl
            | some child => cases child <;> rfl

theorem follow_eq (links : Nat) (names segments : List String) :
    follow root last links names segments =
      match step root last names segments with
      | .linked names target rest =>
        match links with
        | 0 => .blocked .tooManyLinks
        | links + 1 =>
          follow root last links (origin target names) (Path.segments target ++ rest)
      | stop => stop := by
  cases h : step root last names segments <;> cases links <;> rw [follow.eq_def] <;> simp only [h]

end

/-- A segment can do something only in a directory; elsewhere all segments fail alike. -/
theorem move_cases (root : Node) (names : List String) :
    (∃ entries, root.at? names = some (.dir entries)) ∨
      ∃ e, ∀ segment, move root names segment = .blocked e := by
  cases h : root.at? names with
  | none => exact Or.inr ⟨.notFound, fun segment => by simp [move, h]⟩
  | some n =>
    cases n with
    | dir entries => exact Or.inl ⟨entries, rfl⟩
    | file text => exact Or.inr ⟨.notDirectory, fun segment => by simp [move, h]⟩
    | link target => exact Or.inr ⟨.notDirectory, fun segment => by simp [move, h]⟩

theorem move_idle {root : Node} {names : List String} {entries : List (String × Node)}
    (h : root.at? names = some (.dir entries)) {segment : String} (hs : Idle segment) :
    move root names segment = .go names := by
  rcases hs with rfl | rfl <;> simp [move, h]

/-- A name leads to the entry of that name. -/
theorem move_name {root : Node} {names : List String} {entries : List (String × Node)}
    (h : root.at? names = some (.dir entries)) {name : String} (hname : IsName name) :
    move root names name =
      if nameLimit < name.utf8ByteSize then .blocked .nameTooLong
      else
        match Node.child? entries name with
        | none => .missing
        | some (.link target) => .link target
        | some _ => .go (names ++ [name]) := by
  have hbusy : ¬ (name = "" || name = ".") = true := by simpa [Idle] using hname.busy
  simp only [move, h]
  rw [if_neg hbusy, if_neg hname.notUp]

theorem at?_of_move_link {root : Node} {names : List String} {segment target : String}
    (h : move root names segment = .link target) :
    root.at? (names ++ [segment]) = some (.link target) := by
  rcases move_cases root names with ⟨entries, hdir⟩ | ⟨e, hall⟩
  · rw [Node.at?_concat hdir]
    simp only [move, hdir] at h
    split at h
    · cases h
    · split at h
      · cases h
      · split at h
        · cases h
        · split at h <;> simp_all
  · simp [hall] at h

section

variable (root : Node) (last : Bool)

/-- A segment that leads nowhere and has others behind it changes nothing but the rest that a link
leaves to be followed. -/
theorem step_skip (names front : List String) {segment : String} (hs : Idle segment)
    {rest : List String} (hrest : rest ≠ []) :
    step root last names (front ++ segment :: rest) = step root last names (front ++ rest) ∨
      ∃ place target between,
        step root last names (front ++ segment :: rest) =
          .linked place target (between ++ segment :: rest) ∧
        step root last names (front ++ rest) = .linked place target (between ++ rest) := by
  induction front generalizing names with
  | nil =>
    left
    rcases move_cases root names with ⟨entries, hdir⟩ | ⟨e, hall⟩
    · simp only [List.nil_append, step_cons, move_idle hdir hs]
    · cases rest with
      | nil => exact absurd rfl hrest
      | cons next rest => simp only [List.nil_append, step_cons, hall]
  | cons first front ih =>
    have hlong : (front ++ segment :: rest).isEmpty = false := by simp
    have hshort : (front ++ rest).isEmpty = false := by simp [hrest]
    simp only [List.cons_append, step_cons, hlong, hshort]
    cases move root names first with
    | go next => exact ih next
    | missing => exact Or.inl rfl
    | link target => exact Or.inr ⟨names, target, front, rfl, rfl⟩
    | blocked e => exact Or.inl rfl

theorem follow_skip (links : Nat) (names front : List String) {segment : String}
    (hs : Idle segment) {rest : List String} (hrest : rest ≠ []) :
    follow root last links names (front ++ segment :: rest) =
      follow root last links names (front ++ rest) := by
  rw [follow_eq, follow_eq]
  rcases step_skip root last names front hs hrest with h | ⟨place, target, between, h, h'⟩
  · rw [h]
  · rw [h, h']
    cases links with
    | zero => rfl
    | succ links =>
      have hlater := follow_skip links (origin target place) (Path.segments target ++ between)
        hs hrest
      simpa only [List.append_assoc] using hlater

theorem follow_skip_front (links : Nat) (names : List String) {front rest : List String}
    (hfront : ∀ s ∈ front, Idle s) (hrest : rest ≠ []) :
    follow root last links names (front ++ rest) = follow root last links names rest := by
  induction front with
  | nil => rfl
  | cons s front ih =>
    rw [List.cons_append]
    exact (follow_skip root last links names [] (hfront s (by simp)) (by simp [hrest])).trans
      (ih fun t ht => hfront t (by simp [ht]))

/-- Where a path leads with more segments behind it, told from where it leads without them. -/
def Step.extend (more : List String) : Step → Step
  | .reached names => step root last names more
  | .vacant _ _ => .blocked .notFound
  | .linked names target rest => .linked names target (rest ++ more)
  | .blocked e => .blocked e

theorem step_append (names segments : List String) {more : List String} (hmore : more ≠ []) :
    step root last names (segments ++ more) =
      (step root true names segments).extend root last more := by
  induction segments generalizing names with
  | nil => rfl
  | cons segment segments ih =>
    have hlong : (segments ++ more).isEmpty = false := by simp [hmore]
    rw [List.cons_append, step_cons, step_cons, hlong]
    cases move root names segment with
    | go next => exact ih next
    | missing => cases segments <;> rfl
    | link target => cases segments <;> rfl
    | blocked e => rfl

theorem follow_of_stopped {names segments : List String}
    (h : ∀ place target rest, step root last names segments ≠ .linked place target rest)
    (links : Nat) : follow root last links names segments = step root last names segments := by
  rw [follow_eq]
  cases hstep : step root last names segments with
  | linked place target rest => exact absurd hstep (h place target rest)
  | _ => rfl

theorem follow_ne_linked (links : Nat) (names segments place : List String) {target : String}
    {rest : List String} :
    follow root last links names segments ≠ .linked place target rest := by
  rw [follow_eq]
  cases step root last names segments with
  | linked place target rest =>
    cases links with
    | zero => simp
    | succ links => exact follow_ne_linked links _ _ _
  | _ => simp

/-- A last segment is followed from the place that the others lead to, over links and all. -/
theorem follow_concat (links : Nat) (names segments : List String) {segment : String}
    (hs : ∀ names place target rest, step root last names [segment] ≠ .linked place target rest) :
    follow root last links names (segments ++ [segment]) =
      (follow root true links names segments).extend root last [segment] := by
  have happend := step_append root last names segments (List.cons_ne_nil segment [])
  rw [follow_eq root true]
  cases hstep : step root true names segments with
  | linked place target rest =>
    rw [follow_eq, happend, hstep]
    cases links with
    | zero => rfl
    | succ links =>
      have hlater := follow_concat links (origin target place) (Path.segments target ++ rest) hs
      simpa only [List.append_assoc, Step.extend] using hlater
  | reached next =>
    rw [hstep] at happend
    exact (follow_of_stopped root last (fun _ _ _ => happend ▸ hs next _ _ _) links).trans happend
  | vacant place name => rw [follow_eq, happend, hstep]; rfl
  | blocked e => rw [follow_eq, happend, hstep]; rfl

theorem step_false_stopped (names : List String) (segment : String) (place : List String)
    (target : String) (rest : List String) :
    step root false names [segment] ≠ .linked place target rest := by
  rw [step_cons]
  cases move root names segment <;> simp [step]

theorem step_idle {names : List String} {entries : List (String × Node)}
    (h : root.at? names = some (.dir entries)) {segment : String} (hs : Idle segment) :
    step root last names [segment] = .reached names := by
  rw [step_cons, move_idle h hs]
  rfl

theorem step_idle_stopped {segment : String} (hs : Idle segment) (names place : List String)
    (target : String) (rest : List String) :
    step root last names [segment] ≠ .linked place target rest := by
  rcases move_cases root names with ⟨entries, hdir⟩ | ⟨e, hall⟩
  · simp [step_idle root last hdir hs]
  · simp [step_cons, hall]

/-- Behind a path, a segment that leads nowhere asks for a directory. -/
theorem follow_idle_end (links : Nat) (names segments : List String) {segment : String}
    (hs : Idle segment) {place : List String}
    (h : follow root last links names (segments ++ [segment]) = .reached place) :
    ∃ entries, root.at? place = some (.dir entries) := by
  rw [follow_concat root last links names segments (step_idle_stopped root last hs)] at h
  cases hfront : follow root true links names segments with
  | reached next =>
    rw [hfront, Step.extend] at h
    rcases move_cases root next with ⟨entries, hdir⟩ | ⟨e, hall⟩
    · rw [step_idle root last hdir hs] at h
      exact ⟨entries, Step.reached.inj h ▸ hdir⟩
    · simp [step_cons, hall] at h
  | vacant place name => simp [hfront, Step.extend] at h
  | linked place target rest => simp [hfront, Step.extend] at h
  | blocked e => simp [hfront, Step.extend] at h

/-- A name joined to a path is followed from the place that the path leads to. -/
theorem follow_join (links : Nat) (names : List String) {base name : String} (hbase : base ≠ "")
    (hname : '/' ∉ name.toList) :
    follow root false links names (Path.segments (Path.join base name)) =
      (follow root true links names (Path.segments base)).extend root false [name] := by
  rcases Path.segments_join hbase hname with h | ⟨front, hfront, h⟩
  · rw [h]
    exact follow_concat root false links names _ (fun names => step_false_stopped root names name)
  · -- The path ends with a slash, which asks for a directory just as the name behind it does.
    have hslash : Idle "" := Or.inl rfl
    rw [h, hfront,
      follow_concat root false links names _ (fun names => step_false_stopped root names name),
      follow_concat root true links names _ (step_idle_stopped root true hslash)]
    cases hstop : follow root true links names front with
    | reached next =>
      simp only [Step.extend]
      rcases move_cases root next with ⟨entries, hdir⟩ | ⟨e, hall⟩
      · rw [step_idle root true hdir hslash]
      · rw [step_cons root true, step_cons root false, hall, hall]
    | vacant place name => rfl
    | linked place target rest => exact absurd hstop (follow_ne_linked root true links names front place)
    | blocked e => rfl

/-- Without its last link followed, a path leads to the same place or to that link. -/
theorem step_unfollowed (names segments : List String) :
    step root false names segments = step root true names segments ∨
      ∃ place target, step root true names segments = .linked place.dropLast target [] ∧
        step root false names segments = .reached place ∧
        root.at? place = some (.link target) := by
  induction segments generalizing names with
  | nil => exact Or.inl rfl
  | cons segment rest ih =>
    rw [step_cons, step_cons]
    cases hmove : move root names segment with
    | go next => exact ih next
    | missing => exact Or.inl rfl
    | blocked e => exact Or.inl rfl
    | link target =>
      cases rest with
      | cons next rest => exact Or.inl rfl
      | nil =>
        refine Or.inr ⟨names ++ [segment], target, ?_, rfl, ?_⟩
        · simp
        · exact at?_of_move_link hmove

theorem follow_unfollowed (links : Nat) (names segments : List String) :
    follow root false links names segments = follow root true links names segments ∨
      ∃ place target, follow root false links names segments = .reached place ∧
        root.at? place = some (.link target) := by
  rw [follow_eq root false, follow_eq root true]
  rcases step_unfollowed root names segments with h | ⟨place, target, _, h, hlink⟩
  · rw [h]
    cases step root true names segments with
    | linked place target rest =>
      cases links with
      | zero => exact Or.inl rfl
      | succ links => exact follow_unfollowed links _ _
    | _ => exact Or.inl rfl
  · rw [h]
    exact Or.inr ⟨place, target, rfl, hlink⟩

end

/-- Whatever entry a last name leads to is reached, be it a link. -/
theorem place_of_step_name {root : Node} {names place : List String}
    {entries : List (String × Node)} (hdir : root.at? names = some (.dir entries)) {name : String}
    (hname : IsName name) (h : step root false names [name] = .reached place) :
    place = names ++ [name] := by
  rw [step_cons, move_name hdir hname] at h
  split at h
  · rename_i next hgo
    split at hgo
    · cases hgo
    · split at hgo <;> cases hgo
      exact (Step.reached.inj h).symm
  · simp at h
  · exact (Step.reached.inj h).symm
  · cases h

/-- A segment goes on to a node that is there. -/
theorem at?_of_move_go {root : Node} {names next : List String} {segment : String}
    (h : move root names segment = .go next) : ∃ n, root.at? next = some n := by
  rcases move_cases root names with ⟨entries, hdir⟩ | ⟨e, hall⟩
  · simp only [move, hdir] at h
    split at h
    · cases h
      exact ⟨_, hdir⟩
    · split at h
      · cases h
        rcases List.eq_nil_or_concat names with rfl | ⟨front, last, rfl⟩
        · exact ⟨_, hdir⟩
        · rw [List.concat_eq_append, Node.at?_append, Option.bind_eq_some_iff] at hdir
          obtain ⟨n, hn, _⟩ := hdir
          exact ⟨n, by rwa [List.concat_eq_append, List.dropLast_concat]⟩
      · split at h
        · cases h
        · split at h
          · cases h
          · cases h
          · rename_i child _ hchild
            cases h
            exact ⟨child, by rw [Node.at?_concat hdir, hchild]⟩
  · simp [hall] at h

section

variable {root : Node} {names segments place : List String}

theorem at?_of_step {last : Bool} (hsegments : segments ≠ [])
    (h : step root last names segments = .reached place) : ∃ n, root.at? place = some n := by
  induction segments generalizing names with
  | nil => exact absurd rfl hsegments
  | cons segment rest ih =>
    rw [step_cons] at h
    cases hmove : move root names segment with
    | go next =>
      simp only [hmove] at h
      cases rest with
      | nil =>
        obtain rfl := Step.reached.inj h
        exact at?_of_move_go hmove
      | cons other rest => exact ih (by simp) h
    | missing =>
      simp only [hmove] at h
      split at h <;> cases h
    | link target =>
      simp only [hmove] at h
      split at h
      · obtain rfl := Step.reached.inj h
        exact ⟨_, at?_of_move_link hmove⟩
      · cases h
    | blocked e => simp [hmove] at h

/-- A path of some segments leads only to nodes that are there. -/
theorem at?_of_follow {last : Bool} {links : Nat} {names segments : List String}
    (hsegments : segments ≠ []) (h : follow root last links names segments = .reached place) :
    ∃ n, root.at? place = some n := by
  rw [follow_eq] at h
  cases hs : step root last names segments with
  | reached next =>
    rw [hs] at h
    exact at?_of_step hsegments (by rw [hs]; exact h)
  | vacant next name => simp [hs] at h
  | blocked e => simp [hs] at h
  | linked next target rest =>
    rw [hs] at h
    cases links with
    | zero => cases h
    | succ links =>
      refine at?_of_follow ?_ h
      rw [Path.segments_eq]
      simp [Path.segmentsOf_ne_nil]

theorem getLast?_of_step_vacant {name : String}
    (h : step root false names segments = .vacant place name) : segments.getLast? = some name := by
  induction segments generalizing names with
  | nil => cases h
  | cons segment rest ih =>
    rw [step_cons] at h
    cases hmove : move root names segment with
    | go next =>
      simp only [hmove] at h
      cases rest with
      | nil => cases h
      | cons other rest => simpa using ih h
    | missing =>
      simp only [hmove] at h
      cases rest with
      | nil =>
        cases h
        rfl
      | cons other rest => cases h
    | link target =>
      simp only [hmove] at h
      split at h <;> cases h
    | blocked e => simp [hmove] at h

/-- A link is followed only if the path goes on behind it. -/
theorem getLast?_of_step_linked {target : String} {rest : List String}
    (h : step root false names segments = .linked place target rest) :
    rest ≠ [] ∧ rest.getLast? = segments.getLast? := by
  induction segments generalizing names with
  | nil => cases h
  | cons segment others ih =>
    rw [step_cons] at h
    cases hmove : move root names segment with
    | go next =>
      simp only [hmove] at h
      cases others with
      | nil => cases h
      | cons other others => simpa using ih h
    | missing =>
      simp only [hmove] at h
      split at h <;> cases h
    | link target =>
      simp only [hmove] at h
      cases others with
      | nil => cases h
      | cons other others =>
        cases h
        exact ⟨by simp, by simp⟩
    | blocked e => simp [hmove] at h

/-- If an entry is missing, it is the one that the last segment names. -/
theorem getLast?_of_vacant {links : Nat} {names segments : List String} {name : String}
    (h : follow root false links names segments = .vacant place name) :
    segments.getLast? = some name := by
  rw [follow_eq] at h
  cases hs : step root false names segments with
  | reached next => simp [hs] at h
  | blocked e => simp [hs] at h
  | vacant next other =>
    rw [hs] at h
    exact getLast?_of_step_vacant (by rw [hs]; exact h)
  | linked next target rest =>
    obtain ⟨hrest, hlast⟩ := getLast?_of_step_linked hs
    rw [hs] at h
    cases links with
    | zero => cases h
    | succ links =>
      have hmore := getLast?_of_vacant h
      rw [← hlast, ← hmore, List.getLast?_append_of_ne_nil _ hrest]

end

/-- A path that can be asked for at all. -/
structure Usable (path : String) : Prop where
  nonempty : path ≠ ""
  nulFree : '\x00' ∉ path.toList
  short : path.utf8ByteSize < pathLimit

theorem Usable.of_append {a b c : String} (h : Usable (a ++ b ++ c)) (hb : b ≠ "") : Usable b := by
  refine ⟨hb, ?_, ?_⟩
  · intro hnul
    exact h.nulFree (by simp [hnul])
  · have hsize := h.short
    simp only [String.utf8ByteSize_append] at hsize
    omega

section

variable {d : Disk} {last : Bool} {path : String}

theorem locate_of_usable (h : Usable path) :
    d.locate last path =
      follow d.root last linkLimit (origin path d.current) (Path.segments path) := by
  have hnul : ¬ path.toList.contains '\x00' = true := by simpa using h.nulFree
  have hshort : ¬ pathLimit ≤ path.utf8ByteSize := Nat.not_le.mpr h.short
  rw [locate, if_neg (by simpa using h.nonempty), if_neg hnul, if_neg hshort]

/-- A path that cannot be asked for fails alike on every disk. -/
theorem locate_of_not_usable (h : ¬ Usable path) :
    ∃ e, ∀ (d : Disk) (last : Bool), d.locate last path = .blocked e := by
  by_cases hempty : path.isEmpty = true
  · exact ⟨.notFound, fun d last => by rw [locate, if_pos hempty]⟩
  by_cases hnul : path.toList.contains '\x00' = true
  · exact ⟨.badName, fun d last => by rw [locate, if_neg hempty, if_pos hnul]⟩
  by_cases hlong : pathLimit ≤ path.utf8ByteSize
  · exact ⟨.nameTooLong, fun d last => by
      rw [locate, if_neg hempty, if_neg hnul, if_pos hlong]⟩
  exact absurd ⟨by simpa using hempty, by simpa using hnul, Nat.not_le.mp hlong⟩ h

theorem usable_of_reached {place : List String} (h : d.locate last path = .reached place) :
    Usable path := by
  by_contra hnot
  obtain ⟨e, he⟩ := locate_of_not_usable hnot
  simp [he] at h

theorem nodeAt_eq_ok {s : Step} {n : Node} :
    d.nodeAt s = .ok n ↔ ∃ place, s = .reached place ∧ d.root.at? place = some n := by
  cases s with
  | reached place =>
    simp only [nodeAt]
    cases h : d.root.at? place with
    | none => simp [h]
    | some m => simp [h]
  | _ => simp [nodeAt]

theorem stat_eq_ok {n : Node} :
    d.stat path = .ok n ↔ ∃ place, d.locate true path = .reached place ∧
      d.root.at? place = some n :=
  nodeAt_eq_ok

theorem lstat_eq_ok {n : Node} :
    d.lstat path = .ok n ↔ ∃ place, d.locate false path = .reached place ∧
      d.root.at? place = some n :=
  nodeAt_eq_ok

theorem isFile_iff : d.isFile path = true ↔ ∃ text, d.stat path = .ok (.file text) := by
  unfold isFile
  split
  · rename_i text h
    simp [h]
  · rename_i hnot
    simpa using fun text h => hnot text h

theorem isDir_iff : d.isDir path = true ↔ ∃ entries, d.stat path = .ok (.dir entries) := by
  unfold isDir
  split
  · rename_i entries h
    simp [h]
  · rename_i hnot
    simpa using fun entries h => hnot entries h

theorem pathExists_iff : d.pathExists path = true ↔ ∃ n, d.stat path = .ok n := by
  unfold pathExists
  cases d.stat path <;> simp

/-- Whether or not its last link is followed, a path leads to the same place, unless that is a
link. -/
theorem locate_unfollowed (d : Disk) (path : String) :
    d.locate false path = d.locate true path ∨
      ∃ place target, d.locate false path = .reached place ∧
        d.root.at? place = some (.link target) := by
  by_cases h : Usable path
  · rw [locate_of_usable h, locate_of_usable h]
    exact follow_unfollowed d.root linkLimit _ _
  · obtain ⟨e, he⟩ := locate_of_not_usable h
    exact Or.inl ((he d false).trans (he d true).symm)

theorem stat_of_lstat {n : Node} (h : d.lstat path = .ok n) (hn : ∀ target, n ≠ .link target) :
    d.stat path = .ok n := by
  obtain ⟨place, hplace, hat⟩ := lstat_eq_ok.mp h
  rcases locate_unfollowed d path with hsame | ⟨place', target, hplace', hlink⟩
  · exact stat_eq_ok.mpr ⟨place, hsame ▸ hplace, hat⟩
  · obtain rfl : place' = place := by simpa [hplace'] using hplace
    exact absurd (Option.some.inj (hat.symm.trans hlink)) (hn target)

theorem lstat_of_stat {n : Node} (h : d.stat path = .ok n) :
    d.lstat path = .ok n ∨ ∃ target, d.lstat path = .ok (.link target) := by
  obtain ⟨place, hplace, hat⟩ := stat_eq_ok.mp h
  rcases locate_unfollowed d path with hsame | ⟨place', target, hplace', hlink⟩
  · exact Or.inl (lstat_eq_ok.mpr ⟨place, hsame.trans hplace, hat⟩)
  · exact Or.inr ⟨target, lstat_eq_ok.mpr ⟨place', hplace', hlink⟩⟩

theorem exists_lstat {n : Node} (h : d.stat path = .ok n) : ∃ m, d.lstat path = .ok m := by
  rcases lstat_of_stat h with hn | ⟨target, hlink⟩
  · exact ⟨n, hn⟩
  · exact ⟨.link target, hlink⟩

theorem exists_lstat_of_pathExists (h : d.pathExists path = true) :
    ∃ n, d.lstat path = .ok n := by
  obtain ⟨n, hn⟩ := pathExists_iff.mp h
  exact exists_lstat hn

theorem pathExists_of_isFile (h : d.isFile path = true) : d.pathExists path = true := by
  obtain ⟨content, hfile⟩ := isFile_iff.mp h
  exact pathExists_iff.mpr ⟨_, hfile⟩

theorem path_ne_empty {n : Node} (h : d.lstat path = .ok n) : path ≠ "" := by
  obtain ⟨place, hplace, _⟩ := lstat_eq_ok.mp h
  exact (usable_of_reached hplace).nonempty

/-- A name joined to a path leads somewhere only if the path leads to a directory, and then to the
entry of that name. -/
theorem lstat_join {base name : String} {n : Node} (hbase : base ≠ "") (hname : '/' ∉ name.toList)
    (h : d.lstat (Path.join base name) = .ok n) :
    ∃ entries, d.stat base = .ok (.dir entries) ∧
      (IsName name → Node.child? entries name = some n) := by
  obtain ⟨place, hplace, hat⟩ := lstat_eq_ok.mp h
  have husable := usable_of_reached hplace
  have hfront : Usable base := by
    obtain ⟨rest, hrest⟩ := Path.join_eq_append base hname
    rw [hrest] at husable
    exact Usable.of_append (a := "") (by simpa using husable) hbase
  have horigin : origin (Path.join base name) d.current = origin base d.current := by
    rw [origin, origin, Path.isAbsolute_join hbase hname]
  rw [locate_of_usable husable, horigin, follow_join d.root linkLimit _ hbase hname,
    ← locate_of_usable hfront] at hplace
  cases hlocate : d.locate true base with
  | reached next =>
    rw [hlocate, Step.extend] at hplace
    rcases move_cases d.root next with ⟨entries, hdir⟩ | ⟨e, hall⟩
    · refine ⟨entries, stat_eq_ok.mpr ⟨next, hlocate, hdir⟩, ?_⟩
      intro hn
      rwa [place_of_step_name hdir hn hplace, Node.at?_concat hdir] at hat
    · simp [step_cons, hall] at hplace
  | vacant place name => simp [hlocate, Step.extend] at hplace
  | linked place target rest => simp [hlocate, Step.extend] at hplace
  | blocked e => simp [hlocate, Step.extend] at hplace

/-- A path that is but a start at `.` leads to the current directory. -/
theorem at?_current {base : String} {n : Node} (hbase : Path.components base = [.here])
    (h : d.stat base = .ok n) :
    ∃ entries, n = .dir entries ∧ d.root.at? d.current = some (.dir entries) := by
  obtain ⟨hhere, hidle⟩ := Path.idle_of_components hbase
  obtain ⟨place, hplace, hat⟩ := stat_eq_ok.mp h
  rw [locate_of_usable (usable_of_reached hplace), origin, hhere.not_absolute,
    if_neg Bool.false_ne_true] at hplace
  rcases List.eq_nil_or_concat (Path.segments base) with hnil | ⟨front, segment, hlast⟩
  · exact absurd (Path.segments_eq base ▸ hnil) (Path.segmentsOf_ne_nil _)
  · rw [List.concat_eq_append] at hlast
    have hs : Idle segment := hidle segment (by simp [hlast])
    rw [hlast, follow_skip_front d.root true linkLimit _ (fun s hs => hidle s (by simp [hlast, hs]))
      (by simp), follow_of_stopped d.root true (step_idle_stopped d.root true hs _)] at hplace
    rcases move_cases d.root d.current with ⟨entries, hdir⟩ | ⟨e, hall⟩
    · rw [step_idle d.root true hdir hs] at hplace
      rw [← Step.reached.inj hplace, hdir] at hat
      exact ⟨entries, (Option.some.inj hat).symm, hdir⟩
    · simp [step_cons, hall] at hplace

/-- A name alone leads to the entry of the current directory. -/
theorem lstat_name {base name : String} {entries : List (String × Node)} {n : Node}
    (hbase : Path.components base = [.here]) (hdir : d.stat base = .ok (.dir entries))
    (hname : IsName name) (h : d.lstat name = .ok n) : Node.child? entries name = some n := by
  obtain ⟨_, hsame, hcurrent⟩ := at?_current hbase hdir
  cases hsame
  obtain ⟨place, hplace, hat⟩ := lstat_eq_ok.mp h
  have hsegments : Path.segments name = [name] := by
    rw [Path.segments_eq, Path.segmentsOf_slashFree hname.slashFree, String.ofList_toList]
  rw [locate_of_usable (usable_of_reached hplace), origin,
    Path.not_absolute_of_slashFree hname.slashFree, if_neg Bool.false_ne_true, hsegments,
    follow_of_stopped d.root false (step_false_stopped d.root _ name)] at hplace
  rwa [place_of_step_name hcurrent hname hplace, Node.at?_concat hcurrent] at hat

/-- A file is found without the start at `.` where it is found with it. -/
theorem stat_withoutHere {text : Option String} (h : d.stat path = .ok (.file text)) :
    d.stat (Path.withoutHere path) = .ok (.file text) := by
  by_cases hhere : Path.StartsHere path
  · obtain ⟨place, hplace, hat⟩ := stat_eq_ok.mp h
    have husable := usable_of_reached hplace
    rw [locate_of_usable husable] at hplace
    -- No directory is a file, so the path cannot end with a segment that leads nowhere.
    have hend : ∀ front segment, Path.segments path = front ++ [segment] → ¬ Idle segment := by
      intro front segment hsegs hs
      rw [hsegs] at hplace
      obtain ⟨entries, hdir⟩ := follow_idle_end d.root true linkLimit _ front hs hplace
      simp [hat] at hdir
    obtain ⟨hsegs, _, hslash⟩ := Path.withoutHere_segments hhere
    rcases hsegs with ⟨hall, _⟩ | ⟨front, back, hfront, hback, hsegs⟩
    · rcases List.eq_nil_or_concat (Path.segments path) with hnil | ⟨before, last, hlast⟩
      · exact absurd (Path.segments_eq path ▸ hnil) (Path.segmentsOf_ne_nil _)
      · rw [List.concat_eq_append] at hlast
        exact absurd (hall last (by simp [hlast])) (hend before last hlast)
    · obtain rfl : back = [] := by
        rcases List.eq_nil_or_concat back with hnil | ⟨before, last, rfl⟩
        · exact hnil
        · rw [List.concat_eq_append, ← List.append_assoc] at hsegs
          exact absurd (hback last (by simp)) (hend _ last hsegs)
      rw [List.append_nil] at hsegs
      have hrest : Path.withoutHere path ≠ "" := by
        intro hempty
        rw [hempty] at hsegs
        exact hend front "" hsegs (Or.inl rfl)
      obtain ⟨a, b, hwithin⟩ := Path.withoutHere_within path
      have husable' : Usable (Path.withoutHere path) :=
        Usable.of_append (a := a) (c := b) (hwithin ▸ husable) hrest
      have hrelative : Path.isAbsolute (Path.withoutHere path) = false := by
        rw [← Bool.not_eq_true, Path.isAbsolute_iff]
        exact hslash
      have horigin : origin (Path.withoutHere path) d.current = origin path d.current := by
        rw [origin, origin, hrelative, hhere.not_absolute]
      rw [hsegs, follow_skip_front d.root true linkLimit _ hfront
        (Path.segments_eq _ ▸ Path.segmentsOf_ne_nil _), ← horigin,
        ← locate_of_usable husable'] at hplace
      exact stat_eq_ok.mpr ⟨place, hplace, hat⟩
  · rwa [Path.withoutHere_of_not_startsHere hhere]

end

end Disk

end FeatureLint
