import FeatureLint.Proofs.Continuation

namespace FeatureLint.Regex

theorem lasting_leadingHyphens (f : Flags) (n m : Nat) (hnm : n ≤ m) (c : OpenClass) :
    Lasting (leadingHyphens f n c) (leadingHyphens f m c) := by
  induction n generalizing m c with
  | zero => exact .none _
  | succ n ih =>
    obtain ⟨m, rfl⟩ : ∃ k, m = k + 1 := ⟨m - 1, by omega⟩
    intro cs a rest h
    cases cs with
    | nil => simp [leadingHyphens] at h
    | cons d ds =>
      rw [leadingHyphens] at h
      split at h
      · rename_i hd
        refine ((ih m (by omega) _).skip f ds a rest h).of_eq (Nat.le_succ _) fun s hs => ?_
        rw [List.cons_append, leadingHyphens, if_pos hd]
      · rename_i hd
        cases h
        refine carries_self fun s hs => ?_
        rw [List.cons_append, leadingHyphens, if_neg hd]

/-- What a class starts with behind its hyphens. -/
def firstBracket (f : Flags) (c : OpenClass) (cs : List Char) : Option (OpenClass × List Char) :=
  match c.items, cs with
  | [], ']' :: cs =>
    match skip f cs with
    | [] => none
    | cs => some (c.add ⟨.single ']'.toNat, 0⟩, cs)
  | _, cs => some (c, cs)

theorem lasting_firstBracket (f : Flags) (c : OpenClass) :
    Lasting (firstBracket f c) (firstBracket f c) := by
  intro cs a rest h
  cases hitems : c.items with
  | cons i items =>
    simp only [firstBracket, hitems] at h
    cases h
    refine carries_self fun s hs => ?_
    simp only [firstBracket, hitems]
  | nil =>
    cases cs with
    | nil =>
      simp only [firstBracket, hitems] at h
      cases h
      refine carries_self fun s hs => ?_
      rcases hs with rfl | rfl | rfl <;> simp [firstBracket, hitems]
    | cons d ds =>
      by_cases hd : d = ']'
      · subst hd
        cases hskip : skip f ds with
        | nil => simp [firstBracket, hitems, hskip] at h
        | cons e es =>
          simp only [firstBracket, hitems, hskip] at h
          cases h
          have hlength := Nat.le_succ_of_le (length_of_skip hskip)
          refine (Lasting.pure _ (e :: es) _ _ rfl).of_eq hlength fun s hs => ?_
          simp [firstBracket, hitems, skip_append hskip hs]
      · simp only [firstBracket, hitems, List.cons.injEq, hd, false_and, imp_self,
          implies_true] at h
        cases h
        refine carries_self fun s hs => ?_
        simp [firstBracket, hitems, hd]

theorem lasting_openClass (f : Flags) : Lasting (openClass f) (openClass f) := by
  have hinner := fun negate => (Lasting.bounded fun n m hnm =>
    lasting_leadingHyphens f n m hnm ⟨negate, none, []⟩).bind (lasting_firstBracket f)
  intro cs a rest h
  cases hskip : skip f cs with
  | nil => simp [openClass, hskip, leadingHyphens] at h
  | cons c ds =>
    have hlength := length_of_skip hskip
    by_cases hc : c = '^'
    · subst hc
      simp only [openClass, hskip] at h
      refine ((hinner true).skip f ds a rest h).of_eq (Nat.le_of_lt hlength) fun s hs => ?_
      simp only [openClass, skip_append hskip hs]
      rfl
    · simp only [openClass, hskip, List.cons.injEq, hc, false_and, imp_self, implies_true] at h
      refine (hinner false (c :: ds) a rest h).of_eq hlength fun s hs => ?_
      simp only [openClass, skip_append hskip hs, List.cons.injEq, hc, false_and, imp_self,
        implies_true]
      rfl

/-- The name of a class such as `[:alpha:]`, and what follows it. -/
def asciiName (f : Flags) (negate : Bool) (cs : List Char) :
    Option (Option Unicode.CodeSet × List Char) :=
  match cs.dropWhile (· != ':') with
  | ':' :: ']' :: rest =>
    (asciiClass? (String.ofList (cs.takeWhile (· != ':')))).map fun s => (f.finish negate s, rest)
  | _ => none

theorem asciiName_append (f : Flags) (negate : Bool) (cs : List Char) {s : List Char}
    (hs : Tail s) :
    asciiName f negate (cs ++ s) = (asciiName f negate cs).map fun p => (p.1, p.2 ++ s) := by
  unfold asciiName
  cases hdrop : cs.dropWhile (· != ':') with
  | nil =>
    have hnone : s.dropWhile (· != ':') = [] := by
      rcases hs with rfl | rfl | rfl <;> decide
    simp [List.dropWhile_append, hdrop, hnone]
  | cons d ds =>
    obtain ⟨htake, hcut⟩ := cut_append hdrop s
    rw [htake, hcut]
    cases ds with
    | nil => rcases hs with rfl | rfl | rfl <;> simp
    | cons e es =>
      by_cases hd : d = ':'
      · by_cases he : e = ']'
        · simp [hd, he, Function.comp_def]
        · simp [he]
      · simp [hd]

theorem length_asciiName {f : Flags} {negate : Bool} {cs rest : List Char}
    {o : Option Unicode.CodeSet} (h : asciiName f negate cs = some (o, rest)) :
    rest.length ≤ cs.length := by
  unfold asciiName at h
  split at h
  · rename_i hdrop
    obtain ⟨s, _, heq⟩ := Option.map_eq_some_iff.mp h
    cases heq
    have hle := (List.dropWhile_suffix (· != ':') (l := cs)).length_le
    rw [hdrop] at hle
    simp only [List.length_cons] at hle
    omega
  · cases h

/-- A class of the form `[:alpha:]` is one, or is none, whatever stands behind. -/
theorem asciiClass_append (f : Flags) (cs : List Char) {s : List Char} (hs : Tail s) :
    asciiClass f (cs ++ s) = (asciiClass f cs).map fun p => (p.1, p.2 ++ s) := by
  cases cs with
  | nil => rcases hs with rfl | rfl | rfl <;> rfl
  | cons c cs =>
    by_cases hc : c = ':'
    · subst hc
      cases cs with
      | nil => rcases hs with rfl | rfl | rfl <;> rfl
      | cons d ds =>
        by_cases hd : d = '^'
        · subst hd
          exact asciiName_append f true ds hs
        · have hplain : ∀ ds, asciiClass f (':' :: d :: ds) = asciiName f false (d :: ds) := by
            intro ds
            simp only [asciiClass, List.cons.injEq, hd, false_and, imp_self, implies_true]
            rfl
          rw [List.cons_append, List.cons_append, hplain, hplain]
          exact asciiName_append f false (d :: ds) hs
    · simp [asciiClass, hc]

theorem length_asciiClass {f : Flags} {cs rest : List Char} {o : Option Unicode.CodeSet}
    (h : asciiClass f cs = some (o, rest)) : rest.length ≤ cs.length := by
  unfold asciiClass at h
  split at h
  · rename_i cs
    have hname := length_asciiName h
    split at hname
    · exact Nat.le_succ_of_le (Nat.le_succ_of_le hname)
    · exact Nat.le_succ_of_le hname
  · cases h

theorem lasting_classItem (f : Flags) : Lasting (classItem f) (classItem f) := by
  refine .cons rfl fun c => ?_
  by_cases hc : c = '\\'
  · subst hc
    exact lasting_escape f
  · intro cs a rest h
    simp only [classItem] at h
    refine (Lasting.pure _ cs a rest h).of_eq (Nat.le_refl _) fun s hs => ?_
    simp only [classItem, Option.pure_def]

theorem dropWhile_isSpace_append (cs : List Char) {s : List Char} (hs : Tail s) :
    (cs ++ s).dropWhile isSpace = cs.dropWhile isSpace ++ s := by
  rw [List.dropWhile_append, hs.dropWhile]
  cases hdrop : cs.dropWhile isSpace with
  | nil => rfl
  | cons c ds => rfl

/-- What is seen behind a hyphen. -/
def seenBehind (f : Flags) (cs : List Char) : List Char :=
  if f.verbose then
    match cs.dropWhile isSpace with
    | '#' :: rest => rest.dropWhile isSpace
    | rest => rest
  else cs

theorem behindHyphen_eq (f : Flags) (cs : List Char) :
    behindHyphen f cs = (seenBehind f cs).head?.or cs.head? := by
  unfold behindHyphen seenBehind
  split
  · rfl
  · rw [Option.or_self]

theorem seenBehind_append (f : Flags) (cs : List Char) {s : List Char} (hs : Tail s) :
    seenBehind f (cs ++ s) = seenBehind f cs ++ s := by
  unfold seenBehind
  split
  · rw [dropWhile_isSpace_append cs hs]
    cases hdrop : cs.dropWhile isSpace with
    | nil => rcases hs with rfl | rfl | rfl <;> rfl
    | cons c ds =>
      by_cases hc : c = '#'
      · subst hc
        exact dropWhile_isSpace_append ds hs
      · simp [hc]
  · rfl

theorem behindHyphen_append {f : Flags} {cs s : List Char} (h : seenBehind f cs ≠ [])
    (hs : Tail s) :
    behindHyphen f (cs ++ s) = behindHyphen f cs := by
  rw [behindHyphen_eq, behindHyphen_eq, seenBehind_append f cs hs]
  cases hseen : seenBehind f cs with
  | nil => exact absurd hseen h
  | cons c ds => rfl

theorem skipVerbose_blank {cs : List Char} (h : ∀ c ∈ cs, isSpace c = true) (n : Nat)
    (hn : cs.length ≤ n) : skipVerbose n cs = [] := by
  induction cs generalizing n with
  | nil => exact skipVerbose_nil n
  | cons c cs ih =>
    obtain ⟨n, rfl⟩ : ∃ k, n = k + 1 := ⟨n - 1, by simp only [List.length_cons] at hn; omega⟩
    obtain ⟨hc, hcs⟩ := List.forall_mem_cons.mp h
    rw [skipVerbose, if_pos hc]
    exact ih hcs n (by simpa using hn)

/-- A comment of blanks is passed over with the blanks in front of it. -/
theorem skipVerbose_blank_comment {cs rest : List Char}
    (hcs : cs.dropWhile isSpace = '#' :: rest) (hrest : ∀ c ∈ rest, isSpace c = true) (n : Nat)
    (hn : cs.length ≤ n) : skipVerbose n cs = [] := by
  induction cs generalizing n with
  | nil => cases hcs
  | cons c cs ih =>
    obtain ⟨n, rfl⟩ : ∃ k, n = k + 1 := ⟨n - 1, by simp only [List.length_cons] at hn; omega⟩
    rw [List.length_cons, Nat.add_le_add_iff_right] at hn
    by_cases hc : isSpace c = true
    · rw [List.dropWhile_cons_of_pos hc] at hcs
      rw [skipVerbose, if_pos hc]
      exact ih hcs n hn
    · rw [List.dropWhile_cons_of_neg hc] at hcs
      cases hcs
      rw [skipVerbose, if_neg hc, if_pos rfl]
      have hsuffix := (List.drop_suffix 1 _).trans (List.dropWhile_suffix (· != '\n') (l := rest))
      apply skipVerbose_blank
      · exact fun c hc => hrest c (hsuffix.subset hc)
      · exact Nat.le_trans hsuffix.length_le hn

/-- Where nothing is seen, nothing is left that could be read. -/
theorem skip_of_seenBehind {f : Flags} {cs : List Char} (h : seenBehind f cs = []) :
    skip f cs = [] := by
  unfold seenBehind at h
  unfold skip
  split at h
  · rename_i hverbose
    rw [if_pos hverbose]
    split at h
    · rename_i hdrop
      exact skipVerbose_blank_comment hdrop (List.dropWhile_eq_nil_iff.mp h) _ (Nat.le_refl _)
    · exact skipVerbose_blank (List.dropWhile_eq_nil_iff.mp h) _ (Nat.le_refl _)
  · rename_i hverbose
    rw [if_neg hverbose]
    exact h

/-- A bracket or a hyphen behind a hyphen is seen. -/
theorem seenBehind_ne_nil {f : Flags} {cs : List Char}
    (h : behindHyphen f cs = some ']' ∨ behindHyphen f cs = some '-') : seenBehind f cs ≠ [] := by
  intro hnone
  rw [behindHyphen_eq, hnone, List.head?_nil, Option.none_or] at h
  have hfirst : ∃ c ds, cs = c :: ds ∧ isSpace c = false ∧ c ≠ '#' := by
    rcases h with h | h <;> obtain ⟨ds, rfl⟩ := List.head?_eq_some_iff.mp h
    · exact ⟨_, ds, rfl, by decide, by decide⟩
    · exact ⟨_, ds, rfl, by decide, by decide⟩
  obtain ⟨c, ds, rfl, hspace, hsign⟩ := hfirst
  simp [seenBehind, hspace, hsign] at hnone

/-- A range of characters, given by its two ends. -/
def rangeOf (f : Flags) (first last : Escape) (cs : List Char) :
    Option (Unicode.CodeSet × List Char) :=
  match first, last with
  | .literal a, .literal b =>
    if a.char ≤ b.char then do return (⟨[(← f.member a, ← f.member b)]⟩, cs) else none
  | _, _ => none

theorem lasting_rangeOf (f : Flags) (first last : Escape) :
    Lasting (rangeOf f first last) (rangeOf f first last) := by
  unfold rangeOf
  split
  · rename_i a b
    by_cases hle : a.char ≤ b.char
    · simp only [if_pos hle]
      exact .choose (f.member a) fun lo => .choose (f.member b) fun hi => .pure _
    · simp only [if_neg hle]
      exact .none _
  · exact .none _

/-- What may follow the first item of a class: a hyphen and the end of a range, or anything else. -/
def rangeEnd (f : Flags) (first : Escape) : List Char → Option (Unicode.CodeSet × List Char)
  | [] => none
  | '-' :: rest =>
    if behindHyphen f rest = some ']' || behindHyphen f rest = some '-' then do
      return (← first.asItem f, '-' :: rest)
    else do
      let (last, rest) ← classItem f (skip f rest)
      rangeOf f first last rest
  | cs => do return (← first.asItem f, cs)

theorem lasting_rangeEnd (f : Flags) (first : Escape) :
    Lasting (rangeEnd f first) (rangeEnd f first) := by
  have hitem := Lasting.choose (first.asItem f) fun s => .pure s
  have hrange := ((lasting_classItem f).skip f).bind fun last => lasting_rangeOf f first last
  intro cs a rest h
  cases cs with
  | nil => cases h
  | cons c ds =>
    by_cases hc : c = '-'
    · subst hc
      rw [rangeEnd] at h
      split at h
      · rename_i hbehind
        have hseen := seenBehind_ne_nil (by simpa using hbehind)
        refine (hitem ('-' :: ds) a rest h).of_eq (Nat.le_refl _) fun s hs => ?_
        rw [List.cons_append, rangeEnd, behindHyphen_append hseen hs, if_pos hbehind]
      · rename_i hbehind
        have hseen : seenBehind f ds ≠ [] := by
          intro hnone
          rw [skip_of_seenBehind hnone] at h
          cases h
        refine (hrange ds a rest h).of_eq (Nat.le_succ _) fun s hs => ?_
        rw [List.cons_append, rangeEnd, behindHyphen_append hseen hs, if_neg hbehind]
    · have hplain : ∀ ds, rangeEnd f first (c :: ds) = do return (← first.asItem f, c :: ds) := by
        intro ds
        simp [rangeEnd, hc]
      rw [hplain] at h
      refine (hitem (c :: ds) a rest h).of_eq (Nat.le_refl _) fun s hs => ?_
      rw [List.cons_append, hplain]

theorem lasting_classRange (f : Flags) : Lasting (classRange f) (classRange f) :=
  (lasting_classItem f).bind fun first => (lasting_rangeEnd f first).skip f

/-- An operator between the items of a class. -/
def operator? : List Char → Option (SetOp × List Char)
  | '&' :: '&' :: cs => some (.inter, cs)
  | '-' :: '-' :: cs => some (.diff, cs)
  | '~' :: '~' :: cs => some (.symmetric, cs)
  | _ => none

theorem operator?_append (cs : List Char) {s : List Char} (hs : Tail s) :
    operator? (cs ++ s) = (operator? cs).map fun p => (p.1, p.2 ++ s) := by
  cases cs with
  | nil => rcases hs with rfl | rfl | rfl <;> rfl
  | cons c cs =>
    cases cs with
    | nil => rcases hs with rfl | rfl | rfl <;> simp [operator?]
    | cons d cs =>
      by_cases hand : c = '&' ∧ d = '&'
      · simp [operator?, hand]
      · by_cases hminus : c = '-' ∧ d = '-'
        · simp [operator?, hminus]
        · by_cases htilde : c = '~' ∧ d = '~'
          · simp [operator?, htilde]
          · have hnone : ∀ rest, operator? (c :: d :: rest) = none := by
              intro rest
              unfold operator?
              split <;> simp_all
            simp only [List.cons_append, hnone, Option.map_none]

/-- Reading on inside a class at an item or an operator. -/
def classRest (f : Flags) (n : Nat) (c : OpenClass) (outer : List OpenClass) (cs : List Char) :
    Option (Nested × List Char) :=
  match operator? cs with
  | some (op, rest) =>
    classLoop f n { c with left := some (op, c.joined f), items := [] } outer rest
  | none => do
    let (s, rest) ← classRange f cs
    classLoop f n (c.add ⟨s, 0⟩) outer rest

theorem classLoop_inside {f : Flags} {n : Nat} {c : OpenClass} {outer : List OpenClass}
    {cs ds : List Char} {d : Char} (hskip : skip f cs = d :: ds) (hopen : d ≠ '[')
    (hclose : d ≠ ']') :
    classLoop f (n + 1) c outer cs = classRest f n c outer (d :: ds) := by
  rw [classLoop, hskip]
  unfold classRest operator?
  split <;> simp_all

theorem length_operator? {cs rest : List Char} {op : SetOp} (h : operator? cs = some (op, rest)) :
    rest.length ≤ cs.length := by
  unfold operator? at h
  split at h <;> cases h <;> exact Nat.le_add_right _ 2

theorem lasting_classRest (f : Flags) {n m : Nat} {outer : List OpenClass}
    (ih : ∀ c, Lasting (classLoop f n c outer) (classLoop f m c outer)) (c : OpenClass) :
    Lasting (classRest f n c outer) (classRest f m c outer) := by
  intro cs a rest h
  unfold classRest at h
  split at h
  · rename_i op rest' hop
    refine (ih _ rest' a rest h).of_eq (length_operator? hop) fun s hs => ?_
    simp only [classRest, operator?_append cs hs, hop, Option.map_some]
  · rename_i hop
    refine (((lasting_classRange f).bind fun s => ih (c.add ⟨s, 0⟩)) cs a rest h).of_eq
      (Nat.le_refl _) fun s hs => ?_
    simp only [classRest, operator?_append cs hs, hop, Option.map_none]

theorem lasting_classLoop (f : Flags) (n m : Nat) (hnm : n ≤ m) (c : OpenClass)
    (outer : List OpenClass) : Lasting (classLoop f n c outer) (classLoop f m c outer) := by
  induction n generalizing m c outer with
  | zero => exact .none _
  | succ n ih =>
    obtain ⟨m, rfl⟩ : ∃ k, m = k + 1 := ⟨m - 1, by omega⟩
    replace ih := ih m (by omega)
    intro cs a rest h
    cases hskip : skip f cs with
    | nil => simp [classLoop, hskip] at h
    | cons d ds =>
      have hlength := length_of_skip hskip
      by_cases hopen : d = '['
      · subst hopen
        cases hascii : asciiClass f ds with
        | some p =>
          obtain ⟨set, rest'⟩ := p
          have hset := Lasting.choose set fun s => ih (c.add ⟨s, 0⟩) outer
          simp only [classLoop, hskip, hascii] at h
          have hle := Nat.le_trans (length_asciiClass hascii) (Nat.le_of_lt hlength)
          refine (hset rest' a rest h).of_eq hle fun s hs => ?_
          simp only [classLoop, skip_append hskip hs, asciiClass_append f ds hs, hascii,
            Option.map_some]
        | none =>
          have hinner := (lasting_openClass f).bind fun inner => ih inner (c :: outer)
          simp only [classLoop, hskip, hascii] at h
          refine (hinner ds a rest h).of_eq (Nat.le_of_lt hlength) fun s hs => ?_
          simp only [classLoop, skip_append hskip hs, asciiClass_append f ds hs, hascii,
            Option.map_none]
      · by_cases hclose : d = ']'
        · subst hclose
          simp only [classLoop, hskip] at h
          cases outer with
          | nil =>
            have hclosed := Lasting.choose (c.close f) fun closed => .pure closed
            refine (hclosed ds a rest h).of_eq (Nat.le_of_lt hlength) fun s hs => ?_
            simp only [classLoop, skip_append hskip hs]
          | cons parent outer =>
            have hclosed := Lasting.choose (c.close f) fun closed => ih (parent.add closed) outer
            refine (hclosed ds a rest h).of_eq (Nat.le_of_lt hlength) fun s hs => ?_
            simp only [classLoop, skip_append hskip hs]
        · rw [classLoop_inside hskip hopen hclose] at h
          have hrest := lasting_classRest f (fun c => ih c outer) c
          refine (hrest (d :: ds) a rest h).of_eq hlength fun s hs => ?_
          rw [classLoop_inside (skip_append hskip hs) hopen hclose, List.cons_append]

theorem lasting_classOf (f : Flags) : Lasting (classOf f) (classOf f) := by
  have hloop := fun n m hnm => (lasting_openClass f).bind fun c => lasting_classLoop f n m hnm c []
  exact .bounded hloop

end FeatureLint.Regex
