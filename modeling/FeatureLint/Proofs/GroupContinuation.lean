import FeatureLint.Proofs.ClassContinuation
import FeatureLint.Regex.Parser

namespace FeatureLint.Regex

theorem lazySign_append (cs : List Char) {s : List Char} (hs : Tail s) :
    lazySign (cs ++ s) = lazySign cs ++ s := by
  cases cs with
  | nil => rcases hs with rfl | rfl | rfl <;> rfl
  | cons c cs =>
    by_cases hc : c = '?'
    · subst hc
      rfl
    · simp [lazySign, hc]

theorem length_lazySign (cs : List Char) : (lazySign cs).length ≤ cs.length := by
  unfold lazySign
  split
  · exact Nat.le_succ _
  · exact Nat.le_refl _

theorem lasting_lazySign {α : Type} (a : α) :
    Lasting (fun cs => some (a, lazySign cs)) (fun cs => some (a, lazySign cs)) := by
  intro cs b rest h
  cases h
  refine ⟨length_lazySign cs, _, trails_append _, fun s hs => ?_⟩
  simp only [lazySign_append cs hs]

theorem lasting_blanks {α : Type} {read later : List Char → Option (α × List Char)}
    (h : Lasting read later) :
    Lasting (fun cs => read (cs.dropWhile isSpace)) (fun cs => later (cs.dropWhile isSpace)) := by
  intro cs a rest hread
  refine (h _ a rest hread).of_eq (List.dropWhile_suffix isSpace).length_le fun s hs => ?_
  rw [dropWhile_isSpace_append cs hs]

theorem lasting_finish (acc : Option Nat) : Lasting (count.finish acc) (count.finish acc) := by
  refine .choose acc fun n => ?_
  by_cases hn : n < 0x100000000
  · simp only [if_pos hn]
    exact lasting_blanks (Lasting.pure n)
  · simp only [if_neg hn]
    exact .none _

theorem lasting_count (f : Flags) (n m : Nat) (hnm : n ≤ m) (acc : Option Nat) :
    Lasting (count f n acc) (count f m acc) := by
  induction n generalizing m acc with
  | zero => exact .none _
  | succ n ih =>
    obtain ⟨m, rfl⟩ : ∃ k, m = k + 1 := ⟨m - 1, by omega⟩
    intro cs a rest h
    cases cs with
    | nil =>
      refine (lasting_finish acc [] a rest h).of_eq (Nat.le_refl _) fun s hs => ?_
      rcases hs with rfl | rfl | rfl <;> rfl
    | cons c cs =>
      rw [count] at h
      split at h
      · rename_i hdigit
        refine ((ih m (by omega) _).skip f cs a rest h).of_eq (Nat.le_succ _) fun s hs => ?_
        rw [List.cons_append, count, if_pos hdigit]
      · rename_i hdigit
        refine (lasting_finish acc (c :: cs) a rest h).of_eq (Nat.le_refl _) fun s hs => ?_
        rw [List.cons_append, count, if_neg hdigit]

theorem lasting_countAt (f : Flags) : Lasting (countAt f) (countAt f) :=
  .bounded fun n m hnm => lasting_blanks (lasting_count f n m hnm none)

theorem lasting_upperBound (f : Flags) (least : Nat) :
    Lasting (upperBound f least) (upperBound f least) := by
  intro cs a rest h
  cases cs with
  | nil =>
    cases h
    refine carries_self fun s hs => ?_
    rcases hs with rfl | rfl | rfl <;> rfl
  | cons c cs =>
    by_cases hc : c = ','
    · subst hc
      cases hskip : skip f cs with
      | nil =>
        simp [upperBound, hskip, countAt, count, count.finish] at h
      | cons d ds =>
        have hlength := length_of_skip hskip
        by_cases hd : d = '\x7d'
        · subst hd
          simp only [upperBound, hskip] at h
          refine (Lasting.pure _ ('\x7d' :: ds) a rest h).of_eq (Nat.le_succ_of_le hlength) ?_
          intro s hs
          simp only [List.cons_append, upperBound, skip_append hskip hs, Option.pure_def]
        · have hmost := (lasting_countAt f).map (some ·)
          simp only [upperBound, hskip, List.cons.injEq, hd, false_and, imp_self,
            implies_true] at h
          refine (hmost (d :: ds) a rest h).of_eq (Nat.le_succ_of_le hlength) fun s hs => ?_
          simp [upperBound, skip_append hskip hs, hd]
    · simp only [upperBound, List.cons.injEq, hc, false_and, imp_self, implies_true] at h
      cases h
      refine carries_self fun s hs => ?_
      simp [upperBound, hc]

/-- The end of a repetition whose bounds were read. -/
def repetitionEnd (f : Flags) (least : Nat) (most : Option Nat) :
    List Char → Option ((Nat × Option Nat) × List Char)
  | '\x7d' :: cs =>
    if most.all (least ≤ ·) then some ((least, most), lazySign (skip f cs)) else none
  | _ => none

theorem lasting_repetitionEnd (f : Flags) (least : Nat) (most : Option Nat) :
    Lasting (repetitionEnd f least most) (repetitionEnd f least most) := by
  refine .cons rfl fun c => ?_
  by_cases hc : c = '\x7d'
  · subst hc
    by_cases hmost : most.all (least ≤ ·) = true
    · simp only [repetitionEnd, if_pos hmost]
      exact (lasting_lazySign (least, most)).skip f
    · simp only [repetitionEnd, if_neg hmost]
      exact .none _
  · simp only [repetitionEnd, List.cons.injEq, hc, false_and, imp_self, implies_true]
    exact .none _

theorem lasting_repetition (f : Flags) : Lasting (repetition f) (repetition f) :=
  ((lasting_countAt f).skip f).bind fun least =>
    (lasting_upperBound f least).bind fun most => lasting_repetitionEnd f least most

/-- The modes with the one of a letter switched. -/
def Flags.switched? (f : Flags) (on : Bool) : Char → Option Flags
  | 'i' => some { f with ignoreCase := on }
  | 'm' => some { f with multiLine := on }
  | 's' => some { f with dotAll := on }
  | 'U' => some f
  | 'u' => some { f with unicode := on }
  | 'R' => some { f with crlf := on }
  | 'x' => some { f with verbose := on }
  | _ => none

theorem modes_letter {negative : Bool} {seen : List Char} {f : Flags} {c : Char} {cs : List Char}
    (hstop : ¬ (c = ':' || c = ')') = true) (hseen : ¬ seen.contains c = true) (hminus : c ≠ '-') :
    modes negative seen f (c :: cs) =
      (f.switched? (!negative) c).bind fun f => modes negative (c :: seen) f cs := by
  rw [modes, if_neg hstop, if_neg hseen, if_neg hminus]
  unfold Flags.switched?
  split <;> simp [*]

theorem modes_append {negative : Bool} {seen : List Char} {f g : Flags} {stop : Char}
    {cs rest : List Char} (h : modes negative seen f cs = some (g, stop, rest)) :
    rest.length ≤ cs.length ∧ ∀ s, modes negative seen f (cs ++ s) = some (g, stop, rest ++ s) := by
  induction cs generalizing negative seen f with
  | nil => cases h
  | cons c cs ih =>
    by_cases hstop : (c = ':' || c = ')') = true
    · rw [modes, if_pos hstop] at h
      split at h
      · cases h
      · rename_i hhyphen
        cases h
        refine ⟨Nat.le_succ _, fun s => ?_⟩
        rw [List.cons_append, modes, if_pos hstop, if_neg hhyphen]
    · by_cases hseen : seen.contains c = true
      · rw [modes, if_neg hstop, if_pos hseen] at h
        cases h
      · by_cases hminus : c = '-'
        · rw [modes, if_neg hstop, if_neg hseen, if_pos hminus] at h
          obtain ⟨hlength, hmore⟩ := ih h
          refine ⟨Nat.le_succ_of_le hlength, fun s => ?_⟩
          rw [List.cons_append, modes, if_neg hstop, if_neg hseen, if_pos hminus, hmore s]
        · rw [modes_letter hstop hseen hminus] at h
          obtain ⟨f', hmode, hrest⟩ := Option.bind_eq_some_iff.mp h
          obtain ⟨hlength, hmore⟩ := ih hrest
          refine ⟨Nat.le_succ_of_le hlength, fun s => ?_⟩
          rw [List.cons_append, modes_letter hstop hseen hminus, hmode, Option.bind_some, hmore s]

theorem groupName_append {cs rest : List Char} {name : String}
    (h : groupName cs = some (name, rest)) :
    rest.length ≤ cs.length ∧ ∀ s, groupName (cs ++ s) = some (name, rest ++ s) := by
  unfold groupName at h
  simp only at h
  split at h
  · rename_i c word more hword hmore
    split at h
    · rename_i hchars
      cases h
      have hlength := (List.dropWhile_suffix (· != '>') (l := cs)).length_le
      rw [hmore, List.length_cons] at hlength
      refine ⟨Nat.le_of_succ_le hlength, fun s => ?_⟩
      obtain ⟨hname, hrest⟩ := cut_append hmore s
      simp only [groupName, hname, hrest, hword, if_pos hchars]
    · cases h
  · cases h

theorem lasting_groupName : Lasting groupName groupName := by
  intro cs name rest h
  obtain ⟨hlength, hmore⟩ := groupName_append h
  exact ⟨hlength, _, trails_append rest, fun s _ => hmore s⟩

/-- Modes, and whether they hold for a group or from here on. -/
def modeOpening (f : Flags) (cs : List Char) : Option (Opening × List Char) := do
  let (g, stop, cs) ← modes false [] f cs
  return (if stop = ')' then .modes g else .group g none, cs)

theorem lasting_modeOpening (f : Flags) : Lasting (modeOpening f) (modeOpening f) := by
  intro cs a rest h
  obtain ⟨⟨g, stop, more⟩, hmodes, heq⟩ := Option.bind_eq_some_iff.mp h
  cases heq
  obtain ⟨hlength, hmore⟩ := modes_append hmodes
  refine ⟨hlength, _, trails_append rest, fun s _ => ?_⟩
  simp only [modeOpening, hmore s, Option.bind_eq_bind, Option.bind_some, Option.pure_def]

/-- What follows the question mark of an opening. -/
def openingKind (f : Flags) : List Char → Option (Opening × List Char)
  | '=' :: _ => none
  | '!' :: _ => none
  | '<' :: '=' :: _ => none
  | '<' :: '!' :: _ => none
  | 'P' :: '<' :: cs => do
    let (name, cs) ← groupName cs
    return (.group f (some name), cs)
  | '<' :: cs => do
    let (name, cs) ← groupName cs
    return (.group f (some name), cs)
  | ')' :: _ => none
  | cs => modeOpening f cs

theorem lasting_openingKind (f : Flags) : Lasting (openingKind f) (openingKind f) := by
  have hname := lasting_groupName.bind fun name => .pure (Opening.group f (some name))
  intro cs a rest h
  unfold openingKind at h
  split at h
  · cases h
  · cases h
  · cases h
  · cases h
  · rename_i cs
    exact (hname cs a rest h).of_eq (Nat.le_add_right _ 2) fun s hs => rfl
  · rename_i cs hequals hbang
    refine (hname cs a rest h).of_eq (Nat.le_succ _) fun s hs => ?_
    cases cs with
    | nil => cases h
    | cons c cs =>
      have hc : c ≠ '=' ∧ c ≠ '!' := by simp_all
      simp [openingKind, hc]
  · cases h
  · rename_i hequals hbang _ _ hangleP hangle hparen
    refine (lasting_modeOpening f cs a rest h).of_eq (Nat.le_refl _) fun s hs => ?_
    cases cs with
    | nil => cases h
    | cons c cs =>
      have hP : c ≠ 'P' := by
        rintro rfl
        cases h
      have hc : c ≠ '=' ∧ c ≠ '!' ∧ c ≠ '<' ∧ c ≠ ')' := by simp_all
      simp [openingKind, hc, hP]

theorem lasting_opening (f : Flags) : Lasting (opening f) (opening f) := by
  have hkind : ∀ cs ds, skip f cs = '?' :: ds → opening f cs = openingKind f ds := by
    intro cs ds hskip
    rw [opening, hskip]
    unfold openingKind
    split <;> simp_all [modeOpening]
  have hplain : ∀ cs, (∀ ds, skip f cs ≠ '?' :: ds) →
      opening f cs = some (.group f none, skip f cs) := by
    intro cs hskip
    unfold opening
    split <;> simp_all
  intro cs a rest h
  by_cases hmark : ∃ ds, skip f cs = '?' :: ds
  · obtain ⟨ds, hskip⟩ := hmark
    rw [hkind cs ds hskip] at h
    refine (lasting_openingKind f ds a rest h).of_eq (Nat.le_of_lt (length_of_skip hskip)) ?_
    intro s hs
    exact hkind _ _ (skip_append hskip hs)
  · have hnone := not_exists.mp hmark
    rw [hplain cs hnone] at h
    refine ((Lasting.pure _).skip f cs a rest h).of_eq (Nat.le_refl _) fun s hs => ?_
    exact hplain _ ((trails_skip f cs).head_ne (by decide) hnone hs)

/-- The expression of an escape outside of classes. -/
def Escape.asRegex (f : Flags) : Escape → Option Regex
  | .literal l => f.literal l
  | .set s => some (.set s)
  | .look l => some (.look l)

theorem primitive_escape (f : Flags) (cs : List Char) :
    primitive f ('\\' :: cs) =
      escape f cs >>= fun p => p.1.asRegex f >>= fun r => pure (r, p.2) := by
  rw [primitive]
  cases escape f cs with
  | none => rfl
  | some p =>
    obtain ⟨e, rest⟩ := p
    cases e <;> rfl

theorem lasting_primitive (f : Flags) : Lasting (primitive f) (primitive f) := by
  have hescape := (lasting_escape f).bind fun e => .choose (e.asRegex f) fun r => .pure r
  have hliteral := fun c => Lasting.choose (f.literal ⟨c, false⟩) fun r => .pure r
  intro cs a rest h
  unfold primitive at h
  split at h
  · cases h
  · rename_i cs
    have hread := (primitive_escape f cs).symm.trans h
    exact (hescape cs a rest hread).of_eq (Nat.le_succ _) fun s _ => primitive_escape f (cs ++ s)
  · rename_i cs
    exact ((Lasting.choose f.dot fun r => .pure r) cs a rest h).of_eq (Nat.le_succ _) fun _ _ => rfl
  · rename_i cs
    exact ((Lasting.pure _) cs a rest h).of_eq (Nat.le_succ _) fun _ _ => rfl
  · rename_i cs
    exact ((Lasting.pure _) cs a rest h).of_eq (Nat.le_succ _) fun _ _ => rfl
  · rename_i c cs hslash hdot hcaret hdollar
    refine (hliteral c cs a rest h).of_eq (Nat.le_succ _) fun s _ => ?_
    simp only [List.cons_append, primitive]

/-- The groups that are open, and the names that groups have got. -/
structure Nest where
  inner : OpenGroup
  outer : List OpenGroup
  names : List String

namespace Nest

/-- The innermost group replaced. -/
def within (t : Nest) (g : OpenGroup) : Nest := { t with inner := g }

/-- The same groups with others open around them. -/
def inside (t : Nest) (base : List OpenGroup) : Nest := { t with outer := t.outer ++ base }

def enter (t : Nest) : Opening → Option Nest
  | .modes f => some (t.within { t.inner.add .modes with flags := f })
  | .group f none => some ⟨.fresh f, t.inner :: t.outer, t.names⟩
  | .group f (some name) =>
    if t.names.contains name then none
    else some ⟨.fresh f, t.inner :: t.outer, name :: t.names⟩

def leave (t : Nest) : Option Nest :=
  match t.outer with
  | [] => none
  | parent :: outer =>
    some ⟨parent.add (.expr t.inner.content.regex (t.inner.content.height + 1)), outer, t.names⟩

def repeatLast (t : Nest) (least : Nat) (most : Option Nat) : Option Nest :=
  (t.inner.repeatLast least most).map t.within

/-- What is open behind the next piece of a pattern. -/
def step (t : Nest) : List Char → Option (Nest × List Char)
  | '(' :: cs => do
    let (o, cs) ← opening t.inner.flags cs
    return (← t.enter o, cs)
  | ')' :: cs => do return (← t.leave, cs)
  | '|' :: cs =>
    let g := t.inner
    some (t.within { g with branches := sequence g.pieces :: g.branches, pieces := [] }, cs)
  | '[' :: cs => do
    let (c, cs) ← classOf t.inner.flags cs
    return (t.within (t.inner.add (.expr (.set c.set) c.height)), cs)
  | '?' :: cs => do return (← t.repeatLast 0 (some 1), lazySign cs)
  | '*' :: cs => do return (← t.repeatLast 0 none, lazySign cs)
  | '+' :: cs => do return (← t.repeatLast 1 none, lazySign cs)
  | '\x7b' :: cs => do
    let ((least, most), cs) ← repetition t.inner.flags cs
    return (← t.repeatLast least most, cs)
  | cs => do
    let (r, cs) ← primitive t.inner.flags cs
    return (t.within (t.inner.add (.expr r 0)), cs)

/-- The loop over a pattern, with everything that is open in one value. -/
def loop (n : Nat) (t : Nest) (cs : List Char) : Option Piece :=
  groupLoop n t.inner t.outer t.names cs

theorem loop_end {t : Nest} {cs : List Char} (n : Nat) (h : skip t.inner.flags cs = []) :
    loop (n + 1) t cs = if t.outer.isEmpty then some t.inner.content else none := by
  rw [loop, groupLoop, h]

theorem loop_step {t : Nest} {cs ds : List Char} {d : Char} (n : Nat)
    (h : skip t.inner.flags cs = d :: ds) :
    loop (n + 1) t cs = t.step (d :: ds) >>= fun p => loop n p.1 p.2 := by
  rw [loop, groupLoop, h]
  -- One case for each character that a piece may start with, in the order of the definition.
  split
  · cases ‹_ = _›
  · cases ‹_ = _›
    simp only [step, Option.bind_eq_bind, Option.bind_assoc]
    cases opening t.inner.flags ds with
    | none => rfl
    | some p =>
      obtain ⟨o, rest⟩ := p
      match o with
      | .modes f => rfl
      | .group f none => rfl
      | .group f (some name) =>
        simp only [Option.bind_some, enter]
        split <;> rfl
  · cases ‹_ = _›
    simp only [step, leave]
    cases t.outer with
    | nil => rfl
    | cons parent outer => rfl
  · cases ‹_ = _›
    rfl
  · cases ‹_ = _›
    simp only [step, Option.bind_eq_bind, Option.bind_assoc]
    rfl
  · cases ‹_ = _›
    simp only [step, repeatLast, Option.bind_eq_bind, Option.bind_assoc, Option.bind_map]
    rfl
  · cases ‹_ = _›
    simp only [step, repeatLast, Option.bind_eq_bind, Option.bind_assoc, Option.bind_map]
    rfl
  · cases ‹_ = _›
    simp only [step, repeatLast, Option.bind_eq_bind, Option.bind_assoc, Option.bind_map]
    rfl
  · cases ‹_ = _›
    simp only [step, repeatLast, Option.bind_eq_bind, Option.bind_assoc, Option.bind_map]
    rfl
  · simp only [step, Option.bind_eq_bind, Option.bind_assoc]
    rfl

theorem lasting_repeatLast (t : Nest) (least : Nat) (most : Option Nat) :
    Lasting (fun cs => t.repeatLast least most >>= fun u => pure (u, lazySign cs))
      (fun cs => t.repeatLast least most >>= fun u => pure (u, lazySign cs)) :=
  .choose _ lasting_lazySign

/-- A step takes the same with something put behind the text. -/
theorem lasting_step (t : Nest) : Lasting t.step t.step := by
  intro cs a rest h
  unfold step at h
  split at h
  · rename_i cs
    have henter := (lasting_opening t.inner.flags).bind fun o =>
      .choose (t.enter o) fun u => .pure u
    exact (henter cs a rest h).of_eq (Nat.le_succ _) fun _ _ => rfl
  · rename_i cs
    have hleave := Lasting.choose t.leave fun u => .pure u
    exact (hleave cs a rest h).of_eq (Nat.le_succ _) fun _ _ => rfl
  · rename_i cs
    exact (Lasting.pure _ cs a rest h).of_eq (Nat.le_succ _) fun _ _ => rfl
  · rename_i cs
    have hclass := (lasting_classOf t.inner.flags).bind fun c =>
      .pure (t.within (t.inner.add (.expr (.set c.set) c.height)))
    exact (hclass cs a rest h).of_eq (Nat.le_succ _) fun _ _ => rfl
  · rename_i cs
    exact (t.lasting_repeatLast 0 (some 1) cs a rest h).of_eq (Nat.le_succ _) fun _ _ => rfl
  · rename_i cs
    exact (t.lasting_repeatLast 0 none cs a rest h).of_eq (Nat.le_succ _) fun _ _ => rfl
  · rename_i cs
    exact (t.lasting_repeatLast 1 none cs a rest h).of_eq (Nat.le_succ _) fun _ _ => rfl
  · rename_i cs
    have hcounted := (lasting_repetition t.inner.flags).bind fun b =>
      .choose (t.repeatLast b.1 b.2) fun u => .pure u
    exact (hcounted cs a rest h).of_eq (Nat.le_succ _) fun _ _ => rfl
  · -- What is put behind comes into play only where nothing is left, and there no piece starts.
    have hplain := (lasting_primitive t.inner.flags).bind fun r =>
      .pure (t.within (t.inner.add (.expr r 0)))
    refine (hplain cs a rest h).of_eq (Nat.le_refl _) fun s hs => ?_
    cases cs with
    | nil => cases h
    | cons d ds =>
      simp_all [step]

theorem enter_inside (t : Nest) (o : Opening) (base : List OpenGroup) :
    (t.inside base).enter o = (t.enter o).map (inside · base) := by
  match o with
  | .modes f => rfl
  | .group f none => rfl
  | .group f (some name) =>
    rw [enter, enter, apply_ite (Option.map _)]
    rfl

theorem leave_inside {t u : Nest} (base : List OpenGroup) (h : t.leave = some u) :
    (t.inside base).leave = some (u.inside base) := by
  obtain ⟨inner, outer, names⟩ := t
  cases outer with
  | nil => cases h
  | cons parent outer =>
    cases h
    rfl

theorem repeatLast_inside (t : Nest) (least : Nat) (most : Option Nat) (base : List OpenGroup) :
    (t.inside base).repeatLast least most = (t.repeatLast least most).map (inside · base) := by
  simp only [repeatLast, Option.map_map]
  rfl

/-- A step does not look at the groups around those that it can close. -/
theorem step_inside {t u : Nest} {cs rest : List Char} (base : List OpenGroup)
    (h : t.step cs = some (u, rest)) : (t.inside base).step cs = some (u.inside base, rest) := by
  unfold step at h
  split at h
  · obtain ⟨⟨o, more⟩, hopening, h⟩ := Option.bind_eq_some_iff.mp h
    obtain ⟨v, henter, h⟩ := Option.bind_eq_some_iff.mp h
    cases h
    refine Option.bind_eq_some_iff.mpr ⟨(o, rest), hopening, ?_⟩
    simp [enter_inside, henter]
  · obtain ⟨v, hleave, h⟩ := Option.bind_eq_some_iff.mp h
    cases h
    exact Option.bind_eq_some_iff.mpr ⟨_, leave_inside base hleave, rfl⟩
  · cases h
    rfl
  · obtain ⟨⟨c, more⟩, hclass, h⟩ := Option.bind_eq_some_iff.mp h
    cases h
    exact Option.bind_eq_some_iff.mpr ⟨(c, rest), hclass, rfl⟩
  · obtain ⟨v, hrepeat, h⟩ := Option.bind_eq_some_iff.mp h
    cases h
    simp [step, repeatLast_inside, hrepeat]
  · obtain ⟨v, hrepeat, h⟩ := Option.bind_eq_some_iff.mp h
    cases h
    simp [step, repeatLast_inside, hrepeat]
  · obtain ⟨v, hrepeat, h⟩ := Option.bind_eq_some_iff.mp h
    cases h
    simp [step, repeatLast_inside, hrepeat]
  · obtain ⟨⟨bounds, more⟩, hbounds, h⟩ := Option.bind_eq_some_iff.mp h
    obtain ⟨v, hrepeat, h⟩ := Option.bind_eq_some_iff.mp h
    cases h
    refine Option.bind_eq_some_iff.mpr ⟨(bounds, rest), hbounds, ?_⟩
    simp [repeatLast_inside, hrepeat]
  · obtain ⟨⟨r, more⟩, hplain, h⟩ := Option.bind_eq_some_iff.mp h
    cases h
    unfold step
    simp only
    exact Option.bind_eq_some_iff.mpr ⟨(r, rest), hplain, rfl⟩

/-- A pattern that is read to its end is read inside other groups, and with something behind it, to
the same end: the same groups are closed, and all that is left is what was put behind, unless the
pattern ends inside a comment. -/
theorem loop_inside {n : Nat} {t : Nest} {cs : List Char} {tail : List Char → List Char}
    {piece : Piece} (htail : Trails cs tail) (h : loop n t cs = some piece) :
    ∃ (u : Nest) (left : List Char → List Char),
      u.outer = [] ∧ u.inner.content = piece ∧ Trails [] left ∧
      ∀ s, Tail s → ∀ base m, n ≤ m → ∃ k rest, m ≤ k + n ∧ skip u.inner.flags rest = left s ∧
        loop m (t.inside base) (tail s) = loop (k + 1) (u.inside base) rest := by
  -- By the rounds of the loop; what is left is told for every text put behind at once, so that a
  -- comment that has swallowed it stays told.
  induction n generalizing t cs tail with
  | zero => cases h
  | succ n ih =>
    have hskipped := htail.skip t.inner.flags
    cases hskip : skip t.inner.flags cs with
    | nil =>
      rw [hskip] at hskipped
      rw [loop_end n hskip] at h
      split at h
      · rename_i houter
        cases h
        refine ⟨t, _, List.isEmpty_iff.mp houter, rfl, hskipped, fun s hs base m hm => ?_⟩
        obtain ⟨m, rfl⟩ : ∃ k, m = k + 1 := ⟨m - 1, by omega⟩
        exact ⟨m, tail s, by omega, rfl, rfl⟩
      · cases h
    | cons d ds =>
      rw [loop_step n hskip, ← hskip] at h
      obtain ⟨⟨t', rest'⟩, hstep, hloop⟩ := Option.bind_eq_some_iff.mp h
      obtain ⟨left', htrails', hsteps⟩ := (lasting_step t).after hskipped hstep
      obtain ⟨u, left, houter, hcontent, htrails, hend⟩ := ih htrails' hloop
      refine ⟨u, left, houter, hcontent, htrails, fun s hs base m hm => ?_⟩
      obtain ⟨m, rfl⟩ : ∃ k, m = k + 1 := ⟨m - 1, by omega⟩
      obtain ⟨k, rest, hk, hrest, hsame⟩ := hend s hs base m (by omega)
      refine ⟨k, rest, by omega, hrest, ?_⟩
      rw [hskip] at hskipped
      have hhead := hskipped.at_cons hs
      have hinside := step_inside base (hsteps s hs)
      simp only [hhead] at hinside
      rw [loop_step (t := t.inside base) m hhead, hinside]
      exact hsame

end Nest

end FeatureLint.Regex
