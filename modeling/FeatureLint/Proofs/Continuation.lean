import FeatureLint.Regex.Class
import Mathlib.Data.List.TakeWhile

namespace FeatureLint.Regex

/-- What may be put behind a pattern: nothing, the end of a group, or this and the end of the
text. -/
def Tail (s : List Char) : Prop := s = [] ∨ s = [')'] ∨ s = [')', '$']

theorem tail_nil : Tail [] := Or.inl rfl

/-- What is left of a text when something is put behind it, given what was left without that: it
stands behind what was left, or a comment has swallowed it. -/
def Trails (rest : List Char) (left : List Char → List Char) : Prop :=
  (∀ s, Tail s → left s = rest ++ s) ∨ rest = [] ∧ ∀ s, Tail s → left s = []

/-- A reader takes a value from a text with something behind it, and leaves of the text what is told
apart from that. -/
def Carries {α : Type} (read : List Char → Option (α × List Char)) (cs : List Char) (a : α)
    (rest : List Char) : Prop :=
  rest.length ≤ cs.length ∧
    ∃ left, Trails rest left ∧ ∀ s, Tail s → read (cs ++ s) = some (a, left s)

/-- What the first reader takes from a text the second takes from it with something behind it. -/
def Lasting {α : Type} (read later : List Char → Option (α × List Char)) : Prop :=
  ∀ cs a rest, read cs = some (a, rest) → Carries later cs a rest

theorem trails_append (rest : List Char) : Trails rest (rest ++ ·) := Or.inl fun _ _ => rfl

theorem Trails.at_nil {rest : List Char} {left : List Char → List Char} (h : Trails rest left) :
    left [] = rest := by
  rcases h with h | ⟨rfl, h⟩
  · rw [h [] tail_nil, List.append_nil]
  · exact h [] tail_nil

/-- Where something is left of a text, nothing behind it is swallowed. -/
theorem Trails.at_cons {c : Char} {rest : List Char} {left : List Char → List Char}
    (h : Trails (c :: rest) left) {s : List Char} (hs : Tail s) : left s = c :: (rest ++ s) := by
  rcases h with h | ⟨hnil, _⟩
  · exact h s hs
  · cases hnil

/-- A reader that goes on as another one does behind the beginning of a text. -/
theorem Carries.of_eq {α : Type} {read other : List Char → Option (α × List Char)}
    {cs ds rest : List Char} {a : α} (h : Carries other ds a rest) (hlength : ds.length ≤ cs.length)
    (heq : ∀ s, Tail s → read (cs ++ s) = other (ds ++ s)) : Carries read cs a rest := by
  obtain ⟨hrest, left, htrails, hother⟩ := h
  exact ⟨Nat.le_trans hrest hlength, left, htrails, fun s hs => (heq s hs).trans (hother s hs)⟩

theorem carries_self {α : Type} {read : List Char → Option (α × List Char)} {cs : List Char} {a : α}
    (h : ∀ s, Tail s → read (cs ++ s) = some (a, cs ++ s)) : Carries read cs a cs :=
  ⟨Nat.le_refl _, _, trails_append cs, h⟩

namespace Lasting

variable {α β : Type} {read later : List Char → Option (α × List Char)}

/-- Reading on behind a reader, wherever this has left what follows. -/
theorem after (h : Lasting read later) {mid rest : List Char} {left : List Char → List Char} {a : α}
    (hmid : Trails mid left) (hread : read mid = some (a, rest)) :
    ∃ left', Trails rest left' ∧ ∀ s, Tail s → later (left s) = some (a, left' s) := by
  obtain ⟨hlength, left', htrails, hlater⟩ := h mid a rest hread
  rcases hmid with hmid | ⟨rfl, hmid⟩
  · refine ⟨left', htrails, fun s hs => ?_⟩
    rw [hmid s hs]
    exact hlater s hs
  · -- The comment has swallowed what follows, so that there is nothing to be read any more.
    obtain rfl : rest = [] := List.eq_nil_of_length_eq_zero (Nat.le_zero.mp hlength)
    refine ⟨fun _ => [], Or.inr ⟨rfl, fun _ _ => rfl⟩, fun s hs => ?_⟩
    have hnil := hlater [] tail_nil
    rw [htrails.at_nil, List.append_nil] at hnil
    rw [hmid s hs, hnil]

/-- The second reader takes the same from a text with nothing behind it. -/
theorem same (h : Lasting read later) {cs rest : List Char} {a : α}
    (hread : read cs = some (a, rest)) : later cs = some (a, rest) := by
  obtain ⟨_, left, htrails, hlater⟩ := h cs a rest hread
  have hnil := hlater [] tail_nil
  rwa [List.append_nil, htrails.at_nil] at hnil

protected theorem pure (a : α) : Lasting (fun cs => pure (a, cs)) (fun cs => pure (a, cs)) := by
  intro cs b rest h
  cases h
  exact carries_self fun _ _ => rfl

theorem none (later : List Char → Option (α × List Char)) : Lasting (fun _ => .none) later := by
  intro cs a rest h
  cases h

theorem bind {next follow : α → List Char → Option (β × List Char)} (h : Lasting read later)
    (hnext : ∀ a, Lasting (next a) (follow a)) :
    Lasting (fun cs => read cs >>= fun p => next p.1 p.2)
      (fun cs => later cs >>= fun p => follow p.1 p.2) := by
  intro cs b rest hread
  obtain ⟨⟨a, mid⟩, hfirst, hsecond⟩ := Option.bind_eq_some_iff.mp hread
  obtain ⟨hmid, left, htrails, hlater⟩ := h cs a mid hfirst
  obtain ⟨left', htrails', hfollow⟩ := (hnext a).after htrails hsecond
  refine ⟨Nat.le_trans (hnext a mid b rest hsecond).1 hmid, left', htrails', fun s hs => ?_⟩
  simp only [hlater s hs, Option.bind_eq_bind, Option.bind_some]
  exact hfollow s hs

/-- A value that may be missing, found without reading. -/
theorem choose {next follow : β → List Char → Option (α × List Char)} (o : Option β)
    (hnext : ∀ b, Lasting (next b) (follow b)) :
    Lasting (fun cs => o >>= fun b => next b cs) (fun cs => o >>= fun b => follow b cs) := by
  cases o with
  | none => exact none _
  | some b => exact hnext b

theorem chosen (o : Option β) (g : β → α) :
    Lasting (fun cs => o.map fun b => (g b, cs)) (fun cs => o.map fun b => (g b, cs)) := by
  cases o with
  | none => exact none _
  | some b => exact .pure (g b)

theorem map (h : Lasting read later) (g : α → β) :
    Lasting (fun cs => (read cs).map fun p => (g p.1, p.2))
      (fun cs => (later cs).map fun p => (g p.1, p.2)) := by
  intro cs b rest hread
  obtain ⟨⟨a, rest⟩, hfirst, heq⟩ := Option.map_eq_some_iff.mp hread
  cases heq
  obtain ⟨hlength, left, htrails, hlater⟩ := h cs a rest hfirst
  refine ⟨hlength, left, htrails, fun s hs => ?_⟩
  simp only [hlater s hs, Option.map_some]

/-- A reader that needs a character to start with. -/
theorem cons (hnil : read [] = .none)
    (h : ∀ c, Lasting (fun cs => read (c :: cs)) (fun cs => later (c :: cs))) :
    Lasting read later := by
  intro cs a rest hread
  cases cs with
  | nil =>
    rw [hnil] at hread
    cases hread
  | cons c cs =>
    obtain ⟨hlength, hleft⟩ := h c cs a rest hread
    exact ⟨Nat.le_succ_of_le hlength, hleft⟩

end Lasting

/-- A text that is cut at a character is cut there with more behind it as well. -/
theorem cut_append {p : Char → Bool} {cs rest : List Char} {c : Char}
    (h : cs.dropWhile p = c :: rest) (s : List Char) :
    (cs ++ s).takeWhile p = cs.takeWhile p ∧ (cs ++ s).dropWhile p = c :: (rest ++ s) := by
  have hlength : (cs.takeWhile p).length ≠ cs.length := by
    have hsum := congrArg List.length (List.takeWhile_append_dropWhile (p := p) (l := cs))
    rw [h, List.length_append, List.length_cons] at hsum
    omega
  rw [List.takeWhile_append, List.dropWhile_append, if_neg hlength, h]
  simp

theorem Tail.skipVerbose {s : List Char} (hs : Tail s) {n : Nat} (hn : s.length ≤ n) :
    Regex.skipVerbose n s = s := by
  have hparen : isSpace ')' = false := by decide
  rcases hs with rfl | rfl | rfl
  · cases n <;> rfl
  · cases n with
    | zero => rfl
    | succ n => simp [Regex.skipVerbose, hparen]
  · cases n with
    | zero => rfl
    | succ n => simp [Regex.skipVerbose, hparen]

theorem Tail.dropWhile {s : List Char} (hs : Tail s) : s.dropWhile isSpace = s := by
  have hparen : isSpace ')' = false := by decide
  rcases hs with rfl | rfl | rfl <;> simp [hparen]

theorem Tail.no_line {s : List Char} (hs : Tail s) : s.dropWhile (· != '\n') = [] := by
  rcases hs with rfl | rfl | rfl <;> decide

theorem length_skipVerbose (n : Nat) (cs : List Char) : (skipVerbose n cs).length ≤ cs.length := by
  induction n generalizing cs with
  | zero => exact Nat.le_refl _
  | succ n ih =>
    cases cs with
    | nil => exact Nat.le_refl _
    | cons c cs =>
      rw [skipVerbose]
      split
      · exact Nat.le_succ_of_le (ih cs)
      · split
        · have hdrop := (List.dropWhile_suffix (· != '\n') (l := cs)).length_le
          have hcomment := ih ((cs.dropWhile (· != '\n')).drop 1)
          rw [List.length_drop] at hcomment
          rw [List.length_cons]
          omega
        · exact Nat.le_refl _

theorem skipVerbose_nil (n : Nat) : skipVerbose n [] = [] := by
  cases n <;> rfl

/-- Passing over blanks and comments stops in front of what was put behind, or does so inside a
comment that this belongs to. -/
theorem trails_skipVerbose (n : Nat) (cs : List Char) (hn : cs.length ≤ n) :
    Trails (skipVerbose n cs) fun s => skipVerbose (n + s.length) (cs ++ s) := by
  induction n generalizing cs with
  | zero =>
    obtain rfl : cs = [] := List.eq_nil_of_length_eq_zero (Nat.le_zero.mp hn)
    exact Or.inl fun s hs => hs.skipVerbose (Nat.le_add_left ..)
  | succ n ih =>
    simp only [Nat.add_right_comm n 1]
    cases cs with
    | nil => exact Or.inl fun s hs => hs.skipVerbose (Nat.le_succ_of_le (Nat.le_add_left ..))
    | cons c cs =>
      rw [List.length_cons, Nat.add_le_add_iff_right] at hn
      by_cases hblank : isSpace c = true
      · simp only [List.cons_append, skipVerbose, if_pos hblank]
        exact ih cs hn
      · by_cases hsign : c = '#'
        · subst hsign
          simp only [List.cons_append, skipVerbose, if_neg hblank, if_pos]
          cases hline : cs.dropWhile (· != '\n') with
          | nil =>
            -- The comment does not end in the text, nor in what was put behind it.
            refine Or.inr ⟨skipVerbose_nil n, fun s hs => ?_⟩
            simp only [List.dropWhile_append, hline, hs.no_line, List.isEmpty_nil, if_true]
            exact skipVerbose_nil _
          | cons d rest =>
            have hlength := (List.dropWhile_suffix (· != '\n') (l := cs)).length_le
            rw [hline, List.length_cons] at hlength
            simp only [List.dropWhile_append, hline, List.isEmpty_cons, Bool.false_eq_true,
              if_false, List.cons_append, List.drop_succ_cons, List.drop_zero]
            exact ih rest (by omega)
        · simp only [List.cons_append, skipVerbose, if_neg hblank, if_neg hsign]
          exact trails_append (c :: cs)

theorem trails_skip (f : Flags) (cs : List Char) :
    Trails (skip f cs) fun s => skip f (cs ++ s) := by
  unfold skip
  split
  · simp only [List.length_append]
    exact trails_skipVerbose cs.length cs (Nat.le_refl _)
  · exact trails_append cs

theorem length_skip (f : Flags) (cs : List Char) : (skip f cs).length ≤ cs.length := by
  unfold skip
  split
  · exact length_skipVerbose _ cs
  · exact Nat.le_refl _

theorem Trails.skip {rest : List Char} {left : List Char → List Char} (h : Trails rest left)
    (f : Flags) : Trails (Regex.skip f rest) fun s => Regex.skip f (left s) := by
  rcases h with h | ⟨rfl, h⟩
  · rcases trails_skip f rest with hskip | ⟨hnil, hskip⟩
    · exact Or.inl fun s hs => (congrArg _ (h s hs)).trans (hskip s hs)
    · exact Or.inr ⟨hnil, fun s hs => (congrArg _ (h s hs)).trans (hskip s hs)⟩
  · have hnil : Regex.skip f [] = [] :=
      List.length_eq_zero_iff.mp (Nat.le_zero.mp (length_skip f []))
    exact Or.inr ⟨hnil, fun s hs => (congrArg _ (h s hs)).trans hnil⟩

/-- A character that is not among those put behind does not come first only because of them. -/
theorem Trails.head_ne {rest : List Char} {left : List Char → List Char} (h : Trails rest left)
    {c : Char} (hc : c ≠ ')') (hrest : ∀ ds, rest ≠ c :: ds) {s : List Char} (hs : Tail s)
    (ds : List Char) : left s ≠ c :: ds := by
  rcases h with h | ⟨_, h⟩
  · rw [h s hs]
    cases rest with
    | nil => rcases hs with rfl | rfl | rfl <;> simp [hc.symm]
    | cons d rest =>
      have hd : d ≠ c := fun heq => hrest rest (by rw [heq])
      simp [hd]
  · rw [h s hs]
    exact (List.cons_ne_nil c ds).symm

theorem skip_append {f : Flags} {cs rest : List Char} {c : Char} (h : skip f cs = c :: rest)
    {s : List Char} (hs : Tail s) : skip f (cs ++ s) = c :: (rest ++ s) := by
  have htrails := trails_skip f cs
  rw [h] at htrails
  exact htrails.at_cons hs

theorem length_of_skip {f : Flags} {cs rest : List Char} {c : Char} (h : skip f cs = c :: rest) :
    rest.length < cs.length := by
  have hlength := length_skip f cs
  rw [h, List.length_cons] at hlength
  exact hlength

theorem Lasting.skip {α : Type} {read later : List Char → Option (α × List Char)}
    (h : Lasting read later) (f : Flags) :
    Lasting (fun cs => read (skip f cs)) (fun cs => later (skip f cs)) := by
  intro cs a rest hread
  obtain ⟨left, htrails, hlater⟩ := h.after (trails_skip f cs) hread
  exact ⟨Nat.le_trans (h _ a rest hread).1 (length_skip f cs), left, htrails, hlater⟩

/-- A reader whose bound is taken from the text, where a higher bound makes no difference. -/
theorem Lasting.bounded {α : Type} {read : Nat → List Char → Option (α × List Char)}
    (h : ∀ n m, n ≤ m → Lasting (read n) (read m)) :
    Lasting (fun cs => read (cs.length + 1) cs) (fun cs => read (cs.length + 1) cs) := by
  intro cs a rest hread
  obtain ⟨hlength, left, htrails, hlater⟩ := h _ _ (Nat.le_refl _) cs a rest hread
  refine ⟨hlength, left, htrails, fun s hs => ?_⟩
  exact (h _ _ (by simp)).same (hlater s hs)

theorem lasting_hexDigits (f : Flags) (n acc : Nat) :
    Lasting (hexDigits f n acc) (hexDigits f n acc) := by
  induction n generalizing acc with
  | zero => exact .pure acc
  | succ n ih => exact .cons rfl fun c => .choose (hexDigit? c) fun d => (ih _).skip f

theorem lasting_hexBraced (f : Flags) (n m : Nat) (hnm : n ≤ m) (acc : Option Nat) :
    Lasting (hexBraced f n acc) (hexBraced f m acc) := by
  induction n generalizing m acc with
  | zero => exact .none _
  | succ n ih =>
    obtain ⟨m, rfl⟩ : ∃ k, m = k + 1 := ⟨m - 1, by omega⟩
    refine .cons rfl fun c => ?_
    by_cases hc : c = '\x7d'
    · simp only [hexBraced, if_pos hc]
      cases acc with
      | none => exact .none _
      | some v => exact (Lasting.pure v).skip f
    · simp only [hexBraced, if_neg hc]
      exact .choose (hexDigit? c) fun d => (ih m (by omega) _).skip f

theorem lasting_hexLiteral (f : Flags) (width : Nat) :
    Lasting (hexLiteral f width) (hexLiteral f width) := by
  have hliteral := fun (n : Nat) (byte : Bool) =>
    Lasting.choose (charOf? n) fun c => .pure (Literal.mk c byte)
  intro cs a rest h
  cases hskip : skip f cs with
  | nil => simp [hexLiteral, hskip] at h
  | cons c ds =>
    have hlength := length_of_skip hskip
    by_cases hc : c = '\x7b'
    · subst hc
      have hbraced := Lasting.bounded fun n m hnm => (lasting_hexBraced f n m hnm none).skip f
      simp only [hexLiteral, hskip] at h
      refine ((hbraced.bind fun n => hliteral n false) ds a rest h).of_eq (Nat.le_of_lt hlength) ?_
      intro s hs
      simp only [hexLiteral, skip_append hskip hs]
    · have hdigits := (lasting_hexDigits f width 0).bind fun n => hliteral n (width = 2)
      simp only [hexLiteral, hskip, List.cons.injEq, hc, false_and, imp_self, implies_true] at h
      refine (hdigits (c :: ds) a rest h).of_eq hlength ?_
      intro s hs
      simp [hexLiteral, skip_append hskip hs, hc]

theorem lasting_bracedName (f : Flags) (n m : Nat) (hnm : n ≤ m) (name : List Char) :
    Lasting (bracedName f n name) (bracedName f m name) := by
  induction n generalizing m name with
  | zero => exact .none _
  | succ n ih =>
    obtain ⟨m, rfl⟩ : ∃ k, m = k + 1 := ⟨m - 1, by omega⟩
    refine .cons rfl fun c => ?_
    by_cases hc : c = '\x7d'
    · simp only [bracedName, if_pos hc]
      exact .pure _
    · simp only [bracedName, if_neg hc]
      exact (ih m (by omega) _).skip f

theorem lasting_propertyName (f : Flags) : Lasting (propertyName f) (propertyName f) := by
  intro cs a rest h
  cases hskip : skip f cs with
  | nil => simp [propertyName, hskip] at h
  | cons c ds =>
    have hlength := Nat.le_of_lt (length_of_skip hskip)
    by_cases hslash : c = '\\'
    · subst hslash
      simp [propertyName, hskip] at h
    · by_cases hc : c = '\x7b'
      · subst hc
        have hbraced := Lasting.bounded fun n m hnm => (lasting_bracedName f n m hnm []).skip f
        simp only [propertyName, hskip] at h
        refine (hbraced ds a rest h).of_eq hlength ?_
        intro s hs
        simp only [propertyName, skip_append hskip hs]
      · simp only [propertyName, hskip] at h
        refine (((Lasting.pure [c]).skip f) ds a rest h).of_eq hlength ?_
        intro s hs
        simp only [propertyName, skip_append hskip hs, Option.pure_def]

theorem lasting_unicodeClass (f : Flags) (negate : Bool) :
    Lasting (unicodeClass f negate) (unicodeClass f negate) := by
  have hset : ∀ s, Lasting
      (fun cs => if f.unicode then do return (← f.finish negate s, cs) else none)
      (fun cs => if f.unicode then do return (← f.finish negate s, cs) else none) := by
    intro s
    cases f.unicode with
    | true => exact .choose (f.finish negate s) fun t => .pure t
    | false => exact .none _
  exact (lasting_propertyName f).bind fun name => .choose (namedSet? name) hset

/-- The letters of a name stop at the same character, if there is one. -/
theorem edgeName_append (f : Flags) {n : Nat} {name cs word rest : List Char} {c : Char}
    (hn : cs.length ≤ n) (h : edgeName f n name cs = (word, c :: rest)) :
    rest.length < cs.length ∧ ∀ s, Tail s → ∀ m, n ≤ m →
      edgeName f m name (cs ++ s) = (word, c :: (rest ++ s)) := by
  induction n generalizing name cs with
  | zero =>
    obtain rfl : cs = [] := List.eq_nil_of_length_eq_zero (Nat.le_zero.mp hn)
    simp [edgeName] at h
  | succ n ih =>
    cases cs with
    | nil => simp [edgeName] at h
    | cons d ds =>
      rw [List.length_cons, Nat.add_le_add_iff_right] at hn
      rw [edgeName] at h
      split at h
      · rename_i hletter
        have hskipped := length_skip f ds
        obtain ⟨hlength, hmore⟩ := ih (by omega) h
        refine ⟨by rw [List.length_cons]; omega, fun s hs m hm => ?_⟩
        obtain ⟨m, rfl⟩ : ∃ k, m = k + 1 := ⟨m - 1, by omega⟩
        rw [List.cons_append, edgeName, if_pos hletter]
        cases hskip : skip f ds with
        | nil =>
          rw [hskip] at hlength
          cases hlength
        | cons e es =>
          rw [skip_append hskip hs, ← List.cons_append, ← hskip]
          exact hmore s hs m (by omega)
      · rename_i hletter
        cases h
        refine ⟨Nat.lt_succ_self _, fun s hs m hm => ?_⟩
        obtain ⟨m, rfl⟩ : ∃ k, m = k + 1 := ⟨m - 1, by omega⟩
        rw [List.cons_append, edgeName, if_neg hletter]

theorem lasting_boundary (f : Flags) : Lasting (boundary f) (boundary f) := by
  intro cs a rest h
  cases cs with
  | nil =>
    cases h
    refine carries_self fun s hs => ?_
    rcases hs with rfl | rfl | rfl <;> rfl
  | cons c cs =>
    by_cases hc : c = '\x7b'
    · subst hc
      cases hskip : skip f cs with
      | nil => simp [boundary, hskip] at h
      | cons d ds =>
        have hlength := length_of_skip hskip
        simp only [boundary, hskip] at h
        split at h
        · rename_i hletter
          split at h
          · rename_i name more hname
            obtain ⟨hmore, hnames⟩ := edgeName_append f (by simp) hname
            refine (Lasting.chosen (wordEdge? name) id more a rest h).of_eq ?_ ?_
            · simp only [List.length_cons] at hmore ⊢
              omega
            · intro s hs
              have hlonger := hnames s hs ((ds ++ s).length + 1) (by simp)
              simp only [List.cons_append] at hlonger
              simp only [List.cons_append, boundary, skip_append hskip hs, if_pos hletter, hlonger,
                id_eq]
          · cases h
        · rename_i hletter
          cases h
          refine carries_self fun s hs => ?_
          simp only [List.cons_append, boundary, skip_append hskip hs, if_neg hletter]
    · simp only [boundary, List.cons.injEq, hc, false_and, imp_self, implies_true] at h
      cases h
      refine carries_self fun s hs => ?_
      simp [boundary, hc]

theorem lasting_escape (f : Flags) : Lasting (escape f) (escape f) := by
  refine .cons rfl fun c => ?_
  have hplain := fun c => Lasting.pure (Escape.literal ⟨c, false⟩)
  have hlook := fun l => Lasting.pure (Escape.look l)
  have hhex := fun width => (lasting_hexLiteral f width).map Escape.literal
  have hset := fun negate => (lasting_unicodeClass f negate).map Escape.set
  have hshort := fun k negate => Lasting.chosen (f.shorthand k negate) Escape.set
  have hbound := (lasting_boundary f).map fun e => Escape.look (.word e f.unicode)
  intro cs a rest h
  unfold escape at h
  simp only at h
  -- One case for each letter that may be escaped, in the order of the definition.
  split at h
  · exact hhex 2 cs a rest h
  · exact hhex 4 cs a rest h
  · exact hhex 8 cs a rest h
  · exact hset false cs a rest h
  · exact hset true cs a rest h
  · exact hshort .digit false cs a rest h
  · exact hshort .digit true cs a rest h
  · exact hshort .space false cs a rest h
  · exact hshort .space true cs a rest h
  · exact hshort .word false cs a rest h
  · exact hshort .word true cs a rest h
  · exact hplain _ cs a rest h
  · exact hplain _ cs a rest h
  · exact hplain _ cs a rest h
  · exact hplain _ cs a rest h
  · exact hplain _ cs a rest h
  · exact hplain _ cs a rest h
  · exact hlook _ cs a rest h
  · exact hlook _ cs a rest h
  · exact hbound cs a rest h
  · exact hlook _ cs a rest h
  · exact hlook _ cs a rest h
  · exact hlook _ cs a rest h
  · split at h
    · rename_i hescapable
      refine (hplain _ cs a rest h).of_eq (Nat.le_refl _) fun s hs => ?_
      simp [escape, *]
    · cases h

end FeatureLint.Regex
