import FeatureLint.Command.Arguments

namespace FeatureLint

namespace Word

/-- The word asks for verbosity if it is read as an option. -/
def AsksVerbose : Word → Prop
  | .long name none => name = "verbose"
  | .short letters => 'v' ∈ letters
  | _ => False

instance : DecidablePred AsksVerbose
  | .long name none => inferInstanceAs (Decidable (name = "verbose"))
  | .long _ (some _) => inferInstanceAs (Decidable False)
  | .short letters => inferInstanceAs (Decidable ('v' ∈ letters))
  | .stop => inferInstanceAs (Decidable False)
  | .plain _ => inferInstanceAs (Decidable False)

theorem ofText_eq_stop {word : String} (h : ofText word = .stop) : word = "--" := by
  unfold ofText at h
  split at h
  · rename_i hword
    exact String.toList_inj.mp hword
  all_goals cases h

/-- An option without a value is all of its word. -/
theorem ofText_eq_long {word name : String} (h : ofText word = .long name none) :
    word = "--" ++ name := by
  unfold ofText at h
  split at h
  · cases h
  · rename_i cs _ hword
    split at h
    · rename_i hdrop
      cases h
      have hall : cs.takeWhile (· != '=') = cs := by
        simpa [hdrop] using List.takeWhile_append_dropWhile (p := (· != '=')) (l := cs)
      apply String.toList_inj.mp
      simp [hword, hall]
    · cases h
  all_goals cases h

theorem ofText_ne_short_nil (word : String) : ofText word ≠ .short [] := by
  intro h
  unfold ofText at h
  split at h
  · cases h
  · cases h
  · cases h
  · rename_i hdash _
    cases h
    exact hdash rfl
  · cases h

end Word

namespace CheckOptions

theorem ok_of_bind {α β : Type} {x : Except UsageError α} {f : α → Except UsageError β} {b : β}
    (h : (x >>= f) = .ok b) : ∃ a, x = .ok a ∧ f a = .ok b := by
  cases x with
  | error e => cases h
  | ok a => exact ⟨a, rfl, h⟩

/-- Two ways of reading fail both, or have results that belong together. -/
inductive Matched {α : Type} (R : α → α → Prop) :
    Except UsageError α → Except UsageError α → Prop where
  | failed (e e' : UsageError) : Matched R (.error e) (.error e')
  | both {a b : α} (related : R a b) : Matched R (.ok a) (.ok b)

theorem Matched.bind {α β : Type} {R : α → α → Prop} {S : β → β → Prop}
    {x y : Except UsageError α} (h : Matched R x y) {f g : α → Except UsageError β}
    (hfg : ∀ a b, R a b → Matched S (f a) (g b)) : Matched S (x >>= f) (y >>= g) := by
  cases h with
  | failed e e' => exact .failed e e'
  | both related => exact hfg _ _ related

namespace Draft

def loud (d : Draft) : Draft := { d with verbose := true }

theorem set_loud (d : Draft) (text : String) (s : Setting) :
    d.loud.set text s = (d.set text s).map loud := by
  cases s with
  | path =>
    by_cases hgiven : d.path.isSome = true
    · simp [set, loud, hgiven, Except.map]
    · by_cases hempty : text.isEmpty = true
      · simp [set, loud, hgiven, hempty, Except.map]
      · simp [set, loud, hgiven, hempty, Except.map]
  | ignoreTag =>
    by_cases hgiven : d.ignoreTag.isSome = true
    · simp [set, loud, hgiven, Except.map]
    · simp [set, loud, hgiven, Except.map]

theorem settle_loud (d : Draft) : d.loud.settle = d.settle.map loud := by
  obtain ⟨paths, path, ignoreTag, verbose, pending⟩ := d
  cases pending with
  | nothing => rfl
  | missing s => rfl
  | value s text => exact set_loud ⟨paths, path, ignoreTag, verbose, .nothing⟩ text s
  | paths texts =>
    by_cases hempty : texts.any (·.isEmpty) = true
    · simp only [settle, loud, hempty, if_true, Except.map]
    · simp only [settle, loud, hempty, Except.map]
      rfl

/-- A value changes neither the words that are pending nor the verbosity. -/
theorem set_frame {d e : Draft} {text : String} {s : Setting} (h : d.set text s = .ok e) :
    e.pending = d.pending ∧ e.verbose = d.verbose := by
  cases s with
  | path =>
    simp only [set] at h
    split at h
    · cases h
    · split at h <;> cases h
      exact ⟨rfl, rfl⟩
  | ignoreTag =>
    simp only [set] at h
    split at h <;> cases h
    exact ⟨rfl, rfl⟩

theorem settle_frame {d e : Draft} (h : d.settle = .ok e) :
    e.pending = .nothing ∧ e.verbose = d.verbose := by
  unfold settle at h
  dsimp only at h
  split at h
  · cases h
    exact ⟨rfl, rfl⟩
  · cases h
  · have hset := set_frame h
    exact hset
  · split at h <;> cases h
    exact ⟨rfl, rfl⟩

theorem settle_of_nothing {d : Draft} (h : d.pending = .nothing) : d.settle = .ok d := by
  cases d
  cases h
  rfl

/-- Verbosity is all that is added. -/
def Amplified (d e : Draft) : Prop := d.verbose = false ∧ e = d.loud

/-- What one draft still has to settle, the other has settled in part or in whole. -/
inductive Louder : Draft → Draft → Prop where
  | same {d : Draft} (quiet : d.verbose = false) : Louder d d.loud
  | settled {d e : Draft} (quiet : d.verbose = false) (settled : d.settle = .ok e) : Louder d e.loud
  | split {d : Draft} {texts more : List String} (quiet : d.verbose = false)
      (pending : d.pending = .paths (texts ++ more)) (full : texts.any (·.isEmpty) = false) :
      Louder d { d with verbose := true, paths := d.paths ++ texts, pending := .paths more }

theorem Louder.settle {d e : Draft} (h : Louder d e) : Matched Amplified d.settle e.settle := by
  cases h with
  | same hquiet =>
    rw [settle_loud]
    cases hsettle : d.settle with
    | error e => exact .failed e e
    | ok e => exact .both ⟨(settle_frame hsettle).2.trans hquiet, rfl⟩
  | settled hquiet hsettled =>
    rw [settle_loud, settle_of_nothing (settle_frame hsettled).1, hsettled]
    exact .both ⟨(settle_frame hsettled).2.trans hquiet, rfl⟩
  | @split texts more hquiet hpending hfull =>
    have hany : (texts ++ more).any (·.isEmpty) = more.any (·.isEmpty) := by
      rw [List.any_append, hfull, Bool.false_or]
    by_cases hempty : more.any (·.isEmpty) = true
    · simp only [Draft.settle, hpending, hany, hempty, if_true]
      exact .failed _ _
    · simp only [Draft.settle, hpending, hany, hempty]
      refine .both ⟨hquiet, ?_⟩
      simp [loud]

theorem addPath_of_paths {d : Draft} {texts : List String} (h : d.pending = .paths texts)
    (text : String) : d.addPath text = .ok { d with pending := .paths (texts ++ [text]) } := by
  simp only [addPath, h]

theorem addPath_of_other {d : Draft} (h : ∀ texts, d.pending ≠ .paths texts) (text : String) :
    d.addPath text = do return { ← d.settle with pending := .paths [text] } := by
  unfold addPath
  split
  · rename_i texts hpending
    exact absurd hpending (h texts)
  · rfl

theorem addPlain_of_missing {d : Draft} {s : Setting} (h : d.pending = .missing s)
    (text : String) : d.addPlain text = .ok { d with pending := .value s text } := by
  simp only [addPlain, h]

theorem addPlain_of_complete {d : Draft} (h : ∀ s, d.pending ≠ .missing s) (text : String) :
    d.addPlain text = d.addPath text := by
  unfold addPlain
  split
  · rename_i s hs
    exact absurd hs (h s)
  · rfl

theorem addPath_frame {d e : Draft} {text : String} (h : d.addPath text = .ok e) :
    e.verbose = d.verbose ∧ ∀ s, e.pending ≠ .missing s := by
  by_cases hpaths : ∃ texts, d.pending = .paths texts
  · obtain ⟨texts, htexts⟩ := hpaths
    rw [addPath_of_paths htexts] at h
    cases h
    exact ⟨rfl, by simp⟩
  · rw [addPath_of_other (not_exists.mp hpaths)] at h
    obtain ⟨settled, hsettle, h⟩ := ok_of_bind h
    cases h
    exact ⟨(settle_frame hsettle).2, by simp⟩

theorem settle_of_paths {d e : Draft} {texts : List String} (h : d.pending = .paths texts)
    (hsettle : d.settle = .ok e) :
    texts.any (·.isEmpty) = false ∧ e = { d with paths := d.paths ++ texts, pending := .nothing } := by
  simp only [settle, h] at hsettle
  split at hsettle
  · cases hsettle
  · rename_i hfull
    cases hsettle
    exact ⟨Bool.not_eq_true _ ▸ hfull, rfl⟩

theorem Louder.addPath {d e : Draft} (h : Louder d e) (text : String) :
    Matched Louder (d.addPath text) (e.addPath text) := by
  have hsettle := h.settle
  by_cases hpaths : ∃ texts, d.pending = .paths texts
  · obtain ⟨texts, htexts⟩ := hpaths
    rw [addPath_of_paths htexts]
    cases h with
    | same hquiet =>
      rw [addPath_of_paths (d := d.loud) htexts]
      exact .both (.same hquiet)
    | @settled e hquiet hsettled =>
      obtain ⟨hfull, rfl⟩ := settle_of_paths htexts hsettled
      exact .both (.split (d := { d with pending := .paths (texts ++ [text]) }) hquiet rfl hfull)
    | @split front more hquiet hpending hfull =>
      rw [htexts] at hpending
      cases hpending
      refine .both ?_
      have hlouder : Louder { d with pending := .paths (front ++ (more ++ [text])) }
        { d with verbose := true, paths := d.paths ++ front, pending := .paths (more ++ [text]) } :=
        .split hquiet rfl hfull
      simpa only [List.append_assoc] using hlouder
  · have hother : ∀ texts, d.pending ≠ .paths texts := not_exists.mp hpaths
    have hother' : ∀ texts, e.pending ≠ .paths texts := by
      cases h with
      | same hquiet => exact hother
      | settled hquiet hsettled => simp [loud, (settle_frame hsettled).1]
      | split hquiet hpending hfull => exact absurd hpending (hother _)
    rw [addPath_of_other hother, addPath_of_other hother']
    refine hsettle.bind ?_
    rintro a b ⟨hquiet, rfl⟩
    exact .both (.same (d := { a with pending := .paths [text] }) hquiet)

theorem Louder.addPlain {d e : Draft} (h : Louder d e) (text : String) :
    Matched Louder (d.addPlain text) (e.addPlain text) := by
  by_cases hmissing : ∃ s, d.pending = .missing s
  · obtain ⟨s, hs⟩ := hmissing
    cases h with
    | same hquiet =>
      rw [addPlain_of_missing hs, addPlain_of_missing (d := d.loud) hs]
      exact .both (.same (d := { d with pending := .value s text }) hquiet)
    | settled hquiet hsettled => simp [Draft.settle, hs] at hsettled
    | split hquiet hpending hfull => simp [hs] at hpending
  · have hcomplete : ∀ s, d.pending ≠ .missing s := not_exists.mp hmissing
    have hcomplete' : ∀ s, e.pending ≠ .missing s := by
      cases h with
      | same hquiet => exact hcomplete
      | settled hquiet hsettled => simp [loud, (settle_frame hsettled).1]
      | split hquiet hpending hfull => simp
    rw [addPlain_of_complete hcomplete, addPlain_of_complete hcomplete']
    exact h.addPath text

/-- Words that are refused once they are settled, whatever follows them. -/
structure Spoiled (d : Draft) : Prop where
  refused : ∃ e, d.settle = .error e
  complete : ∀ s, d.pending ≠ .missing s

theorem Spoiled.addPath {d : Draft} (h : Spoiled d) (text : String) :
    (∃ e, d.addPath text = .error e) ∨ ∃ d', d.addPath text = .ok d' ∧ Spoiled d' := by
  obtain ⟨e, he⟩ := h.refused
  by_cases hpaths : ∃ texts, d.pending = .paths texts
  · obtain ⟨texts, htexts⟩ := hpaths
    refine Or.inr ⟨_, addPath_of_paths htexts text, ?_, by simp⟩
    simp only [settle, htexts] at he ⊢
    split at he
    · rename_i hempty
      rw [List.any_append, hempty, Bool.true_or, if_pos rfl]
      exact ⟨_, rfl⟩
    · cases he
  · rw [addPath_of_other (not_exists.mp hpaths), he]
    exact Or.inl ⟨e, rfl⟩

end Draft

/-- What a word does to a draft, if it does not ask for verbosity. -/
inductive Effect where
  | plain (text : String)
  | await (s : Setting)
  | assign (s : Setting) (text : String)
  | help
  | refuse (e : UsageError)

/-- The result is empty if help is asked for. -/
def Effect.apply (d : Draft) : Effect → Except UsageError (Option Draft)
  | .plain text => do return some (← d.addPlain text)
  | .await s => do return some { ← d.settle with pending := .missing s }
  | .assign s text => do return some (← (← d.settle).set text s)
  | .help => do
    let _ ← d.settle
    return none
  | .refuse e => .error e

/-- An option of several letters and its value, if it is in the same word. -/
theorem addLong_effect (name : String) (value : Option String)
    (h : ¬ (name = "verbose" ∧ value = none)) :
    ∃ effect : Effect, (∀ d : Draft, d.addLong name value = effect.apply d) ∧
      ∀ s, effect = .await s → value = none ∧ (name = "path" ∨ name = "ignore-tag") := by
  by_cases hpath : name = "path"
  · subst hpath
    cases value with
    | none => exact ⟨.await .path, fun d => rfl, by simp⟩
    | some text => exact ⟨.assign .path text, fun d => rfl, by simp⟩
  by_cases htag : name = "ignore-tag"
  · subst htag
    cases value with
    | none => exact ⟨.await .ignoreTag, fun d => rfl, by simp⟩
    | some text => exact ⟨.assign .ignoreTag text, fun d => rfl, by simp⟩
  by_cases hverbose : name = "verbose"
  · subst hverbose
    cases value with
    | none => simp at h
    | some text => exact ⟨.refuse .unneededValue, fun d => rfl, by simp⟩
  by_cases hhelp : name = "help"
  · subst hhelp
    cases value with
    | none => exact ⟨.help, fun d => rfl, by simp⟩
    | some text => exact ⟨.refuse .unneededValue, fun d => rfl, by simp⟩
  refine ⟨.refuse .unknownArgument, fun d => ?_, by simp⟩
  unfold Draft.addLong
  split <;> first | contradiction | rfl

theorem addFlags_effect (first : Char) (letters : List Char) (h : 'v' ∉ first :: letters) :
    ∃ effect : Effect, (∀ d : Draft, d.addFlags (first :: letters) = effect.apply d) ∧
      ∀ s, effect ≠ .await s := by
  by_cases hhelp : first = 'h'
  · subst hhelp
    exact ⟨.help, fun d => rfl, by simp⟩
  · have hother : first ≠ 'v' := fun heq => h (by simp [heq])
    refine ⟨.refuse .unknownArgument, fun d => ?_, by simp⟩
    unfold Draft.addFlags
    split <;> first | contradiction | simp_all [Effect.apply]

/-- A word that is no `--` and does not ask for verbosity has an effect of its own. -/
theorem read_effect {word : String} (hstop : word ≠ "--")
    (hquiet : ¬ (Word.ofText word).AsksVerbose) :
    ∃ effect : Effect,
      (∀ (d : Draft) (words : List String), read d (word :: words) =
        effect.apply d >>= fun
          | some d => read d words
          | none => .ok (.help .check)) ∧
      ∀ s, effect = .await s → word = "--path" ∨ word = "--ignore-tag" := by
  cases hword : Word.ofText word with
  | stop => exact absurd (Word.ofText_eq_stop hword) hstop
  | long name value =>
    have hverbose : ¬ (name = "verbose" ∧ value = none) := by
      rintro ⟨rfl, rfl⟩
      exact hquiet (by rw [hword]; rfl)
    obtain ⟨effect, heffect, hawait⟩ := addLong_effect name value hverbose
    refine ⟨effect, ?_, ?_⟩
    · intro d words
      rw [read, hword]
      simp only [heffect]
      rfl
    · intro s hs
      obtain ⟨rfl, rfl | rfl⟩ := hawait s hs
      · exact Or.inl (Word.ofText_eq_long hword)
      · exact Or.inr (Word.ofText_eq_long hword)
  | short letters =>
    cases letters with
    | nil => exact absurd hword (Word.ofText_ne_short_nil word)
    | cons first letters =>
      have hletters : 'v' ∉ first :: letters := fun hv => hquiet (by rw [hword]; exact hv)
      obtain ⟨effect, heffect, hawait⟩ := addFlags_effect first letters hletters
      refine ⟨effect, ?_, fun s hs => absurd hs (hawait s)⟩
      intro d words
      rw [read, hword]
      simp only [heffect]
      rfl
  | plain text =>
    refine ⟨.plain text, ?_, by simp⟩
    intro d words
    rw [read, hword]
    simp only [Effect.apply]
    cases d.addPlain text <;> rfl

namespace Effect

open Draft

theorem apply_louder {d e : Draft} (h : Louder d e) (effect : Effect) :
    Matched (Option.Rel Louder) (effect.apply d) (effect.apply e) := by
  cases effect with
  | plain text => exact (h.addPlain text).bind fun a b hab => .both (.some hab)
  | await s =>
    refine h.settle.bind ?_
    rintro a _ ⟨hquiet, rfl⟩
    exact .both (.some (.same (d := { a with pending := .missing s }) hquiet))
  | assign s text =>
    refine h.settle.bind ?_
    rintro a _ ⟨hquiet, rfl⟩
    rw [set_loud]
    cases hset : a.set text s with
    | error e => exact .failed e e
    | ok b => exact .both (.some (.same ((set_frame hset).2.trans hquiet)))
  | help => exact h.settle.bind fun a b _ => .both .none
  | refuse e => exact .failed e e

theorem apply_spoiled {d : Draft} (h : Spoiled d) (effect : Effect) :
    (∃ e, effect.apply d = .error e) ∨ ∃ d', effect.apply d = .ok (some d') ∧ Spoiled d' := by
  obtain ⟨e, he⟩ := h.refused
  cases effect with
  | plain text =>
    simp only [apply, addPlain_of_complete h.complete]
    rcases h.addPath text with ⟨e, he⟩ | ⟨d', hd', hspoiled⟩
    · exact Or.inl ⟨e, by rw [he]; rfl⟩
    · exact Or.inr ⟨d', by rw [hd']; rfl, hspoiled⟩
  | await s => exact Or.inl ⟨e, by simp only [apply, he]; rfl⟩
  | assign s text => exact Or.inl ⟨e, by simp only [apply, he]; rfl⟩
  | help => exact Or.inl ⟨e, by simp only [apply, he]; rfl⟩
  | refuse e => exact Or.inl ⟨e, rfl⟩

/-- Without a word that asks for it there is no verbosity, and only an option awaits a value. -/
theorem apply_frame {d d' : Draft} {effect : Effect} (h : effect.apply d = .ok (some d')) :
    d'.verbose = d.verbose ∧ ∀ s, d'.pending = .missing s → effect = .await s := by
  cases effect with
  | plain text =>
    obtain ⟨e, hplain, h⟩ := ok_of_bind h
    cases h
    by_cases hmissing : ∃ s, d.pending = .missing s
    · obtain ⟨s, hs⟩ := hmissing
      rw [addPlain_of_missing hs] at hplain
      cases hplain
      exact ⟨rfl, by simp⟩
    · rw [addPlain_of_complete (not_exists.mp hmissing)] at hplain
      obtain ⟨hverbose, hcomplete⟩ := addPath_frame hplain
      exact ⟨hverbose, fun s hs => absurd hs (hcomplete s)⟩
  | await s =>
    obtain ⟨e, hsettle, h⟩ := ok_of_bind h
    cases h
    exact ⟨(settle_frame hsettle).2, by simp⟩
  | assign s text =>
    obtain ⟨e, hsettle, h⟩ := ok_of_bind h
    obtain ⟨_, hset, h⟩ := ok_of_bind h
    cases h
    obtain ⟨hpending, hverbose⟩ := set_frame hset
    obtain ⟨hnothing, hbefore⟩ := settle_frame hsettle
    exact ⟨hverbose.trans hbefore, by simp [hpending, hnothing]⟩
  | help =>
    obtain ⟨e, _, h⟩ := ok_of_bind h
    cases h
  | refuse e => cases h

end Effect

/-- What is asked for is the same, or the same check with verbosity. -/
inductive Echoes : Request → Request → Prop where
  | same (r : Request) : Echoes r r
  | louder (options : CheckOptions) :
      Echoes (.run (.check options)) (.run (.check { options with verbose := true }))

open Draft

theorem Draft.Louder.finish {d e : Draft} (h : Louder d e) : Matched Echoes d.finish e.finish := by
  refine h.settle.bind ?_
  rintro a _ ⟨_, rfl⟩
  exact .both (.louder a.options)

theorem Draft.Louder.foldlM {d e : Draft} (h : Louder d e) (words : List String) :
    Matched Louder (words.foldlM Draft.addPath d) (words.foldlM Draft.addPath e) := by
  induction words generalizing d e with
  | nil => exact .both h
  | cons word words ih =>
    rw [List.foldlM_cons, List.foldlM_cons]
    exact (h.addPath word).bind fun a b hab => ih hab

/-- The words in front of `--`. -/
def optionWords (words : List String) : List String := words.takeWhile (· ≠ "--")

theorem Draft.Louder.read {d e : Draft} (h : Louder d e) {words : List String}
    (hwords : ∀ word ∈ optionWords words, ¬ (Word.ofText word).AsksVerbose) :
    Matched Echoes (read d words) (read e words) := by
  induction words generalizing d e with
  | nil => exact h.finish
  | cons word words ih =>
    by_cases hstop : word = "--"
    · subst hstop
      exact (h.foldlM words).bind fun a b hab => hab.finish
    · have hquiet := hwords word (by simp [optionWords, hstop])
      obtain ⟨effect, heffect, _⟩ := read_effect hstop hquiet
      rw [heffect, heffect]
      refine (effect.apply_louder h).bind ?_
      rintro _ _ (hab | _)
      · exact ih hab fun w hw => hwords w (by simp_all [optionWords])
      · exact .both (.same _)

theorem Draft.Spoiled.foldlM {d : Draft} (h : Spoiled d) (words : List String) :
    ∃ e, (do (← words.foldlM Draft.addPath d).finish) = Except.error e := by
  induction words generalizing d with
  | nil =>
    obtain ⟨e, he⟩ := h.refused
    exact ⟨e, by simp only [List.foldlM_nil, pure_bind, finish, he]; rfl⟩
  | cons word words ih =>
    rw [List.foldlM_cons]
    rcases h.addPath word with ⟨e, he⟩ | ⟨d', hd', hspoiled⟩
    · exact ⟨e, by rw [he]; rfl⟩
    · obtain ⟨e, he⟩ := ih hspoiled
      exact ⟨e, by rw [hd', ← he]; rfl⟩

theorem Draft.Spoiled.read {d : Draft} (h : Spoiled d) {words : List String}
    (hwords : ∀ word ∈ optionWords words, ¬ (Word.ofText word).AsksVerbose) :
    ∃ e, read d words = .error e := by
  induction words generalizing d with
  | nil =>
    obtain ⟨e, he⟩ := h.refused
    exact ⟨e, by simp only [CheckOptions.read, finish, he]; rfl⟩
  | cons word words ih =>
    by_cases hstop : word = "--"
    · subst hstop
      exact h.foldlM words
    · have hquiet := hwords word (by simp [optionWords, hstop])
      obtain ⟨effect, heffect, _⟩ := read_effect hstop hquiet
      rw [heffect]
      rcases effect.apply_spoiled h with ⟨e, he⟩ | ⟨d', hd', hspoiled⟩
      · exact ⟨e, by rw [he]; rfl⟩
      · obtain ⟨e, he⟩ := ih hspoiled fun w hw => hwords w (by simp_all [optionWords])
        exact ⟨e, by rw [hd', ← he]; rfl⟩

/-- Words between which `-v` can be put so that it is read as an option and given only once. -/
structure TakesVerbose (before after : List String) : Prop where
  option : "--" ∉ before
  /-- The word is not taken for the value of another option. -/
  complete : ∀ word ∈ before.getLast?, word ≠ "--path" ∧ word ≠ "--ignore-tag"
  quiet : ∀ word ∈ optionWords (before ++ after), ¬ (Word.ofText word).AsksVerbose

/-- At a place where no value is awaited, `-v` adds verbosity and nothing else. -/
theorem read_verbose_here {d : Draft} (hquiet : d.verbose = false)
    (hcomplete : ∀ s, d.pending ≠ .missing s) {words : List String}
    (hwords : ∀ word ∈ optionWords words, ¬ (Word.ofText word).AsksVerbose) :
    Matched Echoes (read d words) (read d ("-v" :: words)) := by
  have hread : read d ("-v" :: words) = (do read (← (← d.settle).setVerbose) words) := by
    rw [read, show Word.ofText "-v" = .short ['v'] from rfl]
    simp only [addFlags]
    cases d.settle with
    | error e => rfl
    | ok e =>
      simp only [bind, Except.bind]
      cases e.setVerbose <;> rfl
  rw [hread]
  cases hsettle : d.settle with
  | error e =>
    have hspoiled : Spoiled d := ⟨⟨e, hsettle⟩, hcomplete⟩
    obtain ⟨e', he'⟩ := hspoiled.read hwords
    rw [he']
    exact .failed e' e
  | ok e =>
    have hset : e.setVerbose = .ok e.loud := by
      simp [setVerbose, (settle_frame hsettle).2, hquiet, loud]
    have hlouder : Louder d e.loud := .settled hquiet hsettle
    simpa [hset, bind, Except.bind] using hlouder.read hwords

theorem read_verbose {before after : List String} (h : TakesVerbose before after) {d : Draft}
    (hquiet : d.verbose = false) (hstart : before = [] → ∀ s, d.pending ≠ .missing s) :
    Matched Echoes (read d (before ++ after)) (read d (before ++ "-v" :: after)) := by
  induction before generalizing d with
  | nil => exact read_verbose_here hquiet (hstart rfl) h.quiet
  | cons word before ih =>
    have hstop : word ≠ "--" := fun heq => h.option (by simp [heq])
    have hword := h.quiet word (by simp [optionWords, hstop])
    obtain ⟨effect, heffect, hawait⟩ := read_effect hstop hword
    rw [List.cons_append, List.cons_append, heffect, heffect]
    cases happly : effect.apply d with
    | error e => exact .failed e e
    | ok result =>
      cases result with
      | none => exact .both (.same _)
      | some d' =>
        obtain ⟨hverbose, hmissing⟩ := Effect.apply_frame happly
        refine ih ⟨?_, ?_, ?_⟩ (hverbose.trans hquiet) ?_
        · exact fun hin => h.option (List.mem_cons_of_mem word hin)
        · cases before with
          | nil => simp
          | cons next before => simpa using h.complete
        · exact fun w hw => h.quiet w (by simp_all [optionWords])
        · rintro rfl s hs
          obtain ⟨hpath, htag⟩ := h.complete word (by simp)
          exact (hawait s (hmissing s hs)).elim hpath htag

/-- The words behind `check` ask for a check or for its page of the manual. -/
theorem read_request {d : Draft} {words : List String} {r : Request} (h : read d words = .ok r) :
    r = .help .check ∨ ∃ options, r = .run (.check options) := by
  have hfinish : ∀ {d : Draft}, d.finish = .ok r → ∃ options, r = .run (.check options) := by
    intro d h
    obtain ⟨e, _, h⟩ := ok_of_bind h
    exact ⟨e.options, (Except.ok.inj h).symm⟩
  induction words generalizing d with
  | nil => exact Or.inr (hfinish h)
  | cons word words ih =>
    rw [read] at h
    split at h
    · obtain ⟨e, _, h⟩ := ok_of_bind h
      exact Or.inr (hfinish h)
    · obtain ⟨result, _, h⟩ := ok_of_bind h
      cases result with
      | some e => exact ih h
      | none => exact Or.inl (Except.ok.inj h).symm
    · obtain ⟨result, _, h⟩ := ok_of_bind h
      cases result with
      | some e => exact ih h
      | none => exact Or.inl (Except.ok.inj h).symm
    · obtain ⟨e, _, h⟩ := ok_of_bind h
      exact ih h

end CheckOptions

open CheckOptions in
/-- Put between the words of a check where it is read as an option, `-v` changes what they ask for
only in verbosity. -/
theorem Request.ofArguments_verbose {before after : List String} (h : TakesVerbose before after) :
    Matched Echoes (ofArguments ("check" :: (before ++ after)))
      (ofArguments ("check" :: (before ++ "-v" :: after))) :=
  read_verbose h rfl (by simp)

end FeatureLint
