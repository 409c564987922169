import FeatureLint.Proofs.Skipping
import Mathlib.Data.List.Nodup

namespace FeatureLint.Json

/-- A field of a record that is to be written. -/
structure Entry where
  name : String
  /-- The values that say what the field holds. -/
  means : Value → Prop
  /-- The field holds what a missing one is taken for. -/
  spare : Prop

/-- The fields of a record in its own order, some of them left out. -/
inductive Kept : List Entry → List (String × Value) → Prop where
  | nil : Kept [] []
  | given {e : Entry} {es : List Entry} {v : Value} {fs : List (String × Value)} (means : e.means v)
      (rest : Kept es fs) : Kept (e :: es) ((e.name, v) :: fs)
  | left {e : Entry} {es : List Entry} {fs : List (String × Value)} (spare : e.spare)
      (rest : Kept es fs) : Kept (e :: es) fs

/-- The values of the fields one after another, the last ones left out. -/
inductive InOrder : List Entry → List Value → Prop where
  | stop {es : List Entry} (spare : ∀ e ∈ es, e.spare) : InOrder es []
  | given {e : Entry} {es : List Entry} {v : Value} {vs : List Value} (means : e.means v)
      (rest : InOrder es vs) : InOrder (e :: es) (v :: vs)

/-- Fields that a record does not know, with values nested at most a hundred levels. -/
def Unknown (es : List Entry) (f : String × Value) : Prop :=
  f.1 ∉ es.map Entry.name ∧ f.2.Fits 100

/-- A value that a record may be written as. -/
inductive Records (es : List Entry) : Value → Prop where
  | object {known extra fs : List (String × Value)} (kept : Kept es known)
      (unknown : ∀ f ∈ extra, Unknown es f) (perm : fs.Perm (known ++ extra)) :
      Records es (.object fs)
  | list {vs : List Value} (ordered : InOrder es vs) : Records es (.list vs)

theorem Kept.records {es : List Entry} {fs : List (String × Value)} (h : Kept es fs) :
    Records es (.object fs) :=
  .object h (List.forall_mem_nil _) (by rw [List.append_nil])

section

variable {es : List Entry}

theorem Kept.sublist {fs : List (String × Value)} (h : Kept es fs) :
    (fs.map Prod.fst).Sublist (es.map Entry.name) := by
  induction h with
  | nil => exact .slnil
  | given means rest ih => exact ih.cons_cons _
  | left spare rest ih => exact ih.cons _

theorem Kept.means {fs : List (String × Value)} (h : Kept es fs) :
    ∀ f ∈ fs, ∃ e ∈ es, e.name = f.1 ∧ e.means f.2 := by
  induction h with
  | nil => simp
  | given means rest ih =>
    rw [List.forall_mem_cons]
    refine ⟨⟨_, List.mem_cons_self, rfl, means⟩, ?_⟩
    intro f hf
    obtain ⟨e, he, hmeans⟩ := ih f hf
    exact ⟨e, List.mem_cons_of_mem _ he, hmeans⟩
  | left spare rest ih =>
    intro f hf
    obtain ⟨e, he, hmeans⟩ := ih f hf
    exact ⟨e, List.mem_cons_of_mem _ he, hmeans⟩

/-- A field is either there or can be done without. -/
theorem Kept.spare {fs : List (String × Value)} (h : Kept es fs) :
    ∀ e ∈ es, e.name ∈ fs.map Prod.fst ∨ e.spare := by
  induction h with
  | nil => simp
  | given means rest ih =>
    rw [List.forall_mem_cons]
    refine ⟨Or.inl (by simp), ?_⟩
    intro e he
    exact (ih e he).imp_left (List.mem_cons_of_mem _)
  | left spare rest ih =>
    rw [List.forall_mem_cons]
    exact ⟨Or.inr spare, ih⟩

variable (hnodup : (es.map Entry.name).Nodup) {known extra fs : List (String × Value)}
  (hkept : Kept es known) (hunknown : ∀ f ∈ extra, Unknown es f) (hperm : fs.Perm (known ++ extra))

include hkept hunknown hperm

theorem fields_cases : ∀ f ∈ fs, (∃ e ∈ es, e.name = f.1 ∧ e.means f.2) ∨ Unknown es f := by
  intro f hf
  rcases List.mem_append.mp (hperm.mem_iff.mp hf) with hf | hf
  · exact Or.inl (hkept.means f hf)
  · exact Or.inr (hunknown f hf)

include hnodup

/-- No known field comes twice. -/
theorem count_known {name : String} (hname : name ∈ es.map Entry.name) :
    (fs.map Prod.fst).count name ≤ 1 := by
  have hextra : (extra.map Prod.fst).count name = 0 := by
    rw [List.count_eq_zero, List.mem_map]
    rintro ⟨f, hf, rfl⟩
    exact (hunknown f hf).1 hname
  have hcount := (hperm.map Prod.fst).count_eq name
  rw [List.map_append, List.count_append, hextra] at hcount
  have hle := List.nodup_iff_count_le_one.mp (hkept.sublist.nodup hnodup) name
  omega

end

/-- A slot that takes in the values of a field. The drafts of the record are those in which the
fields of given names were read. -/
structure Serves {σ : Type} (size : Nat) (draft : List String → σ) (slot : Slot σ) (e : Entry) :
    Prop where
  name : slot.name = e.name
  stored : ∀ names, slot.stored (draft names) = decide (e.name ∈ names)
  numbers : ∀ n, e.means (.number n) → n.Sound
  takes : ∀ v text, e.means v → Spells v text → text.length ≤ size →
    ∃ change, Takes slot.read text change ∧
      ∀ names, change (draft names) = draft (e.name :: names)

theorem Takes.map {α β : Type} {read : Reader α} {text : List Char} {a : α} (h : Takes read text a)
    (use : α → β) :
    Takes (fun cs => do
      let (x, cs) ← read cs
      return (use x, cs)) text (use a) := by
  intro gap rest hgap hrest
  dsimp only
  rw [h gap rest hgap hrest]
  rfl

theorem takes_unknown {size depth : Nat} {v : Value} {text behind : List Char} (h : Spells v text)
    (hv : v.Fits depth) (hsize : text.length ≤ size) (hbehind : Assigns text behind) {σ : Type}
    (s : σ) : Takes (fun cs => do return (s, ← skipValue size (← colon cs))) behind s := by
  intro gap rest hgap hrest
  cases hbehind with
  | colon blank blank' =>
    dsimp only
    rw [List.append_assoc, List.cons_append, List.append_assoc, colon_gap hgap blank]
    simp only [bind, Except.bind]
    rw [skipValue_spells h hv hsize blank' hrest]
    rfl

theorem orderedFields_close {σ : Type} {gap : List Char} (hgap : Blank gap) (slots : List (Slot σ))
    (first : Bool) (s : σ) (rest : List Char) :
    orderedFields slots first s (gap ++ ']' :: rest) = .ok (s, rest) := by
  cases slots with
  | nil =>
    simp only [orderedFields, closeList, skipBlank_gap hgap (c := ']') rfl]
    rfl
  | cons slot slots =>
    simp only [orderedFields, nextItem_close hgap, bind, Except.bind, closeList_close]
    rfl

section

variable {σ : Type} {size : Nat} {draft : List String → σ} {slots : List (Slot σ)} {es : List Entry}
  (hserves : List.Forall₂ (Serves size draft) slots es)

include hserves

theorem find?_known (hnodup : (es.map Entry.name).Nodup) {e : Entry} (he : e ∈ es) :
    ∃ slot, slots.find? (·.name == e.name) = some slot ∧ Serves size draft slot e := by
  induction hserves with
  | nil => simp at he
  | @cons slot e' slots es hhead _ ih =>
    rw [List.map_cons, List.nodup_cons] at hnodup
    rcases List.mem_cons.mp he with rfl | he
    · exact ⟨slot, by simp [hhead.name], hhead⟩
    · have hother : slot.name ≠ e.name := by
        intro heq
        exact hnodup.1 (List.mem_map.mpr ⟨e, he, by rw [← heq, hhead.name]⟩)
      simpa [hother] using ih hnodup.2 he

theorem find?_unknown {key : String} (hkey : key ∉ es.map Entry.name) :
    slots.find? (·.name == key) = none := by
  induction hserves with
  | nil => rfl
  | cons hhead _ ih =>
    rw [List.map_cons, List.mem_cons, not_or] at hkey
    simpa [hhead.name, Ne.symm hkey.1] using ih hkey.2

/-- The fields of an object are read in any order, unknown ones among them. -/
theorem steps_named (hnodup : (es.map Entry.name).Nodup)
    (hdraft : ∀ key ∉ es.map Entry.name, ∀ names, draft (key :: names) = draft names)
    {fs : List (String × Value)} {pieces : List (List Char)} (hspells : SpellsFields fs pieces)
    (hfs : ∀ f ∈ fs, (∃ e ∈ es, e.name = f.1 ∧ e.means f.2) ∨ Unknown es f)
    (hsize : ∀ piece ∈ pieces, piece.length ≤ size) (names : List String)
    (hcount : ∀ name ∈ es.map Entry.name, (fs.map Prod.fst ++ names).count name ≤ 1) :
    Steps (namedField size slots) (draft names) pieces
      (draft ((fs.map Prod.fst).reverse ++ names)) := by
  induction fs generalizing pieces names with
  | nil =>
    cases hspells
    exact .done _
  | cons f fs ih =>
    cases hspells with
    | @cons key v text behind fs pieces spells assigns others =>
      rw [List.forall_mem_cons] at hfs hsize
      rw [List.length_append] at hsize
      have hlength := assigns.length_le
      have hlater := ih others hfs.2 hsize.2 (key :: names) (by
        intro name hname
        have hle := hcount name hname
        rwa [List.map_cons, List.cons_append, ← List.perm_middle.count_eq] at hle)
      rw [List.map_cons, List.reverse_cons, List.append_assoc, List.singleton_append]
      refine .step ?_ hlater
      rcases hfs.1 with ⟨e, he, rfl, hmeans⟩ | ⟨hkey, hfits⟩
      · obtain ⟨slot, hfind, hslot⟩ := find?_known hserves hnodup he
        obtain ⟨change, htakes, hchange⟩ := hslot.takes v text hmeans spells (by omega)
        have hnew : slot.stored (draft names) = false := by
          rw [hslot.stored, decide_eq_false_iff_not]
          intro hmem
          have hle := hcount e.name (List.mem_map_of_mem he)
          have hpos := List.count_pos_iff.mpr hmem
          rw [List.map_cons, List.cons_append, List.count_cons_self, List.count_append] at hle
          omega
        have hfield := htakes.field assigns fun change => change (draft names)
        intro gap rest hgap hrest
        simp only [namedField, hfind, hnew, Bool.false_eq_true, if_false]
        rw [← hchange names]
        exact hfield gap rest hgap hrest
      · intro gap rest hgap hrest
        simp only [namedField, find?_unknown hserves hkey]
        rw [hdraft _ hkey]
        exact takes_unknown spells hfits (by omega) assigns (draft names) gap rest hgap hrest

/-- The items of a list are taken as the fields in order, up to where it ends. -/
theorem orderedFields_following {vs : List Value} (hordered : InOrder es vs)
    {pieces : List (List Char)} (hspells : List.Forall₂ Spells vs pieces) {text : List Char}
    (hf : Following ']' pieces text) (hsize : ∀ piece ∈ pieces, piece.length ≤ size)
    (names : List String) (rest : List Char) :
    ∃ names', orderedFields slots false (draft names) (text ++ rest) = .ok (draft names', rest) ∧
      (∀ e ∈ es, e.name ∈ names' ∨ e.spare) ∧ ∀ name ∈ names, name ∈ names' := by
  induction hordered generalizing slots pieces text names with
  | @stop es spare =>
    cases hspells
    cases hf with
    | done blank =>
      refine ⟨names, ?_, fun e he => Or.inr (spare e he), fun name hname => hname⟩
      rw [List.append_assoc, List.singleton_append, orderedFields_close blank]
  | @given e es v vs means _ ih =>
    cases hspells with
    | @cons _ piece _ pieces spells others =>
      cases hserves with
      | @cons slot _ slots _ hslot hslots =>
        cases hf with
        | @more gap gap' _ text _ blank blank' following =>
          rw [List.forall_mem_cons] at hsize
          have hsolid := spells.solid fun n hn => hslot.numbers n (hn ▸ means)
          obtain ⟨change, htakes, hchange⟩ := hslot.takes v piece means spells hsize.1
          obtain ⟨names', hlater, hgiven, hsub⟩ :=
            ih hslots others following hsize.2 (e.name :: names)
          rw [List.forall_mem_cons] at hsub
          refine ⟨names', ?_, ?_, hsub.2⟩
          · simp only [List.append_assoc, List.cons_append]
            rw [orderedFields, nextItem_more blank blank' hsolid]
            simp only [bind, Except.bind]
            rw [htakes.bare (following.ended (Or.inl rfl) rest)]
            dsimp only
            rw [hchange, hlater]
          · rw [List.forall_mem_cons]
            exact ⟨Or.inl hsub.1, hgiven⟩

theorem orderedFields_listing {vs : List Value} (hordered : InOrder es vs)
    {pieces : List (List Char)} (hspells : List.Forall₂ Spells vs pieces) {text : List Char}
    (hl : Listing ']' pieces text) (hsize : text.length ≤ size) (rest : List Char) :
    ∃ names, orderedFields slots true (draft []) (text ++ rest) = .ok (draft names, rest) ∧
      ∀ e ∈ es, e.name ∈ names ∨ e.spare := by
  have hpieces : ∀ piece ∈ pieces, piece.length ≤ size := fun piece hpiece =>
    Nat.le_trans (hl.length_le piece hpiece) hsize
  cases hl with
  | nothing blank =>
    cases hspells
    cases hordered with
    | stop spare =>
      refine ⟨[], ?_, fun e he => Or.inr (spare e he)⟩
      rw [List.append_assoc, List.singleton_append, orderedFields_close blank]
  | @first gap piece text pieces blank following =>
    cases hspells with
    | @cons v _ vs _ spells others =>
      cases hordered with
      | @given e es _ _ means ordered =>
        cases hserves with
        | @cons slot _ slots _ hslot hslots =>
          rw [List.forall_mem_cons] at hpieces
          have hsolid := spells.solid fun n hn => hslot.numbers n (hn ▸ means)
          obtain ⟨change, htakes, hchange⟩ := hslot.takes v piece means spells hpieces.1
          obtain ⟨names, hlater, hgiven, hsub⟩ :=
            orderedFields_following hslots ordered others following hpieces.2 [e.name] rest
          refine ⟨names, ?_, ?_⟩
          · simp only [List.append_assoc]
            rw [orderedFields, nextItem_first blank hsolid]
            simp only [bind, Except.bind]
            rw [htakes.bare (following.ended (Or.inl rfl) rest)]
            dsimp only
            rw [hchange, hlater]
          · rw [List.forall_mem_cons]
            exact ⟨Or.inl (hsub _ (by simp)), hgiven⟩

end

/-- Every form of a record is read as that record. -/
theorem takes_record {σ α : Type} {size depth : Nat} {draft : List String → σ}
    (known : Nat → List (Slot σ)) (finish : σ → Option α) {es : List Entry}
    (hserves : List.Forall₂ (Serves size draft) (known depth) es)
    (hnodup : (es.map Entry.name).Nodup)
    (hdraft : ∀ key ∉ es.map Entry.name, ∀ names, draft (key :: names) = draft names)
    {a : α}
    (hfinish : ∀ names, (∀ e ∈ es, e.name ∈ names ∨ e.spare) → finish (draft names) = some a)
    {v : Value} (hv : Records es v) {cs : List Char} (h : Spells v cs) (hsize : cs.length ≤ size) :
    Takes (record size (depth + 1) known (draft []) finish) cs a := by
  intro gap rest hgap _
  cases hv with
  | @object known extra fs kept unknown perm =>
    cases h with
    | @object _ pieces body fields listing =>
      rw [List.length_cons] at hsize
      have hsteps := steps_named hserves hnodup hdraft fields (fields_cases kept unknown perm)
        (fun piece hpiece => Nat.le_trans (listing.length_le piece hpiece) (by omega))
        [] (fun name hname => by
          rw [List.append_nil]
          exact count_known hnodup kept unknown perm hname)
      have hgiven : ∀ e ∈ es, e.name ∈ (fs.map Prod.fst).reverse ++ [] ∨ e.spare := by
        intro e he
        refine (kept.spare e he).imp_left fun hmem => ?_
        rw [List.append_nil, List.mem_reverse]
        exact (perm.map Prod.fst).mem_iff.mpr (by simp [List.map_append, hmem])
      unfold record
      rw [List.cons_append, skipBlank_gap hgap rfl]
      simp only [bind, Except.bind]
      rw [fields_listing listing (by omega) hsteps]
      simp only [hfinish _ hgiven]
  | @list vs ordered =>
    cases h with
    | @list _ pieces body items listing =>
      rw [List.length_cons] at hsize
      obtain ⟨names, hread, hgiven⟩ :=
        orderedFields_listing hserves ordered items listing (by omega) rest
      unfold record
      rw [List.cons_append, skipBlank_gap hgap rfl]
      simp only [bind, Except.bind]
      rw [hread]
      simp only [hfinish _ hgiven]

/-- What was found of a field says what it holds; nothing is found only of one that can be done
without. -/
def Told : Option Value → Entry → Prop
  | none, e => e.spare
  | some v, e => e.means v

theorem InOrder.told {es : List Entry} {vs : List Value} (h : InOrder es vs) :
    vs.length ≤ es.length ∧
      List.Forall₂ Told (vs.map some ++ List.replicate (es.length - vs.length) none) es := by
  induction h with
  | @stop es spare =>
    refine ⟨Nat.zero_le _, ?_⟩
    induction es with
    | nil => exact .nil
    | cons e es ih =>
      rw [List.forall_mem_cons] at spare
      exact .cons spare.1 (ih spare.2)
  | given means _ ih =>
    refine ⟨by simpa using ih.1, .cons means ?_⟩
    simpa using ih.2

section

variable {es : List Entry} (hnodup : (es.map Entry.name).Nodup)

include hnodup

theorem told_find? {known extra fs : List (String × Value)} (hkept : Kept es known)
    (hunknown : ∀ f ∈ extra, Unknown es f) (hperm : fs.Perm (known ++ extra)) {e : Entry}
    (he : e ∈ es) : Told ((fs.find? (·.1 == e.name)).map (·.2)) e := by
  cases hfind : fs.find? (·.1 == e.name) with
  | none =>
    refine (hkept.spare e he).resolve_left fun hmem => ?_
    obtain ⟨f, hf, hname⟩ := List.mem_map.mp hmem
    have hnone := List.find?_eq_none.mp hfind f (hperm.mem_iff.mpr (by simp [hf]))
    exact hnone (by simpa using hname)
  | some f =>
    have hname : f.1 = e.name := by simpa using List.find?_some hfind
    rcases fields_cases hkept hunknown hperm f (List.mem_of_find?_eq_some hfind) with
      ⟨e', he', hname', hmeans⟩ | ⟨hkey, _⟩
    · obtain rfl := List.inj_on_of_nodup_map hnodup he' he (hname'.trans hname)
      exact hmeans
    · exact absurd (hname ▸ List.mem_map_of_mem he) hkey

/-- Looking up the fields of a record finds what each of them holds, in every form. -/
theorem namedFields_records {v : Value} (h : Records es v) :
    ∃ found, v.namedFields (es.map Entry.name) = some found ∧ List.Forall₂ Told found es := by
  cases h with
  | @object known extra fs kept unknown perm =>
    refine ⟨(es.map Entry.name).map fun name => (fs.find? (·.1 == name)).map (·.2), ?_, ?_⟩
    · refine if_pos (List.all_eq_true.mpr fun name hname => ?_)
      have hcount := count_known hnodup kept unknown perm hname
      rw [List.count, List.countP_map, List.countP_eq_length_filter] at hcount
      exact decide_eq_true hcount
    · rw [List.map_map, List.forall₂_map_left_iff, List.forall₂_same]
      intro e he
      exact told_find? hnodup kept unknown perm he
  | list ordered =>
    obtain ⟨hlength, htold⟩ := ordered.told
    refine ⟨_, if_pos (by simpa using hlength), ?_⟩
    simpa using htold

end

theorem Records.fits {es : List Entry} {v : Value} (h : Records es v) {depth : Nat}
    (hdepth : 100 ≤ depth) (hmeans : ∀ e ∈ es, ∀ v, e.means v → v.Fits depth) :
    v.Fits (depth + 1) := by
  cases h with
  | object kept unknown perm =>
    intro f hf
    rcases fields_cases kept unknown perm f hf with ⟨e, he, _, hvalue⟩ | ⟨_, hfits⟩
    · exact hmeans e he f.2 hvalue
    · exact hfits.mono hdepth
  | list ordered =>
    intro v hv
    induction ordered with
    | stop spare => simp at hv
    | given means _ ih =>
      rw [List.forall_mem_cons] at hmeans
      rcases List.mem_cons.mp hv with rfl | hv
      · exact hmeans.1 v means
      · exact ih hmeans.2 hv

/-- A field that must be given stands once in an object, and without it the object is a form of the
other fields. -/
theorem Records.without {e : Entry} {es : List Entry} (hnodup : ((e :: es).map Entry.name).Nodup)
    (hneeded : ¬ e.spare) {fs : List (String × Value)} (h : Records (e :: es) (.object fs)) :
    (∃ v, e.means v ∧ fs.filter (·.1 == e.name) = [(e.name, v)]) ∧
      Records es (.object (fs.filter (·.1 != e.name))) := by
  rw [List.map_cons, List.nodup_cons] at hnodup
  cases h with
  | @object known extra _ kept unknown perm =>
    cases kept with
    | left spare _ => exact absurd spare hneeded
    | @given _ _ v known means rest =>
      have hother : ∀ f ∈ known ++ extra, f.1 ≠ e.name := by
        intro f hf heq
        rcases List.mem_append.mp hf with hf | hf
        · exact hnodup.1 (rest.sublist.subset (List.mem_map.mpr ⟨f, hf, heq⟩))
        · exact (unknown f hf).1 (by simp [heq])
      constructor
      · have hfilter := perm.filter (·.1 == e.name)
        have hnone : (known ++ extra).filter (·.1 == e.name) = [] :=
          List.filter_eq_nil_iff.mpr fun f hf => by simpa using hother f hf
        rw [List.cons_append, List.filter_cons_of_pos (by simp), hnone] at hfilter
        exact ⟨v, means, List.perm_singleton.mp hfilter⟩
      · have hfilter := perm.filter (·.1 != e.name)
        have hall : (known ++ extra).filter (·.1 != e.name) = known ++ extra :=
          List.filter_eq_self.mpr fun f hf => by simpa using hother f hf
        rw [List.cons_append, List.filter_cons_of_neg (by simp), hall] at hfilter
        refine .object rest ?_ hfilter
        intro f hf
        obtain ⟨hkey, hfits⟩ := unknown f hf
        exact ⟨fun hmem => hkey (List.mem_cons_of_mem _ hmem), hfits⟩

end FeatureLint.Json
