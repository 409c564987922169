import FeatureLint.Line.Json
import FeatureLint.Proofs.RecordForms

namespace FeatureLint

open Json

/-- A field that has to be written, and can be in one way only. -/
def Json.Entry.needed (name : String) (v : Value) : Entry := ⟨name, (· = v), False⟩

/-- A list of forms, one for each of some things. -/
def Json.ListForm {α : Type} (form : α → Value → Prop) (as : List α) (v : Value) : Prop :=
  ∃ vs, v = .list vs ∧ List.Forall₂ form as vs

def Tag.entries (t : Tag) : List Entry :=
  [.needed "text" (.text t.text), .needed "index" (.nat t.index)]

def Keyword.entries (k : Keyword) : List Entry :=
  [.needed "kind" (.text k.kind.name), .needed "index" (.nat k.index)]

/-- A keyword that is missing may be written as such. -/
def Header.KeywordForm : Option Keyword → Value → Prop
  | none, v => v = .null
  | some k, v => Records k.entries v

def Header.entries (h : Header) : List Entry :=
  [ .needed "start" (.nat h.start),
    ⟨"keyword", KeywordForm h.keyword, h.keyword = none⟩,
    ⟨"steps", (· = placesToJson h.steps), h.steps = []⟩,
    ⟨"stepDescriptions", (· = placesToJson h.stepDescriptions), h.stepDescriptions = []⟩,
    ⟨"descriptions", (· = placesToJson h.descriptions), h.descriptions = []⟩ ]

namespace Line

def kind : Line → LineKind
  | .tags _ => .tags
  | .header _ => .stepHeader
  | .body _ => .stepBody
  | .rule _ => .rule

/-- The fields of a line besides its kind. -/
def otherEntries : Line → List Entry
  | .tags l =>
    [.needed "start" (.nat l.start), ⟨"tags", ListForm (fun t => Records t.entries) l.tags, False⟩]
  | .header h => h.entries
  | .body start => [.needed "start" (.nat start)]
  | .rule start => [.needed "start" (.nat start)]

def entries (l : Line) : List Entry := .needed "kind" (.text l.kind.name) :: l.otherEntries

end Line

def Tag.InRange (t : Tag) : Prop := t.index < wordLimit

def Keyword.InRange (k : Keyword) : Prop := k.index < wordLimit

structure Header.InRange (h : Header) : Prop where
  start : h.start < wordLimit
  keyword : ∀ k ∈ h.keyword, k.InRange
  steps : ∀ n ∈ h.steps, n < wordLimit
  stepDescriptions : ∀ n ∈ h.stepDescriptions, n < wordLimit
  descriptions : ∀ n ∈ h.descriptions, n < wordLimit

def Line.InRange : Line → Prop
  | .tags l => l.start < wordLimit ∧ ∀ t ∈ l.tags, t.InRange
  | .header h => h.InRange
  | .body start => start < wordLimit
  | .rule start => start < wordLimit

namespace Json

theorem natural?_nat {n : Nat} (h : n < wordLimit) : (Value.nat n).natural? = some n :=
  natural?_ofNat h

theorem fits_nat {n : Nat} (h : n < wordLimit) (depth : Nat) : (Value.nat n).Fits depth := by
  have hsound := sound_ofNat h
  cases depth <;> simpa [Value.nat, Value.Fits] using hsound

theorem fits_text (s : String) (depth : Nat) : (Value.text s).Fits depth := by
  cases depth <;> trivial

theorem fits_needed {name : String} {v : Value} {depth : Nat} (h : v.Fits depth) :
    ∀ w, (Entry.needed name v).means w → w.Fits depth := by
  rintro w rfl
  exact h

theorem told_needed {found : Option Value} {name : String} {v : Value}
    (h : Told found (.needed name v)) : found = some v := by
  cases found with
  | none => exact h.elim
  | some v' => exact congrArg some h

theorem listOf?_listForm {α : Type} {form : α → Value → Prop} {item : Value → Option α}
    {as : List α} {v : Value} (h : ListForm form as v)
    (hitem : ∀ a ∈ as, ∀ v, form a v → item v = some a) : v.listOf? item = some as := by
  obtain ⟨vs, rfl, hforms⟩ := h
  change vs.mapM item = some as
  induction hforms with
  | nil => rfl
  | cons hhead _ ih =>
    rw [List.forall_mem_cons] at hitem
    simp [hitem.1 _ hhead, ih hitem.2]

theorem listForm_map {α : Type} {form : α → Value → Prop} {print : α → Value}
    (h : ∀ a, form a (print a)) (as : List α) : ListForm form as (.list (as.map print)) := by
  refine ⟨as.map print, rfl, ?_⟩
  rw [List.forall₂_map_right_iff, List.forall₂_same]
  exact fun a _ => h a

theorem listForm_places (places : List Nat) :
    ListForm (fun n v => v = .nat n) places (placesToJson places) := by
  refine listForm_map ?_ places
  intro n
  rfl

theorem ListForm.fits {α : Type} {form : α → Value → Prop} {as : List α} {v : Value}
    (h : ListForm form as v) {depth : Nat}
    (hitem : ∀ a ∈ as, ∀ v, form a v → v.Fits depth) : v.Fits (depth + 1) := by
  obtain ⟨vs, rfl, hforms⟩ := h
  exact forall_of_forall₂ hforms fun a ha v _ hform => hitem a ha v hform

theorem fits_places {places : List Nat} (h : ∀ n ∈ places, n < wordLimit) (depth : Nat) :
    (placesToJson places).Fits (depth + 1) := by
  refine (listForm_places places).fits ?_
  rintro n hn v rfl
  exact fits_nat (h n hn) depth

end Json

theorem Tag.fits_form {t : Tag} (ht : t.InRange) {v : Value} (h : Records t.entries v) :
    v.Fits 101 := by
  refine h.fits (Nat.le_refl 100) ?_
  simp only [entries, List.forall_mem_cons]
  exact ⟨fits_needed (fits_text _ _), fits_needed (fits_nat ht _), by simp⟩

theorem Keyword.fits_form {k : Keyword} (hk : k.InRange) {v : Value} (h : Records k.entries v) :
    v.Fits 101 := by
  refine h.fits (Nat.le_refl 100) ?_
  simp only [entries, List.forall_mem_cons]
  exact ⟨fits_needed (fits_text _ _), fits_needed (fits_nat hk _), by simp⟩

theorem Header.fits_keywordForm {keyword : Option Keyword} (hk : ∀ k ∈ keyword, k.InRange)
    {v : Value} (h : KeywordForm keyword v) : v.Fits 101 := by
  cases keyword with
  | none =>
    obtain rfl : v = .null := h
    trivial
  | some k => exact Keyword.fits_form (hk k rfl) h

theorem Header.fits_entries {h : Header} (hh : h.InRange) :
    ∀ e ∈ h.entries, ∀ v, e.means v → v.Fits 102 := by
  simp only [entries, List.forall_mem_cons]
  refine ⟨fits_needed (fits_nat hh.start _), ?_, ?_, ?_, ?_, by simp⟩
  · intro v hform
    exact (fits_keywordForm hh.keyword hform).mono (by omega)
  · rintro v rfl
    exact fits_places hh.steps _
  · rintro v rfl
    exact fits_places hh.stepDescriptions _
  · rintro v rfl
    exact fits_places hh.descriptions _

theorem Tag.ofJson?_form {t : Tag} (ht : t.InRange) {v : Value} (h : Records t.entries v) :
    Tag.ofJson? v = some t := by
  obtain ⟨found, hfound, htold⟩ := namedFields_records (by simp [entries, Entry.needed]) h
  obtain _ | ⟨htext, _ | ⟨hindex, _ | _⟩⟩ := htold
  obtain rfl := told_needed htext
  obtain rfl := told_needed hindex
  rw [Tag.ofJson?, show ["text", "index"] = t.entries.map Entry.name from rfl, hfound]
  simp [Value.text?, natural?_nat ht]

theorem KeywordKind.ofName?_name (k : KeywordKind) : KeywordKind.ofName? k.name = some k := by
  cases k <;> decide

theorem Keyword.ofJson?_form {k : Keyword} (hk : k.InRange) {v : Value} (h : Records k.entries v) :
    Keyword.ofJson? v = some k := by
  obtain ⟨found, hfound, htold⟩ := namedFields_records (by simp [entries, Entry.needed]) h
  obtain _ | ⟨hkind, _ | ⟨hindex, _ | _⟩⟩ := htold
  obtain rfl := told_needed hkind
  obtain rfl := told_needed hindex
  rw [Keyword.ofJson?, show ["kind", "index"] = k.entries.map Entry.name from rfl, hfound]
  simp [KeywordKind.ofJson?, KeywordKind.ofName?_name, natural?_nat hk]

theorem Header.keywordOfJson?_form {keyword : Option Keyword} (hk : ∀ k ∈ keyword, k.InRange)
    {v : Value} (h : KeywordForm keyword v) : Header.keywordOfJson? v = some keyword := by
  cases keyword with
  | none =>
    obtain rfl : v = .null := h
    rfl
  | some k =>
    have hkeyword := Keyword.ofJson?_form (hk k rfl) h
    cases h <;> simp [Header.keywordOfJson?, hkeyword]

/-- A field that may be left out, whatever was found of it. -/
theorem givenOr_told {α : Type} {found : Option Value} {e : Entry} (h : Told found e) {absent a : α}
    {decode : Value → Option α} (hspare : e.spare → a = absent)
    (hmeans : ∀ v, e.means v → decode v = some a) : givenOr absent decode found = some a := by
  cases found with
  | none => exact congrArg some (hspare h).symm
  | some v => exact hmeans v h

theorem givenOr_places {found : Option Value} {name : String} {places : List Nat}
    (hplaces : ∀ n ∈ places, n < wordLimit)
    (h : Told found ⟨name, (· = placesToJson places), places = []⟩) :
    givenOr [] (·.listOf? Value.natural?) found = some places := by
  refine givenOr_told h id ?_
  rintro v rfl
  refine listOf?_listForm (listForm_places places) ?_
  rintro n hn v rfl
  exact natural?_nat (hplaces n hn)

theorem Header.ofJson?_form {h : Header} (hh : h.InRange) {v : Value} (hv : Records h.entries v) :
    Header.ofJson? v = some h := by
  obtain ⟨found, hfound, htold⟩ := namedFields_records (by simp [entries, Entry.needed]) hv
  obtain _ | ⟨hstart, _ | ⟨hkeyword, _ | ⟨hsteps, _ | ⟨hstepDescriptions, _ | ⟨hdescriptions,
    _ | _⟩⟩⟩⟩⟩ := htold
  obtain rfl := told_needed hstart
  have hkey : givenOr none Header.keywordOfJson? _ = some h.keyword :=
    givenOr_told hkeyword id fun v hform => keywordOfJson?_form hh.keyword hform
  rw [Header.ofJson?, show ["start", "keyword", "steps", "stepDescriptions", "descriptions"] =
    h.entries.map Entry.name from rfl, hfound]
  simp [natural?_nat hh.start, hkey, givenOr_places hh.steps hsteps,
    givenOr_places hh.stepDescriptions hstepDescriptions,
    givenOr_places hh.descriptions hdescriptions]

theorem startOfJson?_form {start : Nat} (hstart : start < wordLimit) {v : Value}
    (h : Records [.needed "start" (.nat start)] v) : startOfJson? v = some start := by
  obtain ⟨found, hfound, htold⟩ := namedFields_records (by simp) h
  obtain _ | ⟨htold, _ | _⟩ := htold
  obtain rfl := told_needed htold
  rw [startOfJson?, show ["start"] = [Entry.needed "start" (.nat start)].map Entry.name from rfl,
    hfound]
  exact natural?_nat hstart

namespace Line

theorem ofJson?_form {l : Line} (hl : l.InRange) {v : Value} (h : Records l.otherEntries v) :
    ofJson? l.kind v = some l := by
  cases l with
  | tags l =>
    obtain ⟨found, hfound, htold⟩ := namedFields_records (by simp [otherEntries, Entry.needed]) h
    obtain _ | ⟨hstart, _ | ⟨htags, _ | _⟩⟩ := htold
    obtain rfl := told_needed hstart
    rename_i tags
    cases tags with
    | none => exact htags.elim
    | some tags =>
      have hlist := listOf?_listForm htags fun t ht v hv => Tag.ofJson?_form (hl.2 t ht) hv
      have htagLine : TagLine.ofJson? v = some l := by
        rw [TagLine.ofJson?, show ["start", "tags"] =
          (Line.tags l).otherEntries.map Entry.name from rfl, hfound]
        simp [natural?_nat hl.1, hlist]
      simp [ofJson?, kind, htagLine]
  | header h' => simp [ofJson?, kind, Header.ofJson?_form hl h]
  | body start => simp [ofJson?, kind, startOfJson?_form hl h]
  | rule start => simp [ofJson?, kind, startOfJson?_form hl h]

theorem entries_nodup (l : Line) : (l.entries.map Entry.name).Nodup := by
  cases l <;> simp [entries, otherEntries, Header.entries, Entry.needed]

theorem fits_entries {l : Line} (hl : l.InRange) :
    ∀ e ∈ l.entries, ∀ v, e.means v → v.Fits 102 := by
  rw [entries, List.forall_mem_cons]
  refine ⟨fits_needed (fits_text _ _), ?_⟩
  cases l with
  | tags l =>
    simp only [otherEntries, List.forall_mem_cons]
    refine ⟨fits_needed (fits_nat hl.1 _), ?_, by simp⟩
    intro v hv
    exact hv.fits fun t ht v hform => Tag.fits_form (hl.2 t ht) hform
  | header h => exact Header.fits_entries hl
  | body start =>
    simp only [otherEntries, List.forall_mem_cons]
    exact ⟨fits_needed (fits_nat hl _), by simp⟩
  | rule start =>
    simp only [otherEntries, List.forall_mem_cons]
    exact ⟨fits_needed (fits_nat hl _), by simp⟩

theorem takes_kind {kind : LineKind} {size : Nat} (hsize : (quoted kind.name).length ≤ size) :
    Takes (readKind size) (quoted kind.name) kind := by
  have hname : LineKind.ofName? kind.name = some kind := by
    cases kind <;> decide
  intro gap rest hgap hrest
  rw [readKind, takes_text hsize gap rest hgap hrest]
  simp [bind, Except.bind, hname]

/-- The kind is set aside wherever it stands; the other fields are collected backwards. -/
theorem steps_readField {size depth : Nat} {kind : LineKind} {fs : List (String × Value)}
    {pieces : List (List Char)} (hspells : SpellsFields fs pieces)
    (hfits : ∀ f ∈ fs, f.2.Fits depth) (hsize : ∀ piece ∈ pieces, piece.length ≤ size)
    {met : Option LineKind}
    (hkind : met = none ∧ fs.filter (·.1 == "kind") = [("kind", .text kind.name)] ∨
      met = some kind ∧ fs.filter (·.1 == "kind") = []) (done : List (String × Value)) :
    Steps (readField size depth) (met, done) pieces
      (some kind, (fs.filter (·.1 != "kind")).reverse ++ done) := by
  induction fs generalizing pieces met done with
  | nil =>
    cases hspells
    obtain ⟨_, habsurd⟩ | ⟨rfl, _⟩ := hkind
    · cases habsurd
    · exact .done _
  | cons f fs ih =>
    cases hspells with
    | @cons key v text behind _ pieces spells assigns others =>
      rw [List.forall_mem_cons] at hfits hsize
      rw [List.length_append] at hsize
      have hlength := assigns.length_le
      by_cases hkey : key = "kind"
      · subst hkey
        rw [List.filter_cons_of_pos (by simp)] at hkind
        obtain ⟨rfl, hfields⟩ | ⟨_, habsurd⟩ := hkind
        · obtain ⟨hhead, hrest⟩ := List.cons.inj hfields
          obtain rfl : v = .text kind.name := (Prod.mk.inj hhead).2
          cases spells with
          | text _ =>
            have hread : Takes (readKind size) (quoted kind.name) kind := takes_kind (by omega)
            have htakes := hread.field assigns fun k => (some k, done)
            rw [List.filter_cons_of_neg (by simp)]
            exact .step htakes (ih others hfits.2 hsize.2 (Or.inr ⟨rfl, hrest⟩) done)
        · cases habsurd
      · have hread : Takes (value size depth) text v := takes_value spells hfits.1 (by omega)
        have htakes := hread.field assigns fun v => (met, (key, v) :: done)
        rw [List.filter_cons_of_neg (by simpa using hkey)] at hkind
        rw [List.filter_cons_of_pos (by simpa using hkey), List.reverse_cons, List.append_assoc,
          List.singleton_append]
        refine .step ?_ (ih others hfits.2 hsize.2 hkind _)
        intro gap rest hgap hrest
        rw [readField, if_neg hkey]
        exact htakes gap rest hgap hrest

section

variable {l : Line} (hl : l.InRange) {depth size : Nat} (hdepth : 102 ≤ depth)

include hl hdepth

theorem readNamed_form {fs : List (String × Value)} (hv : Records l.entries (.object fs))
    {pieces : List (List Char)} (hspells : SpellsFields fs pieces) {body : List Char}
    (hlisting : Listing '\x7d' pieces body) (hsize : body.length ≤ size) (rest : List Char) :
    ∃ v, Records l.otherEntries v ∧
      readNamed size depth (body ++ rest) = .ok ((l.kind, v), rest) := by
  have hfits := hv.fits (by omega) (fits_entries hl)
  obtain ⟨⟨v, rfl, hkind⟩, hothers⟩ := hv.without l.entries_nodup id
  have hsteps : Steps (readField size depth) (none, []) pieces _ := steps_readField hspells
    (fun f hf => (hfits f hf).mono hdepth)
    (fun piece hpiece => Nat.le_trans (hlisting.length_le piece hpiece) hsize)
    (Or.inl ⟨rfl, hkind⟩) []
  refine ⟨_, hothers, ?_⟩
  rw [readNamed, fields_listing hlisting hsize hsteps, List.append_nil]
  simp only [bind, Except.bind, List.reverse_reverse]
  rfl

theorem readOrdered_form {vs : List Value} (hv : Records l.entries (.list vs))
    {pieces : List (List Char)} (hspells : List.Forall₂ Spells vs pieces) {body : List Char}
    (hlisting : Listing ']' pieces body) (hsize : body.length ≤ size) (rest : List Char) :
    ∃ v, Records l.otherEntries v ∧
      readOrdered size depth (body ++ rest) = .ok ((l.kind, v), rest) := by
  have hfits := hv.fits (by omega) (fits_entries hl)
  have hpieces : ∀ piece ∈ pieces, piece.length ≤ size := fun piece hpiece =>
    Nat.le_trans (hlisting.length_le piece hpiece) hsize
  have hbound := hlisting.length_lt
  cases hv with
  | list ordered =>
    cases ordered with
    | stop spare => exact absurd (spare (.needed "kind" _) List.mem_cons_self) id
    | given means others =>
      obtain rfl := means
      cases hspells with
      | cons spells others' =>
        cases spells
        cases hlisting with
        | @first _ _ text _ blank following =>
          rw [Value.Fits, List.forall_mem_cons] at hfits
          rw [List.forall_mem_cons] at hpieces
          rw [List.length_cons] at hbound
          have hkind := (takes_kind hpieces.1).bare (following.ended (Or.inl rfl) rest)
          have hsolid : Solid (quoted l.kind.name) := ⟨'"', _, quoted_eq _, by decide⟩
          have hitems : items (value size depth) (size + 1) false [] (text ++ rest) = _ :=
            items_following following
              (forall₂_of_mem others' fun v hmem piece hpiece hspells =>
                ⟨hspells.solid (hfits.2 v hmem).sound,
                  takes_value hspells ((hfits.2 v hmem).mono hdepth) (hpieces.2 piece hpiece)⟩)
              (by omega) [] rest
          refine ⟨_, .list others, ?_⟩
          rw [readOrdered, List.append_assoc, List.append_assoc, nextItem_first blank hsolid]
          simp only [bind, Except.bind, hkind]
          rw [hitems]
          rfl

/-- Every form of a line is read as that line. -/
theorem takes_line {v : Value} (hv : Records l.entries v) {cs : List Char} (h : Spells v cs)
    (hsize : cs.length ≤ size) : Takes (read size (depth + 1)) cs l := by
  intro gap rest hgap _
  cases h with
  | object fields listing =>
    rw [List.length_cons] at hsize
    obtain ⟨others, hothers, hread⟩ :=
      readNamed_form hl hdepth hv fields listing (Nat.le_of_succ_le hsize) rest
    unfold read
    rw [List.cons_append, skipBlank_gap hgap rfl]
    simp [bind, Except.bind, hread, ofJson?_form hl hothers]
  | list items listing =>
    rw [List.length_cons] at hsize
    obtain ⟨others, hothers, hread⟩ :=
      readOrdered_form hl hdepth hv items listing (Nat.le_of_succ_le hsize) rest
    unfold read
    rw [List.cons_append, skipBlank_gap hgap rfl]
    simp [bind, Except.bind, hread, ofJson?_form hl hothers]
  | null => cases hv
  | bool b => cases hv
  | number n => cases hv
  | text s => cases hv

end

end Line

theorem Tag.records_toJson (t : Tag) : Records t.entries t.toJson :=
  (Kept.given rfl (.given rfl .nil)).records

theorem Keyword.records_toJson (k : Keyword) : Records k.entries k.toJson :=
  (Kept.given rfl (.given rfl .nil)).records

theorem Line.records_toJson (l : Line) : Records l.entries l.toJson := by
  cases l with
  | tags l =>
    have htags := listForm_map Tag.records_toJson l.tags
    exact (Kept.given rfl (.given rfl (.given htags .nil))).records
  | header h =>
    obtain ⟨start, keyword, steps, stepDescriptions, descriptions⟩ := h
    cases keyword with
    | none =>
      exact (Kept.given rfl (.given rfl (.given rfl (.given rfl (.given rfl (.given rfl
        .nil)))))).records
    | some k =>
      exact (Kept.given rfl (.given rfl (.given k.records_toJson (.given rfl (.given rfl (.given rfl
        .nil)))))).records
  | body start => exact (Kept.given rfl (.given rfl .nil)).records
  | rule start => exact (Kept.given rfl (.given rfl .nil)).records

end FeatureLint
