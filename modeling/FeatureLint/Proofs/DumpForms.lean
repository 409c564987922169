import FeatureLint.Dump
import FeatureLint.Proofs.LineForms

namespace FeatureLint

open Json

/-- What is known of a field once the fields of given names were read. -/
def Json.shown {α : Type} (name : String) (a : α) (names : List String) : Option α :=
  if name ∈ names then some a else none

theorem Json.shown_self {α : Type} (name : String) (a : α) (names : List String) :
    shown name a (name :: names) = some a := by
  simp [shown]

theorem Json.shown_other {α : Type} {name key : String} (h : key ≠ name) (a : α)
    (names : List String) : shown name a (key :: names) = shown name a names := by
  simp [shown, h.symm]

theorem Json.isSome_shown {α : Type} (name : String) (a : α) (names : List String) :
    (shown name a names).isSome = decide (name ∈ names) := by
  unfold shown
  split <;> simp_all

theorem Json.getD_shown {α : Type} {name : String} {a absent : α} {names : List String}
    (h : name ∈ names ∨ a = absent) : (shown name a names).getD absent = a := by
  unfold shown
  split
  · rfl
  · exact (h.resolve_left ‹_›).symm

/-- A slot that reads a field and stores it. -/
theorem Json.serves_slot {σ α : Type} {size : Nat} {draft : List String → σ} {e : Entry}
    {read : Reader α} (a : α) (store : α → σ → σ) {stored : σ → Bool}
    (hstored : ∀ names, stored (draft names) = decide (e.name ∈ names))
    (hstore : ∀ names, store a (draft names) = draft (e.name :: names))
    (hnumbers : ∀ n, e.means (.number n) → n.Sound)
    (htakes : ∀ v text, e.means v → Spells v text → text.length ≤ size → Takes read text a) :
    Serves size draft ⟨e.name, fun cs => do
      let (x, cs) ← read cs
      return (store x, cs), stored⟩ e where
  name := rfl
  stored := hstored
  numbers := hnumbers
  takes v text hmeans hspells hsize :=
    ⟨store a, (htakes v text hmeans hspells hsize).map store, hstore⟩

/-- A slot that reads a number and stores it. -/
theorem Json.serves_natural {σ : Type} {size : Nat} {draft : List String → σ} {name : String}
    {n : Nat} (hn : n < wordLimit) (store : Nat → σ → σ) {stored : σ → Bool}
    (hstored : ∀ names, stored (draft names) = decide (name ∈ names))
    (hstore : ∀ names, store n (draft names) = draft (name :: names)) :
    Serves size draft ⟨name, fun cs => do
      let (x, cs) ← natural size cs
      return (store x, cs), stored⟩ (.needed name (.nat n)) := by
  refine serves_slot (e := .needed name (.nat n)) n store hstored hstore ?_ ?_
  · intro m hm
    obtain rfl := Value.number.inj hm
    exact sound_ofNat hn
  · rintro v text rfl ⟨⟩ _
    exact takes_natural hn size

namespace Token

structure InRange (t : Token) : Prop where
  index : t.index < wordLimit
  line : t.line < wordLimit
  column : t.column < wordLimit

def entries (t : Token) : List Entry :=
  [ .needed "index" (.nat t.index),
    .needed "line" (.nat t.line),
    .needed "column" (.nat t.column),
    .needed "text" (.text t.text),
    ⟨"hidden", (· = .bool t.hidden), t.hidden = false⟩ ]

/-- The token once the fields of the given names were read. -/
def draft (t : Token) (names : List String) : Draft :=
  ⟨shown "index" t.index names, shown "line" t.line names, shown "column" t.column names,
    shown "text" t.text names, shown "hidden" t.hidden names⟩

theorem serves_fields {t : Token} (ht : t.InRange) (size : Nat) :
    List.Forall₂ (Serves size t.draft) (fields size) t.entries := by
  refine .cons ?_ (.cons ?_ (.cons ?_ (.cons ?_ (.cons ?_ .nil))))
  · refine serves_natural ht.index (fun n (d : Draft) => { d with index := some n })
      (isSome_shown "index" t.index) fun names => ?_
    simp [draft, shown_self, shown_other]
  · refine serves_natural ht.line (fun n (d : Draft) => { d with line := some n })
      (isSome_shown "line" t.line) fun names => ?_
    simp [draft, shown_self, shown_other]
  · refine serves_natural ht.column (fun n (d : Draft) => { d with column := some n })
      (isSome_shown "column" t.column) fun names => ?_
    simp [draft, shown_self, shown_other]
  · refine serves_slot (e := .needed "text" _) t.text
      (fun s (d : Draft) => { d with text := some s })
      (isSome_shown "text" t.text) ?_ (by simp [Entry.needed]) ?_
    · intro names
      simp [draft, Entry.needed, shown_self, shown_other]
    · rintro v text rfl ⟨⟩ hsize
      exact takes_text hsize
  · refine serves_slot (e := ⟨"hidden", _, _⟩) t.hidden
      (fun b (d : Draft) => { d with hidden := some b })
      (isSome_shown "hidden" t.hidden) ?_ (by simp) ?_
    · intro names
      simp [draft, shown_self, shown_other]
    · rintro v text rfl ⟨⟩ _
      exact takes_boolean t.hidden size

theorem draft_unknown (t : Token) {key : String} (hkey : key ∉ t.entries.map Entry.name)
    (names : List String) : t.draft (key :: names) = t.draft names := by
  simp only [entries, Entry.needed, List.map_cons, List.map_nil, List.mem_cons, not_or] at hkey
  simp [draft, shown_other, hkey]

theorem finish_draft {t : Token} {names : List String}
    (h : ∀ e ∈ t.entries, e.name ∈ names ∨ e.spare) : (t.draft names).finish = some t := by
  simp only [entries, Entry.needed, List.forall_mem_cons, or_false] at h
  obtain ⟨hindex, hline, hcolumn, htext, hhidden, _⟩ := h
  simp only [draft, Draft.finish, getD_shown hhidden]
  simp [shown, hindex, hline, hcolumn, htext]

/-- Every form of a token is read as that token. -/
theorem takes_token {t : Token} (ht : t.InRange) {v : Value} (hv : Records t.entries v)
    {cs : List Char} (h : Spells v cs) {size : Nat} (hsize : cs.length ≤ size) (depth : Nat) :
    Takes (read size (depth + 1)) cs t :=
  takes_record (fun _ => fields size) Draft.finish (serves_fields ht size)
    (by simp [entries, Entry.needed])
    (fun key hkey names => t.draft_unknown hkey names) (fun names hnames => finish_draft hnames)
    hv h hsize

theorem records_toJson (t : Token) : Records t.entries t.toJson :=
  (Kept.given rfl (.given rfl (.given rfl (.given rfl (.given rfl .nil))))).records

end Token

namespace Dump

structure InRange (d : Dump) : Prop where
  tokens : ∀ t ∈ d.tokens, t.InRange
  lines : ∀ l ∈ d.lines, l.InRange

def sourceValue : Option String → Value
  | none => .null
  | some s => .text s

def entries (d : Dump) : List Entry :=
  [ ⟨"source", (· = sourceValue d.source), d.source = none⟩,
    ⟨"tokens", ListForm (fun t => Records t.entries) d.tokens, d.tokens = []⟩,
    ⟨"lines", ListForm (fun l => Records l.entries) d.lines, d.lines = []⟩ ]

/-- The dump once the fields of the given names were read. -/
def draft (d : Dump) (names : List String) : Draft :=
  ⟨shown "source" d.source names, shown "tokens" d.tokens names, shown "lines" d.lines names⟩

theorem takes_source {source : Option String} {text : List Char}
    (h : Spells (sourceValue source) text) {size : Nat} (hsize : text.length ≤ size) :
    Takes (optional (Json.text size)) text source := by
  cases source with
  | none =>
    cases h
    exact takes_optional_null _
  | some s =>
    cases h
    exact takes_optional_text hsize

/-- The reader of a list of records makes of every form of them what the reader of one does. -/
theorem takes_listForm {α : Type} {size depth : Nat} {item : Nat → Reader α}
    {entries : α → List Entry} {as : List α} {v : Value}
    (hv : ListForm (fun a => Records (entries a)) as v) {cs : List Char} (h : Spells v cs)
    (hsize : cs.length ≤ size)
    (htakes : ∀ a ∈ as, ∀ v cs, Records (entries a) v → Spells v cs → cs.length ≤ size →
      Takes (item depth) cs a) : Takes (listOf size (depth + 1) item) cs as := by
  obtain ⟨vs, rfl, hforms⟩ := hv
  cases h with
  | @list _ pieces body items listing =>
    rw [List.length_cons] at hsize
    refine takes_listOf listing (by omega) ?_
    have hpieces : ∀ piece ∈ pieces, piece.length ≤ size := fun piece hpiece =>
      Nat.le_trans (listing.length_le piece hpiece) (by omega)
    clear listing
    induction hforms generalizing pieces with
    | nil =>
      cases items
      exact .nil
    | cons hform _ ih =>
      cases items with
      | cons hspells others =>
        rw [List.forall_mem_cons] at htakes hpieces
        refine .cons ⟨?_, htakes.1 _ _ hform hspells hpieces.1⟩ (ih htakes.2 others hpieces.2)
        refine hspells.solid ?_
        rintro n rfl
        cases hform

theorem serves_fields {d : Dump} (hd : d.InRange) (size : Nat) :
    List.Forall₂ (Serves size d.draft) (fields size 126) d.entries := by
  refine .cons ?_ (.cons ?_ (.cons ?_ .nil))
  · refine serves_slot (e := ⟨"source", _, _⟩) d.source
      (fun s (d : Draft) => { d with source := some s })
      (isSome_shown "source" d.source) ?_ ?_ ?_
    · intro names
      simp [draft, shown_self, shown_other]
    · intro n hn
      cases hsource : d.source <;> simp [hsource, sourceValue] at hn
    · rintro v text rfl h hsize
      exact takes_source h hsize
  · refine serves_slot (e := ⟨"tokens", _, _⟩) d.tokens
      (fun ts (d : Draft) => { d with tokens := some ts })
      (isSome_shown "tokens" d.tokens) ?_ (by simp [ListForm]) ?_
    · intro names
      simp [draft, shown_self, shown_other]
    · intro v text hv h hsize
      exact takes_listForm hv h hsize fun t ht v cs hv h hsize =>
        Token.takes_token (hd.tokens t ht) hv h hsize 124
  · refine serves_slot (e := ⟨"lines", _, _⟩) d.lines
      (fun ls (d : Draft) => { d with lines := some ls })
      (isSome_shown "lines" d.lines) ?_ (by simp [ListForm]) ?_
    · intro names
      simp [draft, shown_self, shown_other]
    · intro v text hv h hsize
      exact takes_listForm hv h hsize fun l hl v cs hv h hsize =>
        Line.takes_line (hd.lines l hl) (Nat.le_add_left 102 22) hv h hsize

theorem draft_unknown (d : Dump) {key : String} (hkey : key ∉ d.entries.map Entry.name)
    (names : List String) : d.draft (key :: names) = d.draft names := by
  simp only [entries, List.map_cons, List.map_nil, List.mem_cons, not_or] at hkey
  simp [draft, shown_other, hkey]

theorem finish_draft {d : Dump} {names : List String}
    (h : ∀ e ∈ d.entries, e.name ∈ names ∨ e.spare) : (d.draft names).finish = d := by
  simp only [entries, List.forall_mem_cons] at h
  obtain ⟨hsource, htokens, hlines, _⟩ := h
  simp only [draft, Draft.finish, getD_shown hsource, getD_shown htokens, getD_shown hlines]

/-- The ways to write a dump as a value. -/
def WrittenAs (d : Dump) (v : Value) : Prop := Records d.entries v

theorem ofText_writtenAs {d : Dump} (hd : d.InRange) {v : Value} (hv : d.WrittenAs v)
    {text : String} (h : SpelledBy text v) : ofText text = .ok d := by
  refine whole_of_takes h fun cs hspells hsize => ?_
  exact takes_record (fields text.toList.length) (fun d => some d.finish) (serves_fields hd _)
    (by simp [entries]) (fun key hkey names => d.draft_unknown hkey names)
    (fun names hnames => congrArg some (finish_draft hnames)) hv hspells hsize

/-- The form that is printed is one of them. -/
theorem writtenAs_toJson (d : Dump) : d.WrittenAs d.toJson := by
  have htokens := listForm_map (fun t : Token => t.records_toJson) d.tokens
  have hlines := listForm_map Line.records_toJson d.lines
  obtain ⟨source, tokens, lines⟩ := d
  cases source with
  | none => exact (Kept.given rfl (.given htokens (.given hlines .nil))).records
  | some s => exact (Kept.given rfl (.given htokens (.given hlines .nil))).records

/-- A dump depends on what is written and not on how: every text of every form is read as the same
dump, and what is printed is one of these forms. -/
theorem ofText_any_form {d : Dump} (hd : d.InRange) :
    d.WrittenAs d.toJson ∧ ∀ v, d.WrittenAs v →
      ofText v.compact = .ok d ∧ ∀ text, SpelledBy text v → ofText text = .ok d := by
  refine ⟨d.writtenAs_toJson, fun v hv => ⟨?_, ?_⟩⟩
  · exact ofText_writtenAs hd hv (spelledBy_compact v)
  · intro text h
    exact ofText_writtenAs hd hv h

/-- Fields out of order, left out and unknown, and a line and a keyword as lists. -/
theorem ofText_any_form_sample :
    ofText (Value.object [
        ("lines", .list [
          .list [.text "stepBody", .nat 3],
          .object [("keyword", .list [.text "scenario", .nat 5]), ("note", .list []),
            ("kind", .text "stepHeader"), ("start", .nat 5)]]),
        ("version", .nat 2),
        ("tokens", .list [
          .object [("line", .nat 1), ("index", .nat 3), ("column", .nat 0),
            ("text", .text "Given")]])]).compact =
      .ok ⟨none, [⟨3, 1, 0, "Given", false⟩],
        [.body 3, .header ⟨5, some ⟨.scenario, 5⟩, [], [], []⟩]⟩ := by
  have hfive : 5 < wordLimit := by decide
  have hheader : Header.InRange ⟨5, some ⟨.scenario, 5⟩, [], [], []⟩ :=
    ⟨hfive, by simpa [Keyword.InRange] using hfive, by simp, by simp, by simp⟩
  have htoken : Token.InRange ⟨3, 1, 0, "Given", false⟩ := ⟨by decide, by decide, by decide⟩
  have hthree : Line.InRange (.body 3) := show 3 < wordLimit by decide
  refine ((ofText_any_form ⟨?_, ?_⟩).2 _ (.object (.left rfl (.given ?_ (.given ?_ .nil)))
    (List.forall_mem_singleton.mpr ⟨?_, fits_nat ?_ 100⟩)
    (List.perm_append_singleton _ [_, _]))).1
  · simpa using htoken
  · simpa using ⟨hthree, hheader⟩
  · refine ⟨_, rfl, .cons (.object (.given rfl (.given rfl (.given rfl (.given rfl (.left rfl
      .nil))))) (List.forall_mem_nil _) ?_) .nil⟩
    exact .swap _ _ _
  · refine ⟨_, rfl, .cons (.list (.given rfl (.given rfl (.stop (by simp))))) (.cons ?_ .nil)⟩
    have hkeyword : Records (Keyword.entries ⟨.scenario, 5⟩) (.list [.text "scenario", .nat 5]) :=
      .list (.given rfl (.given rfl (.stop (by simp))))
    refine .object (.given rfl (.given rfl (.given hkeyword (.left rfl (.left rfl (.left rfl
      .nil)))))) (List.forall_mem_singleton.mpr ⟨?_, ?_⟩) (@List.perm_append_comm _ [_, _] [_, _])
    · simp [Line.entries, Line.otherEntries, Header.entries, Entry.needed]
    · simp [Value.Fits]
  · simp [entries]
  · decide

end Dump

end FeatureLint
