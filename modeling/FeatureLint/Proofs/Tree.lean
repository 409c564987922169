import FeatureLint.Disk
import FeatureLint.Proofs.PathSpelling
import Mathlib.Data.List.Nodup

namespace FeatureLint.Node

/-- A node at or below another, with the names that lead to it. -/
inductive Holds : Node → List String → Node → Prop where
  | here (n : Node) : Holds n [] n
  | inside {entries : List (String × Node)} {name : String} {child n : Node} {names : List String}
      (entry : (name, child) ∈ entries) (rest : Holds child names n) :
      Holds (.dir entries) (name :: names) n

/-- Entries of a directory have names that can be told apart. -/
structure Directory (entries : List (String × Node)) : Prop where
  distinct : (entries.map (·.1)).Nodup
  named : ∀ e ∈ entries, Path.IsName e.1

/-- Every directory of the tree is one. -/
def WellFormed (n : Node) : Prop :=
  ∀ names entries, n.Holds names (.dir entries) → Directory entries

/-- The tree has no symbolic links. -/
def LinkFree (n : Node) : Prop := ∀ names target, ¬ n.Holds names (.link target)

theorem holds_nil_iff {n m : Node} : n.Holds [] m ↔ m = n := by
  constructor
  · intro h
    cases h
    rfl
  · rintro rfl
    exact .here m

theorem holds_cons_iff {n m : Node} {name : String} {names : List String} :
    n.Holds (name :: names) m ↔
      ∃ entries child, n = .dir entries ∧ (name, child) ∈ entries ∧ child.Holds names m := by
  constructor
  · intro h
    cases h with
    | inside entry rest => exact ⟨_, _, rfl, entry, rest⟩
  · rintro ⟨entries, child, rfl, entry, rest⟩
    exact .inside entry rest

theorem Holds.trans {n m k : Node} {a b : List String} (h : n.Holds a m) (g : m.Holds b k) :
    n.Holds (a ++ b) k := by
  induction h with
  | here n => exact g
  | inside entry rest ih => exact .inside entry (ih g)

theorem WellFormed.of_holds {n m : Node} {names : List String} (hn : n.WellFormed)
    (h : n.Holds names m) : m.WellFormed :=
  fun more entries g => hn (names ++ more) entries (h.trans g)

theorem wellFormed_dir_iff {entries : List (String × Node)} :
    (Node.dir entries).WellFormed ↔ Directory entries ∧ ∀ e ∈ entries, e.2.WellFormed := by
  constructor
  · intro h
    exact ⟨h [] entries (.here _), fun ⟨_, _⟩ he => h.of_holds (.inside he (.here _))⟩
  · rintro ⟨hdir, hchildren⟩ names found h
    cases names with
    | nil =>
      obtain rfl : found = entries := by simpa using holds_nil_iff.mp h
      exact hdir
    | cons name names =>
      obtain ⟨_, child, heq, entry, rest⟩ := holds_cons_iff.mp h
      obtain rfl := Node.dir.inj heq
      exact hchildren _ entry names found rest

theorem Holds.named {n m : Node} {names : List String} (h : n.Holds names m)
    (hn : n.WellFormed) : ∀ name ∈ names, Path.IsName name := by
  induction h with
  | here n => simp
  | inside entry rest ih =>
    obtain ⟨hdir, hchildren⟩ := wellFormed_dir_iff.mp hn
    exact List.forall_mem_cons.mpr ⟨hdir.named _ entry, ih (hchildren _ entry)⟩

theorem wellFormed_file (text : Option String) : (Node.file text).WellFormed := by
  intro names entries h
  cases h

theorem linkFree_file (text : Option String) : (Node.file text).LinkFree := by
  intro names target h
  cases h

theorem linkFree_dir_iff {entries : List (String × Node)} :
    (Node.dir entries).LinkFree ↔ ∀ e ∈ entries, e.2.LinkFree := by
  constructor
  · intro h ⟨name, child⟩ he names target hholds
    exact h (name :: names) target (.inside he hholds)
  · intro h names target hholds
    cases hholds with
    | inside entry rest => exact h _ entry _ target rest

instance (entries : List (String × Node)) : Decidable (Directory entries) :=
  decidable_of_iff ((entries.map (·.1)).Nodup ∧ ∀ e ∈ entries, Path.IsName e.1)
    ⟨fun h => ⟨h.1, h.2⟩, fun h => ⟨h.distinct, h.named⟩⟩

theorem mem_of_child? {entries : List (String × Node)} {name : String} {child : Node}
    (h : child? entries name = some child) : (name, child) ∈ entries := by
  obtain ⟨e, he, rfl⟩ := Option.map_eq_some_iff.mp h
  have hname : e.1 = name := by simpa using List.find?_some he
  rw [← hname]
  exact List.mem_of_find?_eq_some he

theorem child?_of_mem {entries : List (String × Node)} (hd : Directory entries) {name : String}
    {child : Node} (h : (name, child) ∈ entries) : child? entries name = some child := by
  cases hc : child? entries name with
  | none =>
    have hnone : entries.find? (·.1 == name) = none := by simpa [child?] using hc
    exact absurd (by simp) (List.find?_eq_none.mp hnone _ h)
  | some other =>
    have hsame := List.inj_on_of_nodup_map hd.distinct (mem_of_child? hc) h rfl
    rw [(Prod.mk.inj hsame).2]

/-- Where names can be told apart, they are an address. -/
theorem holds_iff_at? {n m : Node} (hn : n.WellFormed) {names : List String} :
    n.Holds names m ↔ n.at? names = some m := by
  induction names generalizing n with
  | nil =>
    rw [holds_nil_iff]
    simp [at?, eq_comm]
  | cons name names ih =>
    rw [holds_cons_iff]
    cases n with
    | file text => simp [at?]
    | link target => simp [at?]
    | dir entries =>
      obtain ⟨hdir, hchildren⟩ := wellFormed_dir_iff.mp hn
      simp only [at?, Option.bind_eq_some_iff]
      constructor
      · rintro ⟨_, child, heq, entry, rest⟩
        obtain rfl := Node.dir.inj heq
        exact ⟨child, child?_of_mem hdir entry, (ih (hchildren _ entry)).mp rest⟩
      · rintro ⟨child, hchild, rest⟩
        have entry := mem_of_child? hchild
        exact ⟨entries, child, rfl, entry, (ih (hchildren _ entry)).mpr rest⟩

theorem WellFormed.of_at? {root n : Node} (h : root.WellFormed) {names : List String}
    (hn : root.at? names = some n) : n.WellFormed :=
  h.of_holds ((holds_iff_at? h).mpr hn)

theorem at?_append (a b : List String) (n : Node) :
    n.at? (a ++ b) = (n.at? a).bind (at? b) := by
  induction a generalizing n with
  | nil => rfl
  | cons name a ih =>
    cases n with
    | dir entries =>
      simp only [List.cons_append, at?]
      cases child? entries name with
      | none => rfl
      | some child => exact ih child
    | file text => rfl
    | link target => rfl

theorem at?_concat {n : Node} {names : List String} {entries : List (String × Node)}
    (h : n.at? names = some (.dir entries)) (name : String) :
    n.at? (names ++ [name]) = child? entries name := by
  rw [at?_append, h]
  simp only [Option.bind_some, at?]
  cases child? entries name <;> rfl

end FeatureLint.Node
