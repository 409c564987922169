import FeatureLint.Json.Printer
import FeatureLint.Json.Reader
import Mathlib.Data.List.Forall2

namespace FeatureLint.Json

/-- Nothing but blanks. -/
def Blank (cs : List Char) : Prop := ∀ c ∈ cs, isBlank c = true

theorem blank_nil : Blank [] := by simp [Blank]

theorem blank_newline (level : Nat) : Blank (newline level) := by
  intro c hc
  rcases List.mem_cons.mp hc with rfl | hc
  · rfl
  · rw [List.eq_of_mem_replicate hc]
    rfl

/-- What follows a piece up to the closing bracket: further pieces, each behind a comma. -/
inductive Following (close : Char) : List (List Char) → List Char → Prop where
  | done {gap : List Char} (blank : Blank gap) : Following close [] (gap ++ [close])
  | more {gap gap' piece text : List Char} {pieces : List (List Char)} (blank : Blank gap)
      (blank' : Blank gap') (rest : Following close pieces text) :
      Following close (piece :: pieces) (gap ++ ',' :: (gap' ++ (piece ++ text)))

/-- Pieces behind an opening bracket, up to the closing one. -/
inductive Listing (close : Char) : List (List Char) → List Char → Prop where
  | nothing {gap : List Char} (blank : Blank gap) : Listing close [] (gap ++ [close])
  | first {gap piece text : List Char} {pieces : List (List Char)} (blank : Blank gap)
      (rest : Following close pieces text) :
      Listing close (piece :: pieces) (gap ++ (piece ++ text))

/-- A text behind the colon that follows a key. -/
inductive Assigns (text : List Char) : List Char → Prop where
  | colon {gap gap' : List Char} (blank : Blank gap) (blank' : Blank gap') :
      Assigns text (gap ++ ':' :: (gap' ++ text))

mutual

inductive Spells : Value → List Char → Prop where
  | null : Spells .null Value.null.chars
  | bool (b : Bool) : Spells (.bool b) (Value.bool b).chars
  | number (n : Number) : Spells (.number n) n.chars
  | text (s : String) : Spells (.text s) (quoted s)
  | list {vs : List Value} {pieces : List (List Char)} {body : List Char}
      (items : List.Forall₂ Spells vs pieces) (listing : Listing ']' pieces body) :
      Spells (.list vs) ('[' :: body)
  | object {fs : List (String × Value)} {pieces : List (List Char)} {body : List Char}
      (fields : SpellsFields fs pieces) (listing : Listing '\x7d' pieces body) :
      Spells (.object fs) ('\x7b' :: body)

inductive SpellsFields : List (String × Value) → List (List Char) → Prop where
  | nil : SpellsFields [] []
  | cons {key : String} {v : Value} {text behind : List Char} {fs : List (String × Value)}
      {pieces : List (List Char)} (value : Spells v text) (assigns : Assigns text behind)
      (rest : SpellsFields fs pieces) :
      SpellsFields ((key, v) :: fs) ((quoted key ++ behind) :: pieces)

end

/-- A text that holds one value and blanks around it. -/
def SpelledBy (text : String) (v : Value) : Prop :=
  ∃ before cs after, Blank before ∧ Spells v cs ∧ Blank after ∧
    text.toList = before ++ (cs ++ after)

theorem SpelledBy.of_spells {v : Value} {cs : List Char} (h : Spells v cs) :
    SpelledBy (String.ofList cs) v :=
  ⟨[], cs, [], blank_nil, h, blank_nil, by simp⟩

section

variable {before after : List Char} (hbefore : Blank before) (hafter : Blank after) (close : Char)

include hbefore hafter

theorem following_flatMap (pieces : List (List Char)) :
    Following close pieces
      (pieces.flatMap (fun piece => ',' :: (before ++ piece)) ++ (after ++ [close])) := by
  induction pieces with
  | nil => exact .done hafter
  | cons piece pieces ih =>
    have hmore : Following close (piece :: pieces) _ := .more blank_nil hbefore ih
    simpa using hmore

/-- Pieces with the same blanks in front of each. -/
theorem listing_separated {pieces : List (List Char)} (hpieces : pieces ≠ []) :
    Listing close pieces (separated (pieces.map (before ++ ·)) ++ (after ++ [close])) := by
  have hcommas : ∀ (piece : List Char) (pieces : List (List Char)),
      separated ((piece :: pieces).map (before ++ ·)) =
        before ++ (piece ++ pieces.flatMap fun p => ',' :: (before ++ p)) := by
    intro piece pieces
    induction pieces generalizing piece with
    | nil => simp [separated]
    | cons next pieces ih =>
      rw [List.map_cons, List.map_cons, separated, ← List.map_cons, ih]
      · simp
      · simp
  cases pieces with
  | nil => exact absurd rfl hpieces
  | cons piece pieces =>
    rw [hcommas, List.append_assoc, List.append_assoc]
    exact .first hbefore (following_flatMap hbefore hafter close pieces)

end

theorem listing_compact (close : Char) (pieces : List (List Char)) :
    Listing close pieces (separated pieces ++ [close]) := by
  by_cases hpieces : pieces = []
  · subst hpieces
    exact .nothing blank_nil
  · simpa using listing_separated blank_nil blank_nil close hpieces

theorem listing_block (first close : Char) (level : Nat) (pieces : List (List Char)) :
    ∃ body, block first close level pieces = first :: body ∧ Listing close pieces body := by
  cases pieces with
  | nil => exact ⟨_, rfl, .nothing blank_nil⟩
  | cons piece pieces =>
    have hlisting := listing_separated (blank_newline (level + 1)) (blank_newline level) close
      (List.cons_ne_nil piece pieces)
    exact ⟨_, by simp [block], hlisting⟩

mutual

theorem spells_chars : ∀ v : Value, Spells v v.chars
  | .null => .null
  | .bool b => .bool b
  | .number n => by
    rw [Value.chars]
    exact .number n
  | .text s => by
    rw [Value.chars]
    exact .text s
  | .list vs => by
    rw [Value.chars]
    exact .list (spells_charsOfItems vs) (listing_compact ']' _)
  | .object fs => by
    rw [Value.chars]
    exact .object (spells_charsOfFields fs) (listing_compact '\x7d' _)

theorem spells_charsOfItems : ∀ vs : List Value, List.Forall₂ Spells vs (charsOfItems vs)
  | [] => by
    rw [charsOfItems]
    exact .nil
  | v :: vs => by
    rw [charsOfItems]
    exact .cons (spells_chars v) (spells_charsOfItems vs)

theorem spells_charsOfFields : ∀ fs : List (String × Value), SpellsFields fs (charsOfFields fs)
  | [] => by
    rw [charsOfFields]
    exact .nil
  | (key, v) :: fs => by
    rw [charsOfFields]
    exact .cons (spells_chars v) (.colon blank_nil blank_nil) (spells_charsOfFields fs)

end

mutual

theorem spells_prettyChars (level : Nat) : ∀ v : Value, Spells v (v.prettyChars level)
  | .null => by
    rw [Value.prettyChars]
    exact .null
  | .bool b => by
    rw [Value.prettyChars]
    exact .bool b
  | .number n => by
    rw [Value.prettyChars]
    exact .number n
  | .text s => by
    rw [Value.prettyChars]
    exact .text s
  | .list vs => by
    rw [Value.prettyChars]
    obtain ⟨body, hblock, hlisting⟩ := listing_block '[' ']' level (prettyItems (level + 1) vs)
    rw [hblock]
    exact .list (spells_prettyItems (level + 1) vs) hlisting
  | .object fs => by
    rw [Value.prettyChars]
    obtain ⟨body, hblock, hlisting⟩ :=
      listing_block '\x7b' '\x7d' level (prettyFields (level + 1) fs)
    rw [hblock]
    exact .object (spells_prettyFields (level + 1) fs) hlisting

theorem spells_prettyItems (level : Nat) :
    ∀ vs : List Value, List.Forall₂ Spells vs (prettyItems level vs)
  | [] => by
    rw [prettyItems]
    exact .nil
  | v :: vs => by
    rw [prettyItems]
    exact .cons (spells_prettyChars level v) (spells_prettyItems level vs)

theorem spells_prettyFields (level : Nat) :
    ∀ fs : List (String × Value), SpellsFields fs (prettyFields level fs)
  | [] => by
    rw [prettyFields]
    exact .nil
  | (key, v) :: fs => by
    rw [prettyFields]
    have hblank : Blank [' '] := by simp [Blank, isBlank]
    exact .cons (spells_prettyChars level v) (.colon blank_nil hblank)
      (spells_prettyFields level fs)

end

theorem spelledBy_compact (v : Value) : SpelledBy v.compact v := .of_spells (spells_chars v)

theorem spelledBy_pretty (v : Value) : SpelledBy v.pretty v := .of_spells (spells_prettyChars 0 v)

end FeatureLint.Json
