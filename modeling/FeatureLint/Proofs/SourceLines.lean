import FeatureLint.Proofs.LookBack
import FeatureLint.Issue
import Mathlib.Data.List.DropRight

namespace FeatureLint

namespace Text

/-- The pieces of a text between line feeds, without an empty one at the end. -/
def linesOf (cs : List Char) : List (List Char) :=
  let pieces := cs.splitOn '\n'
  if pieces.getLast? = some [] then pieces.dropLast else pieces

/-- A text with a carriage return before every line feed. -/
def returned (cs : List Char) : List Char :=
  cs.flatMap fun c => if c = '\n' then ['\r', '\n'] else [c]

def withReturns (s : String) : String := String.ofList (returned s.toList)

/-- A line without carriage returns at its end. -/
def trimmed (line : List Char) : List Char := line.rdropWhile (· == '\r')

/-- A text by its lines: each ends with a line feed, except that the last one may do without. -/
inductive Lined : List Char → List (List Char) → Prop where
  | nil : Lined [] []
  | last (piece : List Char) (free : '\n' ∉ piece) (filled : piece ≠ []) : Lined piece [piece]
  | line (piece rest : List Char) {lines : List (List Char)} (free : '\n' ∉ piece)
      (tail : Lined rest lines) : Lined (piece ++ '\n' :: rest) (piece :: lines)

theorem linesOf_last {piece : List Char} (free : '\n' ∉ piece) (filled : piece ≠ []) :
    linesOf piece = [piece] := by
  simp [linesOf, List.splitOn_eq_singleton free, filled]

theorem linesOf_line {piece : List Char} (free : '\n' ∉ piece) (rest : List Char) :
    linesOf (piece ++ '\n' :: rest) = piece :: linesOf rest := by
  have hrest : rest.splitOn '\n' ≠ [] := List.splitOn_ne_nil '\n' rest
  simp only [linesOf, List.splitOn_append_cons_self, List.splitOn_eq_singleton free,
    List.singleton_append, List.getLast?_cons_of_ne_nil hrest, List.dropLast_cons_of_ne_nil hrest]
  split <;> rfl

theorem lined_linesOf (cs : List Char) : Lined cs (linesOf cs) := by
  by_cases hfeed : '\n' ∈ cs
  · obtain ⟨piece, rest, rfl, free⟩ := List.eq_append_cons_of_mem hfeed
    rw [linesOf_line free]
    exact .line piece rest free (lined_linesOf rest)
  · by_cases hnil : cs = []
    · subst hnil
      exact .nil
    · rw [linesOf_last hfeed hnil]
      exact .last cs hfeed hnil
termination_by cs.length
decreasing_by
  subst_vars
  simp only [List.length_append, List.length_cons]
  omega

theorem lineAt?_nil (n : Nat) : lineAt? n [] = none := by
  cases n <;> rfl

theorem lineAt?_zero {cs : List Char} (filled : cs ≠ []) :
    lineAt? 0 cs = some (cs.takeWhile (· != '\n')) := by
  cases cs with
  | nil => exact absurd rfl filled
  | cons c cs => rfl

theorem lineAt?_succ (n : Nat) (cs : List Char) :
    lineAt? (n + 1) cs = lineAt? n ((cs.dropWhile (· != '\n')).drop 1) := by
  cases cs with
  | nil => exact (lineAt?_nil n).symm
  | cons c cs => rfl

theorem trimmed_return (line : List Char) : trimmed (line ++ ['\r']) = trimmed line :=
  List.rdropWhile_concat_pos _ line '\r' rfl

/-- Nothing but carriage returns is taken from a line. -/
theorem trimmed_append (line : List Char) :
    ∃ k, line = trimmed line ++ List.replicate k '\r' := by
  have hreturns : ∀ c ∈ line.rtakeWhile (· == '\r'), c = '\r' := by
    intro c hc
    simpa using List.mem_rtakeWhile_imp hc
  refine ⟨(line.rtakeWhile (· == '\r')).length, ?_⟩
  rw [← List.eq_replicate_of_mem hreturns]
  exact List.rdropWhile_append_rtakeWhile.symm

theorem getLast?_trimmed (line : List Char) : (trimmed line).getLast? ≠ some '\r' := by
  intro h
  have hsome : trimmed line ≠ [] := by
    intro hnil
    simp [hnil] at h
  rw [List.getLast?_eq_some_getLast hsome, Option.some.injEq] at h
  exact List.rdropWhile_last_not _ line hsome (beq_iff_eq.mpr h)

theorem returned_of_free {cs : List Char} (free : '\n' ∉ cs) : returned cs = cs := by
  have hsame : ∀ c ∈ cs, (if c = '\n' then ['\r', '\n'] else [c]) = [c] := by
    intro c hc
    rw [if_neg]
    rintro rfl
    exact free hc
  rw [returned, List.flatMap_congr hsame, List.flatMap_singleton']

theorem returned_line {piece : List Char} (free : '\n' ∉ piece) (rest : List Char) :
    returned (piece ++ '\n' :: rest) = (piece ++ ['\r']) ++ '\n' :: returned rest := by
  have hpiece := returned_of_free free
  simp only [returned, List.flatMap_append, List.flatMap_cons] at hpiece ⊢
  simp [hpiece]

namespace Lined

variable {cs : List Char} {lines : List (List Char)}

theorem free_of_mem (h : Lined cs lines) : ∀ line ∈ lines, '\n' ∉ line := by
  induction h with
  | nil => simp
  | last piece free filled => simpa using free
  | line piece rest free tail ih => exact List.forall_mem_cons.mpr ⟨free, ih⟩

/-- Going forward from line feed to line feed finds every line at its number. -/
theorem lineAt?_eq (h : Lined cs lines) (n : Nat) : lineAt? n cs = lines[n]? := by
  have hgoes : ∀ piece : List Char, '\n' ∉ piece → ∀ c ∈ piece, (c != '\n') = true := by
    intro piece free c hc
    rw [bne_iff_ne]
    rintro rfl
    exact free hc
  induction h generalizing n with
  | nil => simp [lineAt?_nil]
  | last piece free filled =>
    have hall := hgoes piece free
    cases n with
    | zero => simp [lineAt?_zero filled, List.takeWhile_eq_self_iff.mpr hall]
    | succ n => simp [lineAt?_succ, List.dropWhile_eq_nil_iff.mpr hall, lineAt?_nil]
  | line piece rest free tail ih =>
    have hall := hgoes piece free
    cases n with
    | zero => simp [lineAt?_zero, List.takeWhile_append_of_pos hall]
    | succ n => simp [lineAt?_succ, List.dropWhile_append_of_pos hall, ih]

/-- With carriage returns added, the lines are the same up to those at their ends. -/
theorem returned (h : Lined cs lines) :
    ∃ lines', Lined (Text.returned cs) lines' ∧ lines'.map trimmed = lines.map trimmed := by
  induction h with
  | nil => exact ⟨[], .nil, rfl⟩
  | last piece free filled =>
    refine ⟨[piece], ?_, rfl⟩
    rw [returned_of_free free]
    exact .last piece free filled
  | line piece rest free tail ih =>
    obtain ⟨lines', hlined, hsame⟩ := ih
    refine ⟨(piece ++ ['\r']) :: lines', ?_, ?_⟩
    · rw [returned_line free]
      exact .line _ _ (by simpa using free) hlined
    · rw [List.map_cons, List.map_cons, trimmed_return, hsame]

theorem sourceLine_eq {s : String} (h : Lined s.toList lines) (n : Nat) :
    sourceLine s (n + 1) = ((lines.map trimmed)[n]?).map String.ofList := by
  rw [List.getElem?_map, ← h.lineAt?_eq n]
  cases hline : lineAt? n s.toList with
  | none => simp [sourceLine, before, hline]
  | some line => simp [sourceLine, before, hline, trimmed, List.rdropWhile]

end Lined

end Text

theorem sourceLine_zero (s : String) : sourceLine s 0 = none := rfl

theorem sourceLine_withReturns (s : String) (n : Nat) :
    sourceLine (Text.withReturns s) n = sourceLine s n := by
  cases n with
  | zero => rw [sourceLine_zero, sourceLine_zero]
  | succ n =>
    have hlined := Text.lined_linesOf s.toList
    obtain ⟨lines', hreturned, hsame⟩ := hlined.returned
    have hreturned' : Text.Lined (Text.withReturns s).toList lines' := by
      rwa [Text.withReturns, String.toList_ofList]
    rw [hlined.sourceLine_eq, hreturned'.sourceLine_eq, hsame]

/-- A line number has no line if it is 0 or more than there are lines. All others have one: the
piece of the source between two line feeds without all carriage returns at its end, so that it holds
no line feed and does not end with a carriage return. The issues of a dump stay the same, with the
lines they are shown with, when carriage returns are put before all line feeds of its source. -/
theorem sourceLine_pieces (s : String) :
    (∀ n, sourceLine s n = none ↔ n = 0 ∨ (Text.linesOf s.toList).length < n) ∧
      (∀ n, 0 < n → n ≤ (Text.linesOf s.toList).length →
        ∃ (piece : List Char) (line : String) (k : Nat),
          (Text.linesOf s.toList)[n - 1]? = some piece ∧ sourceLine s n = some line ∧
          piece = line.toList ++ List.replicate k '\r' ∧
          '\n' ∉ line.toList ∧ line.toList.getLast? ≠ some '\r') ∧
      ∀ (c : Checker) (file : String) (d : Dump), d.source = some s →
        c.checkDump file { d with source := some (Text.withReturns s) } = c.checkDump file d := by
  have hlined := Text.lined_linesOf s.toList
  refine ⟨?_, ?_, ?_⟩
  · intro n
    cases n with
    | zero => simp [sourceLine_zero]
    | succ n =>
      rw [hlined.sourceLine_eq, Option.map_eq_none_iff, List.getElem?_eq_none_iff, List.length_map]
      omega
  · intro n hpos hlast
    obtain ⟨m, rfl⟩ : ∃ m, n = m + 1 := ⟨n - 1, by omega⟩
    have hpiece := List.getElem?_eq_getElem hlast
    generalize (Text.linesOf s.toList)[m] = piece at hpiece
    have hfree := hlined.free_of_mem piece (List.mem_of_getElem? hpiece)
    obtain ⟨k, hk⟩ := Text.trimmed_append piece
    refine ⟨piece, String.ofList (Text.trimmed piece), k, hpiece, ?_, ?_, ?_, ?_⟩
    · simp [hlined.sourceLine_eq, hpiece]
    · rwa [String.toList_ofList]
    · rw [String.toList_ofList]
      exact fun h => hfree ((List.rdropWhile_prefix _ _).mem h)
    · rw [String.toList_ofList]
      exact Text.getLast?_trimmed piece
  · intro c file d hsource
    have hissue : Checker.issue file { d with source := some (Text.withReturns s) } =
        Checker.issue file d := by
      funext v
      simp [Checker.issue, hsource, sourceLine_withReturns]
    -- The source is only looked at for the lines shown: the rules see tokens and lines.
    simp only [Checker.checkDump, hissue, Dump.stream]

namespace Sample

/-- Lines with no carriage return at their end, with one and with two; the last has no line feed. -/
def source : String :=
  "Rule:\n@smoke\n# slow but sure\n# one\r\n@slow\n# two!\n# three\r\r\nScenario:\r"

def dump : Dump := ⟨some source, tokens, lines⟩

end Sample

theorem sourceLine_pieces_sample :
    (Text.linesOf Sample.source.toList).length = 8 ∧ sourceLine Sample.source 9 = none ∧
      (∃ (line : String) (k : Nat), sourceLine Sample.source 7 = some line ∧
        "# three\r\r".toList = line.toList ++ List.replicate k '\r' ∧
        '\n' ∉ line.toList ∧ line.toList.getLast? ≠ some '\r') ∧
      Sample.dump.source = some Sample.source ∧
      (Checker.mk [Sample.rule]).checkDump "a.feature"
          { Sample.dump with source := some (Text.withReturns Sample.source) } =
        (Checker.mk [Sample.rule]).checkDump "a.feature" Sample.dump := by
  obtain ⟨hnone, hpieces, hissues⟩ := sourceLine_pieces Sample.source
  have hlength : (Text.linesOf Sample.source.toList).length = 8 := by decide
  obtain ⟨piece, line, k, hpiece, hline, htrimmed, hfree, hlast⟩ :=
    hpieces 7 (by decide) (by decide)
  have hseventh : (Text.linesOf Sample.source.toList)[6]? = some "# three\r\r".toList := by decide
  obtain rfl : "# three\r\r".toList = piece := Option.some.inj (hseventh.symm.trans hpiece)
  refine ⟨hlength, (hnone 9).mpr (Or.inr (by rw [hlength]; decide)), ?_, rfl,
    hissues _ "a.feature" Sample.dump rfl⟩
  exact ⟨line, k, hline, htrimmed, hfree, hlast⟩

end FeatureLint
