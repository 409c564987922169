import FeatureLint.Config
import FeatureLint.Proofs.DumpForms

namespace FeatureLint

open Json

namespace Config

theorem takes_patterns {size depth : Nat} {patterns : List String} {cs : List Char}
    (h : Spells (.list (patterns.map .text)) cs) (hsize : cs.length ≤ size) :
    Takes (readPatterns size (depth + 1)) cs patterns := by
  cases h with
  | @list _ pieces body items listing =>
    rw [List.length_cons] at hsize
    refine takes_listOf listing (by omega) ?_
    rw [List.forall₂_map_left_iff] at items
    refine forall₂_of_mem items fun s _ piece hpiece hspells => ?_
    have hle := listing.length_le piece hpiece
    refine ⟨hspells.solid (by simp), ?_⟩
    cases hspells
    exact takes_text (by omega)

/-- The fields of a printed configuration are all met, each of them once. -/
theorem steps_toJson (c : Config) (depth : Nat) {size : Nat} {pieces : List (List Char)}
    (hspells : SpellsFields
      [("includes", .list (c.includes.map .text)), ("ignores", .list (c.ignores.map .text)),
        ("ignoreTag", .text c.rule.ignoreTag),
        ("suppressionPattern", .text c.rule.suppressionPattern)] pieces)
    (hsize : ∀ piece ∈ pieces, piece.length ≤ size) :
    Steps (readField size (depth + 1)) {} pieces
      ⟨some c.includes, some c.ignores,
        [("suppressionPattern", .text c.rule.suppressionPattern),
          ("ignoreTag", .text c.rule.ignoreTag)]⟩ := by
  obtain _ | ⟨hincludes, aincludes, _ | ⟨hignores, aignores, _ | ⟨htag, atag, _ | ⟨hpattern,
    apattern, _ | _⟩⟩⟩⟩ := hspells
  have hvalue {s : String} {text : List Char} (h : Spells (.text s) text)
      (hlength : text.length ≤ size) : Takes (value size (depth + 1)) text (.text s) :=
    takes_value h (by simp [Value.Fits]) hlength
  have hpatterns {ps : List String} {text : List Char} (h : Spells (.list (ps.map .text)) text)
      (hlength : text.length ≤ size) : Takes (readPatterns size (depth + 1)) text ps :=
    takes_patterns h hlength
  simp only [List.forall_mem_cons, List.length_append] at hsize
  have hlength := aincludes.length_le
  have hlength' := aignores.length_le
  have hlength'' := atag.length_le
  have hlength''' := apattern.length_le
  have hfirst := (hpatterns hincludes (by omega)).field aincludes fun ps =>
    ({ includes := some ps } : Draft)
  have hsecond := (hpatterns hignores (by omega)).field aignores fun ps =>
    ({ includes := some c.includes, ignores := some ps } : Draft)
  have hthird := (hvalue htag (by omega)).field atag fun v =>
    (⟨some c.includes, some c.ignores, [("ignoreTag", v)]⟩ : Draft)
  have hfourth := (hvalue hpattern (by omega)).field apattern fun v =>
    (⟨some c.includes, some c.ignores,
      [("suppressionPattern", v), ("ignoreTag", .text c.rule.ignoreTag)]⟩ : Draft)
  exact .step hfirst (.step hsecond (.step hthird (.step hfourth (.done _))))

theorem takes_config (c : Config) {size depth : Nat} {cs : List Char} (h : Spells c.toJson cs)
    (hsize : cs.length ≤ size) : Takes (read size (depth + 2)) cs c := by
  intro gap rest hgap _
  cases h with
  | object fields listing =>
    rw [List.length_cons] at hsize
    have hsteps := c.steps_toJson depth fields fun piece hpiece =>
      Nat.le_trans (listing.length_le piece hpiece) (Nat.le_of_succ_le hsize)
    unfold read
    rw [List.cons_append, skipBlank_gap hgap rfl]
    simp only [bind, Except.bind]
    rw [fields_listing listing (by omega) hsteps]
    rfl

/-- A printed configuration is read back, however its text is laid out. -/
theorem ofText_toJson (c : Config) {text : String} (h : SpelledBy text c.toJson) :
    ofText text = .ok c :=
  whole_of_takes h fun _ hspells hsize => c.takes_config hspells hsize

/-- To a reader of dumps a configuration has fields that it does not know, and none that it does. -/
theorem dump_ofText_toJson (c : Config) {text : String} (h : SpelledBy text c.toJson) :
    Dump.ofText text = .ok ⟨none, [], []⟩ := by
  have hpatterns : ∀ patterns : List String, (Value.list (patterns.map .text)).Fits 100 := by
    intro patterns v hv
    obtain ⟨s, _, rfl⟩ := List.mem_map.mp hv
    trivial
  have hkept : Kept (Dump.entries ⟨none, [], []⟩) [] := .left rfl (.left rfl (.left rfl .nil))
  refine Dump.ofText_writtenAs ⟨by simp, by simp⟩ (.object hkept ?_ (.refl _)) h
  simp only [List.forall_mem_cons, Unknown, Dump.entries, List.map_cons, List.map_nil]
  exact ⟨⟨by simp, hpatterns _⟩, ⟨by simp, hpatterns _⟩, ⟨by simp, trivial⟩, ⟨by simp, trivial⟩,
    by simp⟩

end Config

/-- Reading undoes printing. -/
theorem ofText_printed {d : Dump} (hd : d.InRange) (c : Config) :
    Dump.ofText d.toJson.compact = .ok d ∧ Dump.ofText d.toJson.pretty = .ok d ∧
      Config.ofText c.toJson.compact = .ok c ∧ Config.ofText c.toJson.pretty = .ok c := by
  refine ⟨?_, ?_, ?_, ?_⟩
  · exact Dump.ofText_writtenAs hd d.writtenAs_toJson (spelledBy_compact _)
  · exact Dump.ofText_writtenAs hd d.writtenAs_toJson (spelledBy_pretty _)
  · exact c.ofText_toJson (spelledBy_compact _)
  · exact c.ofText_toJson (spelledBy_pretty _)

/-- A token with the greatest numbers, a text with escapes and a keyword besides the kind of its
line. -/
theorem ofText_printed_sample :
    Dump.ofText (Dump.toJson ⟨some "é\n\"\x01", [⟨wordLimit - 1, 1, 0, "\\", true⟩],
      [.header ⟨0, some ⟨.background, 0⟩, [2, 3], [], []⟩]⟩).compact =
      .ok ⟨some "é\n\"\x01", [⟨wordLimit - 1, 1, 0, "\\", true⟩],
        [.header ⟨0, some ⟨.background, 0⟩, [2, 3], [], []⟩]⟩ := by
  refine (ofText_printed ⟨?_, ?_⟩ .standard).1
  · have htoken : Token.InRange ⟨wordLimit - 1, 1, 0, "\\", true⟩ :=
      ⟨by decide, by decide, by decide⟩
    simpa using htoken
  · have hheader : Header.InRange ⟨0, some ⟨.background, 0⟩, [2, 3], [], []⟩ :=
      ⟨by decide, by simp [Keyword.InRange, wordLimit], by simp [wordLimit], by simp, by simp⟩
    simpa using show Line.InRange (.header _) from hheader

end FeatureLint
