import Mathlib.Data.String.Basic

namespace FeatureLint.Text

/-- The bytes of a text in UTF-8. -/
def bytes (s : String) : List Nat := s.toByteArray.data.toList.map UInt8.toNat

/-- The bytes of a character, by its number. -/
def encoding (v : Nat) : List Nat :=
  if v ≤ 0x7f then [v]
  else if v ≤ 0x7ff then [v / 64 + 0xc0, v % 64 + 0x80]
  else if v ≤ 0xffff then [v / 4096 + 0xe0, v / 64 % 64 + 0x80, v % 64 + 0x80]
  else [v / 262144 + 0xf0, v / 4096 % 64 + 0x80, v / 64 % 64 + 0x80, v % 64 + 0x80]

theorem encoding_ne_nil (v : Nat) : encoding v ≠ [] := by
  unfold encoding
  split_ifs <;> simp

theorem toNat_utf8EncodeChar (c : Char) :
    (String.utf8EncodeChar c).map UInt8.toNat = encoding c.toNat := by
  have hlimit : c.val.toNat < 0x110000 := by
    rcases c.valid with hlow | ⟨_, hhigh⟩
    · exact hlow.trans (by decide)
    · exact hhigh
  rw [← Char.toNat_val]
  unfold String.utf8EncodeChar encoding
  generalize c.val.toNat = v at hlimit ⊢
  dsimp only
  split_ifs <;> simp <;> omega

theorem bytes_eq (s : String) : bytes s = s.toList.flatMap fun c => encoding c.toNat := by
  have hencode : s.toByteArray = s.toList.utf8Encode := by
    rw [← String.toByteArray_ofList, String.ofList_toList]
  rw [bytes, hencode, List.utf8Encode, List.data_toByteArray, List.map_flatMap]
  simp only [toNat_utf8EncodeChar]

/-- The first bytes that differ decide, so nothing behind two different characters matters. -/
theorem encoding_lt {v w : Nat} (h : v < w) (more more' : List Nat) :
    encoding v ++ more < encoding w ++ more' := by
  unfold encoding
  split_ifs <;> simp only [List.cons_append, List.nil_append, List.cons_lt_cons_iff] <;> omega

theorem flatMap_encoding_lt {cs ds : List Char} (h : cs < ds) :
    (cs.flatMap fun c => encoding c.toNat) < ds.flatMap fun c => encoding c.toNat := by
  induction cs generalizing ds with
  | nil =>
    cases ds with
    | nil => exact absurd h (List.not_lt_nil _)
    | cons d ds =>
      obtain ⟨b, more, hb⟩ := List.exists_cons_of_ne_nil (encoding_ne_nil d.toNat)
      rw [List.flatMap_cons, hb]
      exact List.nil_lt_cons _ _
  | cons c cs ih =>
    cases ds with
    | nil => exact absurd h (List.not_lt_nil _)
    | cons d ds =>
      rw [List.flatMap_cons, List.flatMap_cons]
      rcases List.cons_lt_cons_iff.mp h with hlt | ⟨rfl, hrest⟩
      · exact encoding_lt hlt _ _
      · exact List.append_left_lt (ih hrest)

theorem bytes_lt {s t : String} (h : s < t) : bytes s < bytes t := by
  rw [bytes_eq, bytes_eq]
  exact flatMap_encoding_lt (String.lt_iff.mp h)

/-- Texts compare as their bytes do. -/
theorem lt_iff_bytes {s t : String} : s < t ↔ bytes s < bytes t := by
  refine ⟨bytes_lt, fun h => ?_⟩
  rcases lt_trichotomy s t with hlt | rfl | hgt
  · exact hlt
  · exact absurd h (List.lt_irrefl _)
  · exact absurd (bytes_lt hgt) (List.lt_asymm h)

end FeatureLint.Text
