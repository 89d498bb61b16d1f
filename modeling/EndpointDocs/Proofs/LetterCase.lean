import EndpointDocs.Text.Blank
import EndpointDocs.Text.Case
import Mathlib.Data.List.Infix

/-!
# Letters in either case

Writing the letters of ASCII in lower case makes no blank and no mark, and takes none away.  So it
can be done before or after a text is trimmed or cut, and it makes no difference to the lower case
of the text.
-/

namespace EndpointDocs

theorem toLower_cases (c : Char) :
    c.toLower = c ∨ 65 ≤ c.toNat ∧ c.toNat ≤ 90 ∧ c.toLower.toNat = c.toNat + 32 := by
  delta Char.toLower
  split
  · next h =>
    have hlow : 65 ≤ c.val.toNat := UInt32.le_iff_toNat_le.mp h.1
    have hhigh : c.val.toNat ≤ 90 := UInt32.le_iff_toNat_le.mp h.2
    have hshift : ('a'.val - 'A'.val).toNat = 32 := by decide
    refine .inr ⟨hlow, hhigh, ?_⟩
    change (c.val + ('a'.val - 'A'.val)).toNat = c.val.toNat + 32
    rw [UInt32.toNat_add, hshift, Nat.mod_eq_of_lt (by omega)]
  · exact .inl rfl

theorem isBlank_of_graphic {c : Char} (hlow : 33 ≤ c.toNat) (hhigh : c.toNat ≤ 126) :
    isBlank c = false := by
  simp only [isBlank, Bool.or_eq_false_iff, Bool.and_eq_false_iff, decide_eq_false_iff_not,
    beq_eq_false_iff_ne]
  omega

theorem isBlank_toLower (c : Char) : isBlank c.toLower = isBlank c := by
  obtain heq | ⟨hlow, hhigh, hshift⟩ := toLower_cases c
  · rw [heq]
  · rw [isBlank_of_graphic (by omega) (by omega), isBlank_of_graphic (by omega) (by omega)]

theorem lowerChar_toLower (c : Char) : lowerChar c.toLower = lowerChar c := by
  obtain heq | ⟨hlow, hhigh, hshift⟩ := toLower_cases c
  · rw [heq]
  · have hsettled : c.toLower.toLower = c.toLower := by
      obtain heq | ⟨-, hlate, -⟩ := toLower_cases c.toLower
      · exact heq
      · omega
    rw [lowerChar, lowerChar, if_pos (by omega), if_pos (by omega), hsettled]

/-- A character that is no letter of ASCII is the lower case of itself alone. -/
theorem toLower_eq_iff {c mark : Char} (hmark : mark.isAlpha = false) :
    c.toLower = mark ↔ c = mark := by
  obtain heq | ⟨hlow, hhigh, hshift⟩ := toLower_cases c
  · rw [heq]
  · have hnot : ¬ (65 ≤ mark.toNat ∧ mark.toNat ≤ 90) ∧
        ¬ (97 ≤ mark.toNat ∧ mark.toNat ≤ 122) := by
      delta Char.isAlpha Char.isUpper Char.isLower at hmark
      simpa [UInt32.le_iff_toNat_le] using hmark
    constructor
    · rintro rfl
      omega
    · rintro rfl
      omega

namespace Text

theorem map_toLower_eq_iff {s piece : Text} (hpiece : ∀ c ∈ piece, c.isAlpha = false) :
    s.map Char.toLower = piece ↔ s = piece := by
  have hself : (∀ c ∈ s, c.toLower = c) → s.map Char.toLower = s := by
    intro h
    rw [List.map_congr_left h, List.map_id']
  constructor
  · rintro rfl
    refine (hself ?_).symm
    intro c hc
    exact ((toLower_eq_iff (hpiece _ (List.mem_map_of_mem hc))).mp rfl).symm
  · rintro rfl
    exact hself fun c hc ↦ (toLower_eq_iff (hpiece c hc)).mpr rfl

theorem lower_map_toLower (s : Text) : Text.lower (s.map Char.toLower) = s.lower := by
  rw [Text.lower, Text.lower, List.flatMap_map]
  simp only [lowerChar_toLower]

/-- Trimming and writing in lower case can be done in either order. -/
theorem trim_map_toLower (s : Text) :
    Text.trim (s.map Char.toLower) = (Text.trim s).map Char.toLower := by
  have hblank : isBlank ∘ Char.toLower = isBlank := funext isBlank_toLower
  simp only [Text.trim, Text.trimEnd, Text.trimStart, Text.dropEndWhile, List.dropWhile_map,
    ← List.map_reverse, hblank]

theorem isSuffixOf?_map_toLower {piece : Text} (hpiece : ∀ c ∈ piece, c.isAlpha = false)
    (s : Text) :
    piece.isSuffixOf? (s.map Char.toLower) =
      (piece.isSuffixOf? s).map (List.map Char.toLower) := by
  apply Option.ext
  intro front
  rw [List.isSuffixOf?_eq_some_iff_append_eq, Option.map_eq_some_iff, eq_comm,
    List.map_eq_append_iff]
  constructor
  · rintro ⟨before, back, rfl, rfl, hback⟩
    rw [map_toLower_eq_iff hpiece] at hback
    exact ⟨before, List.isSuffixOf?_eq_some_iff_append_eq.mpr (by rw [hback]), rfl⟩
  · rintro ⟨before, hbefore, rfl⟩
    exact ⟨before, piece, (List.isSuffixOf?_eq_some_iff_append_eq.mp hbefore).symm, rfl,
      (map_toLower_eq_iff hpiece).mpr rfl⟩

end Text

end EndpointDocs
