import EndpointDocs.Text.Blank
import EndpointDocs.Text.Case
import EndpointDocs.Text.Letter
import Mathlib.Data.List.Basic

/-!
# Case mappings and marks

Blanks, backslashes, underscores and braces are the marks that hold names and templates together.
No letter or number is a mark, and the upper or lower case of a character has a mark in it only if
the character is one.
-/

namespace EndpointDocs

/-- Blanks and the characters between the parts of names and templates. -/
def IsMark (c : Char) : Prop :=
  isBlank c = true ∨ c ∈ ['\\', '_', '\x7b', '\x7d']

instance : DecidablePred IsMark := fun c ↦
  inferInstanceAs (Decidable (isBlank c = true ∨ c ∈ ['\\', '_', '\x7b', '\x7d']))

def markCodes : List ℕ :=
  [0x9, 0xA, 0xB, 0xC, 0xD, 0x20, 0x5C, 0x5F, 0x7B, 0x7D, 0x85, 0xA0, 0x1680, 0x2000, 0x2001,
    0x2002, 0x2003, 0x2004, 0x2005, 0x2006, 0x2007, 0x2008, 0x2009, 0x200A, 0x2028, 0x2029, 0x202F,
    0x205F, 0x3000]

theorem mem_markCodes_of_isMark {c : Char} (h : IsMark c) : c.toNat ∈ markCodes := by
  rcases h with hblank | hmark
  · simp only [isBlank, Bool.or_eq_true, Bool.and_eq_true, decide_eq_true_eq, beq_iff_eq] at hblank
    simp only [markCodes, List.mem_cons, List.not_mem_nil, or_false]
    rcases hblank with (((((((((h | h) | h) | h) | h) | h) | h) | h) | h) | h) | h <;> omega
  · simp only [List.mem_cons, List.not_mem_nil, or_false] at hmark
    rcases hmark with rfl | rfl | rfl | rfl <;> decide

theorem mem_markCodes_of_isMark_ofNat {n : ℕ} (h : IsMark (Char.ofNat n)) : n ∈ markCodes := by
  have hcode := mem_markCodes_of_isMark h
  by_cases hvalid : n.isValidChar
  · have hsame : Char.ofNat n = Char.ofNatAux n hvalid := dif_pos hvalid
    rw [hsame] at hcode
    exact hcode
  · have hzero : Char.ofNat n = '\x00' := dif_neg hvalid
    rw [hzero] at hcode
    exact absurd hcode (by decide)

/-- A property that no mark has, as a check of the marks one by one shows. -/
theorem not_isMark_of_forall {p : Char → Bool}
    (h : ∀ n ∈ markCodes, p (Char.ofNat n) = false) {c : Char} (hc : p c = true) : ¬ IsMark c := by
  intro hmark
  have hnot := h c.toNat (mem_markCodes_of_isMark hmark)
  rw [Char.ofNat_toNat, hc] at hnot
  cases hnot

theorem not_isMark_of_isAlphanumeric {c : Char} (h : isAlphanumeric c = true) : ¬ IsMark c :=
  not_isMark_of_forall (by decide +kernel) h

theorem not_isMark_of_isUppercase {c : Char} (h : isUppercase c = true) : ¬ IsMark c :=
  not_isMark_of_forall (by decide +kernel) h

/-! ## Images under the tables -/

/-- No image under the runs is a mark. -/
def AvoidMarks (runs : CaseRuns) : Prop :=
  ∀ run ∈ runs, ∀ mark ∈ markCodes, mark < run.2.2.2 ∨ run.2.2.2 + (run.2.1 - run.1) < mark

instance (runs : CaseRuns) : Decidable (AvoidMarks runs) :=
  inferInstanceAs (Decidable (∀ run ∈ runs, ∀ mark ∈ markCodes, _))

theorem avoidMarks_lowerRuns : AvoidMarks lowerRuns := by
  decide +kernel

theorem avoidMarks_upperRuns : AvoidMarks upperRuns := by
  decide +kernel

theorem notMem_markCodes_of_caseImage? {runs : CaseRuns} (havoid : AvoidMarks runs) {n image : ℕ}
    (h : caseImage? n runs = some image) : image ∉ markCodes := by
  induction runs with
  | nil => cases h
  | cons run runs ih =>
      obtain ⟨hfirst, hothers⟩ := List.forall_mem_cons.mp havoid
      obtain ⟨first, last, step, start⟩ := run
      rw [caseImage?] at h
      split at h
      · next hrun =>
        simp only [Bool.and_eq_true, decide_eq_true_eq] at hrun
        obtain rfl := Option.some.inj h
        intro hmark
        have hout := hfirst _ hmark
        dsimp only at hout
        omega
      · exact ih hothers h

theorem notMem_markCodes_of_expansion :
    ∀ entry ∈ upperExpansions, ∀ image ∈ entry.2, image ∉ markCodes := by
  decide +kernel

/-! ## The cases of a character -/

section Cases

variable {c d : Char}

theorem not_isMark_of_ascii : ∀ n < 128, ¬ IsMark (Char.ofNat n) →
    ¬ IsMark (Char.ofNat n).toLower ∧ ¬ IsMark (Char.ofNat n).toUpper := by
  decide +kernel

theorem not_isMark_toLower_toUpper (hascii : c.toNat < 128) (hc : ¬ IsMark c) :
    ¬ IsMark c.toLower ∧ ¬ IsMark c.toUpper := by
  have hcases := not_isMark_of_ascii c.toNat hascii
  rw [Char.ofNat_toNat] at hcases
  exact hcases hc

/-- No mark comes up when the case of a character that is none is changed. -/
theorem not_isMark_of_mem_lowerChar (hc : ¬ IsMark c) (h : d ∈ lowerChar c) : ¬ IsMark d := by
  rw [lowerChar] at h
  split at h
  · next hascii =>
    rw [List.mem_singleton.mp h]
    exact (not_isMark_toLower_toUpper hascii hc).1
  · split at h
    · simp only [List.mem_cons, List.not_mem_nil, or_false] at h
      rcases h with rfl | rfl <;> decide
    · split at h
      · next image himage =>
        rw [List.mem_singleton.mp h]
        intro hmark
        exact notMem_markCodes_of_caseImage? avoidMarks_lowerRuns himage
          (mem_markCodes_of_isMark_ofNat hmark)
      · rwa [List.mem_singleton.mp h]

theorem not_isMark_of_mem_upperChar (hc : ¬ IsMark c) (h : d ∈ upperChar c) : ¬ IsMark d := by
  rw [upperChar] at h
  split at h
  · next hascii =>
    rw [List.mem_singleton.mp h]
    exact (not_isMark_toLower_toUpper hascii hc).2
  · split at h
    · next images himages =>
      obtain ⟨front, back, hsplit, -⟩ := List.lookup_eq_some_iff.mp himages
      have hentry : (c.toNat, images) ∈ upperExpansions := by
        rw [hsplit]
        exact List.mem_append_right _ List.mem_cons_self
      obtain ⟨image, himage, rfl⟩ := List.mem_map.mp h
      intro hmark
      exact notMem_markCodes_of_expansion _ hentry image himage
        (mem_markCodes_of_isMark_ofNat hmark)
    · split at h
      · next image himage =>
        rw [List.mem_singleton.mp h]
        intro hmark
        exact notMem_markCodes_of_caseImage? avoidMarks_upperRuns himage
          (mem_markCodes_of_isMark_ofNat hmark)
      · rwa [List.mem_singleton.mp h]

end Cases

end EndpointDocs
