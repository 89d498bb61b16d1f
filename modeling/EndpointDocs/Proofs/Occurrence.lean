import EndpointDocs.Text.Basic
import Mathlib.Data.List.Infix

/-!
# Occurrences of a piece

A text is cut around the first place where a piece stands, and it is not cut exactly when the piece
stands nowhere in it.  A piece without a character is not found across that character.  In a text of
several parts a piece that is in none of them can only stand across parts.
-/

namespace EndpointDocs.Text

theorem isPrefixOf?_append (piece s : Text) : piece.isPrefixOf? (piece ++ s) = some s := by
  induction piece with
  | nil => cases s <;> rfl
  | cons c piece ih => simp [List.isPrefixOf?, ih]

theorem isPrefixOf?_eq_none_iff {piece s : Text} :
    piece.isPrefixOf? s = none ↔ ¬ piece <+: s := by
  constructor
  · rintro h ⟨after, rfl⟩
    rw [isPrefixOf?_append] at h
    cases h
  · intro h
    cases hafter : piece.isPrefixOf? s with
    | none => rfl
    | some after => exact absurd ⟨after, append_of_isPrefixOf? hafter⟩ h

theorem isSuffixOf?_append (piece s : Text) : piece.isSuffixOf? (s ++ piece) = some s := by
  rw [List.isSuffixOf?, List.reverse_append, isPrefixOf?_append]
  simp

theorem isSuffixOf?_eq_none_iff {piece s : Text} :
    piece.isSuffixOf? s = none ↔ ¬ piece <:+ s := by
  rw [List.isSuffixOf?, Option.map_eq_none_iff, isPrefixOf?_eq_none_iff, List.reverse_prefix]

/-- Nothing is cut exactly if the piece stands nowhere in the text. -/
theorem cutAround?_eq_none_iff {piece s : Text} : cutAround? piece s = none ↔ ¬ piece <:+: s := by
  induction s with
  | nil => simp [cutAround?]
  | cons c s ih =>
      rw [List.infix_cons_iff, not_or, ← ih, ← isPrefixOf?_eq_none_iff, cutAround?]
      cases piece.isPrefixOf? (c :: s) <;> simp

theorem mentions_iff {piece s : Text} : mentions piece s = true ↔ piece <:+: s := by
  rw [mentions, Option.isSome_iff_ne_none, ne_eq, cutAround?_eq_none_iff, not_not]

theorem mentions_eq_false_iff {piece s : Text} : mentions piece s = false ↔ ¬ piece <:+: s := by
  rw [← mentions_iff, Bool.not_eq_true]

/-- What is before a cut does not hold the piece. -/
theorem cutAround?_eq_some {piece s before after : Text} (hne : piece ≠ [])
    (h : cutAround? piece s = some (before, after)) :
    s = before ++ (piece ++ after) ∧ ¬ piece <:+: before := by
  induction s generalizing before with
  | nil => simp [cutAround?, hne] at h
  | cons c s ih =>
      rw [cutAround?] at h
      split at h
      · next rest hrest =>
        obtain ⟨rfl, rfl⟩ : [] = before ∧ rest = after := by simpa using h
        refine ⟨(append_of_isPrefixOf? hrest).symm, ?_⟩
        rwa [List.infix_nil]
      · next hprefix =>
        obtain ⟨⟨front, back⟩, hcut, heq⟩ := Option.map_eq_some_iff.mp h
        obtain ⟨rfl, rfl⟩ : c :: front = before ∧ back = after := by simpa using heq
        obtain ⟨rfl, hfront⟩ := ih hcut
        refine ⟨rfl, ?_⟩
        rw [List.infix_cons_iff, not_or]
        refine ⟨fun hat ↦ isPrefixOf?_eq_none_iff.mp hprefix ?_, hfront⟩
        exact hat.trans (List.prefix_append (c :: front) _)

/-! ## A text of several parts -/

/-- A piece begins in one part of a text and ends in a later one. -/
def StandsAcross (piece : Text) (parts : List Text) : Prop :=
  ∃ front part back, parts = front ++ part :: back ∧
    ∃ head tail, piece = head ++ tail ∧ head ≠ [] ∧ tail ≠ [] ∧ head <:+ part ∧
      tail <+: back.flatten

theorem StandsAcross.cons {piece : Text} {parts : List Text} (h : StandsAcross piece parts)
    (part : Text) : StandsAcross piece (part :: parts) := by
  obtain ⟨front, other, back, rfl, hmet⟩ := h
  exact ⟨part :: front, other, back, rfl, hmet⟩

theorem StandsAcross.isInfix {piece : Text} {parts : List Text} (h : StandsAcross piece parts) :
    piece <:+: parts.flatten := by
  obtain ⟨front, part, back, rfl, head, tail, rfl, -, -, ⟨s, rfl⟩, ⟨t, ht⟩⟩ := h
  refine ⟨front.flatten ++ s, t, ?_⟩
  simp [← ht]

/-- A piece that is in no part of a text stands in the text only across parts. -/
theorem infix_flatten_iff {piece : Text} (hne : piece ≠ []) {parts : List Text}
    (hparts : ∀ part ∈ parts, ¬ piece <:+: part) :
    piece <:+: parts.flatten ↔ StandsAcross piece parts := by
  refine ⟨fun h ↦ ?_, StandsAcross.isInfix⟩
  induction parts with
  | nil => exact absurd (List.infix_nil.mp h) hne
  | cons part parts ih =>
      have hlater : piece <:+: parts.flatten → StandsAcross piece (part :: parts) := fun hin ↦
        (ih (fun other hmem ↦ hparts other (List.mem_cons_of_mem _ hmem)) hin).cons part
      rw [List.flatten_cons, List.infix_append_iff] at h
      rcases h with hin | hin | ⟨head, tail, rfl, hhead, htail⟩
      · exact absurd hin (hparts part List.mem_cons_self)
      · exact hlater hin
      · by_cases hnoHead : head = []
        · subst hnoHead
          exact hlater htail.isInfix
        · by_cases hnoTail : tail = []
          · subst hnoTail
            rw [List.append_nil] at hparts
            exact absurd hhead.isInfix (hparts part List.mem_cons_self)
          · exact ⟨[], part, parts, rfl, head, tail, rfl, hnoHead, hnoTail, hhead, htail⟩

/-! ## A character that is not in the piece -/

variable {piece : Text} {mark : Char}

theorem prefix_append_cons_iff (hmark : mark ∉ piece) (s t : Text) :
    piece <+: s ++ mark :: t ↔ piece <+: s := by
  constructor
  · rintro ⟨after, heq⟩
    obtain ⟨rest, hs, -⟩ | ⟨rest, hpiece, hrest⟩ := List.append_eq_append_iff.mp heq
    · exact ⟨rest, hs.symm⟩
    · cases rest with
      | nil => exact ⟨[], by simpa using hpiece⟩
      | cons c rest =>
          obtain ⟨rfl, -⟩ := List.cons.inj hrest
          simp [hpiece] at hmark
  · exact fun h ↦ h.trans (List.prefix_append s _)

theorem infix_append_cons_iff (hne : piece ≠ []) (hmark : mark ∉ piece) (s t : Text) :
    piece <:+: s ++ mark :: t ↔ piece <:+: s ∨ piece <:+: t := by
  induction s with
  | nil =>
      have hprefix : ¬ piece <+: mark :: t := by
        rw [← List.nil_append (mark :: t), prefix_append_cons_iff hmark, List.prefix_nil]
        exact hne
      simp [List.infix_cons_iff, hprefix, hne]
  | cons c s ih =>
      rw [List.cons_append, List.infix_cons_iff, List.infix_cons_iff, ih, ← List.cons_append,
        prefix_append_cons_iff hmark, or_assoc]

/-- The first place of a piece that stands only behind a character is looked for from there. -/
theorem cutAround?_append_cons (hne : piece ≠ []) (hmark : mark ∉ piece) {s : Text}
    (hs : ¬ piece <:+: s) (t : Text) :
    cutAround? piece (s ++ mark :: t) =
      (cutAround? piece t).map fun cut ↦ (s ++ mark :: cut.1, cut.2) := by
  induction s with
  | nil =>
      have hprefix : piece.isPrefixOf? (mark :: t) = none := by
        rw [isPrefixOf?_eq_none_iff, ← List.nil_append (mark :: t), prefix_append_cons_iff hmark,
          List.prefix_nil]
        exact hne
      rw [List.nil_append, cutAround?, hprefix]
      rfl
  | cons c s ih =>
      rw [List.infix_cons_iff, not_or] at hs
      have hprefix : piece.isPrefixOf? (c :: (s ++ mark :: t)) = none := by
        rw [isPrefixOf?_eq_none_iff, ← List.cons_append, prefix_append_cons_iff hmark]
        exact hs.1
      rw [List.cons_append, cutAround?, hprefix, ih hs.2, Option.map_map]
      rfl

theorem cutAround?_append (hne : piece ≠ []) (t : Text) :
    cutAround? piece (piece ++ t) = some ([], t) := by
  obtain ⟨c, piece, rfl⟩ := List.exists_cons_of_ne_nil hne
  have hprefix := isPrefixOf?_append (c :: piece) t
  rw [List.cons_append] at hprefix ⊢
  rw [cutAround?, hprefix]

end EndpointDocs.Text
