import EndpointDocs.Proofs.Words
import EndpointDocs.Tag.Fields
import Mathlib.Data.Option.Basic

/-!
# Blanks beside blanks

A space that is added beside a blank, or at the end, parts no word and joins none.  So the words of
the text stay the same, and so do the fields of a tag but for the spacing of the description.
-/

namespace EndpointDocs

namespace Text

/-- The second text is the first, or it is the first with a space added beside a blank or at the
end; `before` is the character that both texts stand behind. -/
inductive Respaced : Option Char → Text → Text → Prop
  | refl (before : Option Char) (s : Text) : Respaced before s s
  | beside {before : Option Char} {s : Text} :
      before.any isBlank = true ∨ s.head?.all isBlank = true → Respaced before s (' ' :: s)
  | cons {before : Option Char} (c : Char) {s t : Text} :
      Respaced (some c) s t → Respaced before (c :: s) (c :: t)

variable {before : Option Char} {s t : Text}

/-- A space added where two texts meet, one of which has a blank there. -/
theorem respaced_append (x : Text) {y : Text}
    (h : (x.getLast?.or before).any isBlank = true ∨ y.head?.all isBlank = true) :
    Respaced before (x ++ y) (x ++ ' ' :: y) := by
  induction x generalizing before with
  | nil => exact .beside h
  | cons c x ih =>
      apply Respaced.cons
      apply ih
      rwa [List.getLast?_cons, Option.some_or, ← Option.or_some] at h

namespace Respaced

theorem nonBlanks_eq (h : Respaced before s t) : nonBlanks s = nonBlanks t := by
  induction h with
  | refl before s => rfl
  | beside _ => rfl
  | cons c _ ih =>
      rw [← List.singleton_append, nonBlanks_append, ih, ← nonBlanks_append,
        List.singleton_append]

/-- The words are the same, also behind a common front. -/
theorem words_append_eq (h : Respaced before s t) {front : Text}
    (hfront : front = [] ∨ front.getLast? = before) : words (front ++ s) = words (front ++ t) := by
  induction h generalizing front with
  | refl before s => rfl
  | @beside before s hgap =>
      rw [words_append_cons front (c := ' ') rfl]
      rcases hgap with hbefore | hhead
      · rcases hfront with rfl | hlast
        · simp
        · obtain ⟨b, rfl, hb⟩ := (Option.any_eq_true ..).mp hbefore
          obtain ⟨start, rfl⟩ := List.getLast?_eq_some_iff.mp hlast
          rw [List.append_assoc, List.singleton_append, words_append_cons _ hb,
            words_append_cons _ hb]
          simp
      · cases s with
        | nil => simp
        | cons b s =>
            have hb : isBlank b = true := by simpa using hhead
            rw [words_append_cons _ hb, words_cons hb]
  | cons c _ ih =>
      have hstep : words (front ++ [c] ++ _) = words (front ++ [c] ++ _) := ih (.inr (by simp))
      simpa using hstep

theorem words_eq (h : Respaced before s t) : words s = words t := by
  rw [← List.nil_append s, ← List.nil_append t]
  exact h.words_append_eq (.inl rfl)

theorem prefix_iff (h : Respaced before s t) (hbefore : before.any isBlank = false) {piece : Text}
    (hpiece : ∀ c ∈ piece, isBlank c = false) : piece <+: s ↔ piece <+: t := by
  induction h generalizing piece with
  | refl before s => rfl
  | @beside before s hgap =>
      cases piece with
      | nil => simp
      | cons p piece =>
          have hp : isBlank p = false := hpiece p List.mem_cons_self
          have hspace : p ≠ ' ' := by
            rintro rfl
            cases hp
          cases s with
          | nil => simp [hspace]
          | cons c s =>
              have hc : isBlank c = true := by simpa [hbefore] using hgap
              have hne : p ≠ c := by
                rintro rfl
                simp [hc] at hp
              simp [List.cons_prefix_cons, hspace, hne]
  | cons c _ ih =>
      cases piece with
      | nil => simp
      | cons p piece =>
          obtain ⟨hp, hrest⟩ := List.forall_mem_cons.mp hpiece
          rw [List.cons_prefix_cons, List.cons_prefix_cons]
          refine and_congr_right ?_
          rintro rfl
          exact ih (by simpa using hp) hrest

/-! ## Trimming -/

theorem trimStart (h : Respaced before s t) :
    Respaced none (Text.trimStart s) (Text.trimStart t) := by
  induction h with
  | refl before s => exact .refl _ _
  | beside _ => exact .refl _ _
  | @cons before c s t h ih =>
      cases hc : isBlank c with
      | true => simpa [Text.trimStart, hc] using ih
      | false => simpa [Text.trimStart, hc] using Respaced.cons c h

theorem trimEnd (h : Respaced before s t) :
    Respaced before (Text.trimEnd s) (Text.trimEnd t) := by
  induction h with
  | refl before s => exact .refl _ _
  | @beside before s hgap =>
      have hspace : nonBlanks (' ' :: s) = nonBlanks s := rfl
      rw [trimEnd_cons, hspace]
      cases s with
      | nil => exact .refl _ _
      | cons c s =>
          rw [trimEnd_cons]
          split
          · exact .refl _ _
          · exact .beside (by simpa using hgap)
  | @cons before c s t h ih =>
      have hcons : Respaced before (c :: s) (c :: t) := .cons c h
      rw [trimEnd_cons, trimEnd_cons, hcons.nonBlanks_eq]
      split
      · exact .refl _ _
      · exact .cons c ih

theorem trim (h : Respaced before s t) : Respaced none (Text.trim s) (Text.trim t) :=
  h.trimStart.trimEnd

/-! ## The first word -/

/-- Behind a character that is not blank, a space can be added only where a word ends anyway. -/
theorem splitBlank (h : Respaced before s t) (hbefore : before.any isBlank = false) :
    (Text.splitBlank s).1 = (Text.splitBlank t).1 ∧
      Respaced none (Text.splitBlank s).2 (Text.splitBlank t).2 := by
  induction h with
  | refl before s => exact ⟨rfl, .refl _ _⟩
  | @beside before s hgap =>
      have hhead : s.head?.all isBlank = true := by simpa [hbefore] using hgap
      have hspace : isBlank ' ' = true := rfl
      rw [splitBlank_cons, if_pos hspace]
      cases s with
      | nil => exact ⟨rfl, .beside (.inr rfl)⟩
      | cons c s =>
          rw [splitBlank_cons, if_pos (by simpa using hhead)]
          exact ⟨rfl, .beside (.inr hhead)⟩
  | cons c h ih =>
      rw [splitBlank_cons, splitBlank_cons]
      cases hc : isBlank c with
      | true => exact ⟨rfl, .cons c h⟩
      | false =>
          obtain ⟨hword, hrest⟩ := ih (by simpa using hc)
          simp only [Bool.false_eq_true, if_false, hword]
          exact ⟨trivial, hrest⟩

/-- The next word is the same, and what follows it differs in spacing at most. -/
theorem nextWord? (h : Respaced before s t) :
    Option.Rel (fun found other ↦ found.1 = other.1 ∧ Respaced none found.2 other.2)
      (Text.nextWord? s) (Text.nextWord? t) := by
  have hstart := h.trimStart
  have hnone : Text.nextWord? s = none ↔ Text.nextWord? t = none := by
    rw [nextWord?_eq_none_iff, nextWord?_eq_none_iff, h.nonBlanks_eq]
  unfold Text.nextWord? at hnone ⊢
  cases hs : Text.trimStart s with
  | nil =>
      rw [hs] at hnone
      rw [hnone.mp rfl]
      exact .none
  | cons c u =>
      cases ht : Text.trimStart t with
      | nil => simp [hs, ht] at hnone
      | cons d v => exact .some ((hs ▸ ht ▸ hstart).splitBlank rfl)

end Respaced

end Text

namespace TagFields

/-- Fields that differ at most in the description. -/
structure SameHead (fields other : TagFields) : Prop where
  name_eq : fields.name = other.name
  typeToken_eq : fields.typeToken = other.typeToken
  isRequired_eq : fields.isRequired = other.isRequired

/-- Fields that differ at most in the spacing of the description. -/
structure Respaced (fields other : TagFields) : Prop extends SameHead fields other where
  description : Text.Respaced none fields.description other.description

variable {s t : Text}

theorem typeToken?_respaced (kind : TagKind) (h : Text.Respaced none s t) :
    (typeToken? kind s).1 = (typeToken? kind t).1 ∧
      Text.Respaced none (typeToken? kind s).2 (typeToken? kind t).2 := by
  unfold typeToken?
  match Text.nextWord? s, Text.nextWord? t, h.nextWord? with
  | _, _, .none => exact ⟨rfl, h⟩
  | some (token, rest), some (_, other), .some ⟨rfl, hrest⟩ =>
      cases kind with
      | body => exact ⟨rfl, hrest⟩
      | url =>
          dsimp only
          match Text.nextWord? rest, Text.nextWord? other, hrest.nextWord? with
          | _, _, .none => exact ⟨rfl, h⟩
          | some (word, after), some (_, otherAfter), .some ⟨rfl, _⟩ =>
              dsimp only
              split
              · exact ⟨rfl, hrest⟩
              · exact ⟨rfl, h⟩

theorem takeRequired_respaced (h : Text.Respaced none s t) :
    (takeRequired s).1 = (takeRequired t).1 ∧
      Text.Respaced none (takeRequired s).2 (takeRequired t).2 := by
  unfold takeRequired
  match Text.nextWord? s, Text.nextWord? t, h.nextWord? with
  | _, _, .none => exact ⟨rfl, h⟩
  | some (word, rest), some (_, other), .some ⟨rfl, hrest⟩ =>
      dsimp only
      split
      · exact ⟨rfl, hrest⟩
      · exact ⟨rfl, h⟩

/-- The fields of a tag are the same but for the spacing of the description. -/
theorem ofContent?_respaced (kind : TagKind) (h : Text.Respaced none s t) :
    Option.Rel Respaced (ofContent? kind s) (ofContent? kind t) := by
  unfold ofContent?
  match Text.nextWord? s, Text.nextWord? t, h.nextWord? with
  | _, _, .none => exact .none
  | some (name, rest), some (_, other), .some ⟨rfl, hrest⟩ =>
      obtain ⟨htoken, hafter⟩ := typeToken?_respaced kind hrest
      obtain ⟨hrequired, hdescription⟩ := takeRequired_respaced hafter
      exact .some ⟨⟨rfl, htoken, hrequired⟩, hdescription.trim⟩

end TagFields

end EndpointDocs
