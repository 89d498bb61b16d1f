import EndpointDocs.Proofs.ExampleMarker
import EndpointDocs.Proofs.Respacing

/-!
# Inline examples and blanks

The search for an inline example goes by the markers, which hold no blank, and by the line feeds.
So a space beside a blank changes no word of the description that is cut off, over all lines of a
text.
-/

namespace EndpointDocs

theorem isWordChar_of_isBlank {c : Char} (h : isBlank c = true) : isWordChar c = false := by
  have hall : ∀ n ∈ List.range' 0x9 5 ++ [0x20, 0x85, 0xA0, 0x1680] ++ List.range' 0x2000 11 ++
      [0x2028, 0x2029, 0x202F, 0x205F, 0x3000], isWordChar (Char.ofNat n) = false := by
    decide +kernel
  rw [← Char.ofNat_toNat c]
  apply hall
  simp only [isBlank, Bool.or_eq_true, Bool.and_eq_true, decide_eq_true_eq, beq_iff_eq] at h
  simp only [List.mem_append, List.mem_range'_1, List.mem_cons, List.not_mem_nil, or_false]
  omega

namespace Text

/-- A text without a blank at its end. -/
def EndsInWord (s : Text) : Prop :=
  ∀ c, s.getLast? = some c → isBlank c = false

theorem EndsInWord.of_append {front s : Text} (h : EndsInWord (front ++ s)) : EndsInWord s := by
  intro c hc
  apply h
  rw [List.getLast?_append, hc, Option.some_or]

theorem EndsInWord.of_cons {c : Char} {s : Text} (h : EndsInWord (c :: s)) : EndsInWord s := by
  rw [← List.singleton_append] at h
  exact h.of_append

theorem EndsInWord.nonBlanks_ne_nil {s : Text} (h : EndsInWord s) (hne : s ≠ []) :
    nonBlanks s ≠ [] := by
  intro hblank
  have hlast := h _ (List.getLast?_eq_some_getLast hne)
  rw [nonBlanks_eq_nil_iff.mp hblank _ (List.getLast_mem hne)] at hlast
  cases hlast

end Text

namespace InlineExample

/-! ## Where an example starts -/

theorem nonBlanks_marker : Text.nonBlanks marker = marker := by decide +kernel

/-- In a text without blanks at its end a marker has a literal unless it ends the text. -/
theorem startsAt_iff_prefix {before : Option Char} {s : Text} (hs : s.EndsInWord) :
    startsAt ⟨before, s⟩ = true ↔
      before.any isWordChar = false ∧ marker <+: s ∧ Text.nonBlanks s ≠ marker := by
  rw [startsAt_iff]
  refine and_congr_right fun _ ↦ ?_
  constructor
  · rintro ⟨after, rfl, c, hc, -⟩
    refine ⟨List.prefix_append marker after, ?_⟩
    have hafter := hs.of_append.nonBlanks_ne_nil (List.ne_nil_of_mem hc)
    simpa [nonBlanks_marker] using hafter
  · rintro ⟨⟨after, rfl⟩, hmore⟩
    have hafter : Text.nonBlanks after ≠ [] := by simpa [nonBlanks_marker] using hmore
    rw [ne_eq, Text.nonBlanks_eq_nil_iff, not_forall] at hafter
    obtain ⟨c, hc⟩ := hafter
    rw [Classical.not_imp, Bool.not_eq_true] at hc
    exact ⟨after, rfl, c, hc.1, inLine_of_not_blank hc.2⟩

theorem startsAt_respaced {s t : Text} (h : Text.Respaced none s t) (hs : s.EndsInWord)
    (ht : t.EndsInWord) (before : Option Char) : startsAt ⟨before, s⟩ = startsAt ⟨before, t⟩ := by
  have hmarker : ∀ c ∈ marker, isBlank c = false := Text.nonBlanks_eq_self_iff.mp nonBlanks_marker
  rw [Bool.eq_iff_iff, startsAt_iff_prefix hs, startsAt_iff_prefix ht, h.prefix_iff rfl hmarker,
    h.nonBlanks_eq]

theorem startsAt_nil (before : Option Char) : startsAt ⟨before, []⟩ = false := by
  rw [Bool.eq_false_iff, ne_eq, startsAt_iff]
  simp [marker_eq]

theorem startsAt_cons_of_isBlank {before : Option Char} {c : Char} (h : isBlank c = true)
    (s : Text) : startsAt ⟨before, c :: s⟩ = false := by
  rw [Bool.eq_false_iff, ne_eq, startsAt_iff]
  rintro ⟨-, after, hs, -⟩
  rw [marker_eq, List.cons_append] at hs
  obtain ⟨rfl, -⟩ := List.cons.inj hs
  cases h

theorem startsAt_beside {before : Option Char} {s : Text}
    (h : before.any isBlank = true ∨ s.head?.all isBlank = true) :
    startsAt ⟨some ' ', s⟩ = startsAt ⟨before, s⟩ := by
  rcases h with hbefore | hhead
  · obtain ⟨b, rfl, hb⟩ := (Option.any_eq_true ..).mp hbefore
    have hspace : isWordChar ' ' = false := isWordChar_of_isBlank rfl
    rw [Bool.eq_iff_iff, startsAt_iff, startsAt_iff]
    simp [hspace, isWordChar_of_isBlank hb]
  · cases s with
    | nil => rw [startsAt_nil, startsAt_nil]
    | cons c s =>
        have hc : isBlank c = true := by simpa using hhead
        rw [startsAt_cons_of_isBlank hc, startsAt_cons_of_isBlank hc]

/-! ## The description before an example -/

/-- What a match from a place takes for the description. -/
def describedFrom (before : Option Char) : Text → Option Text
  | [] => none
  | c :: s =>
    match if inLine c then describedFrom (some c) s else none with
    | some described => some (c :: described)
    | none => if startsAt ⟨before, c :: s⟩ then some [] else none

theorem map_literalAt? {α : Type} (edge : Place) (a : α) :
    ((literalAt? edge).map fun _ ↦ a) = if startsAt edge then some a else none := by
  rw [startsAt]
  cases literalAt? edge <;> rfl

theorem manyFrom_literalAt? (front : Text) (before : Option Char) (s : Text) :
    Pattern.manyFrom inLine
        (fun n edge ↦ (literalAt? edge).map fun _ ↦ (front ++ s).take n) front.length before s =
      (describedFrom before s).map (front ++ ·) := by
  induction s generalizing front before with
  | nil => simp [Pattern.manyFrom, map_literalAt?, startsAt_nil, describedFrom]
  | cons c s ih =>
      have hstep := ih (front ++ [c]) (some c)
      rw [List.append_assoc, List.singleton_append, List.length_append, List.length_singleton]
        at hstep
      rw [Pattern.manyFrom, describedFrom, hstep, map_literalAt?]
      cases inLine c with
      | false => cases startsAt ⟨before, c :: s⟩ <;> simp
      | true =>
          cases describedFrom (some c) s with
          | some described => simp
          | none => cases startsAt ⟨before, c :: s⟩ <;> simp

theorem map_fst_pattern (place : Place) :
    (pattern place).map Prod.fst = describedFrom place.before place.rest := by
  have hmany := manyFrom_literalAt? [] place.before place.rest
  rw [pattern_eq, Pattern.map_many, Pattern.many]
  simpa [Option.map_map, Function.comp_def] using hmany

/-- What the search from a place on takes for the description, before it is trimmed. -/
def firstDescribed (before : Option Char) (s : Text) : Option Text :=
  Pattern.firstFrom (fun place ↦ describedFrom place.before place.rest) before s

/-- The description of a match is found without its literal. -/
theorem map_fst_split? (raw : Text) :
    (split? raw).map Prod.fst = (firstDescribed none raw).map Text.trim := by
  have hfirst : (Pattern.first? pattern raw).map Prod.fst = firstDescribed none raw := by
    rw [Pattern.first?, Pattern.map_firstFrom]
    simp only [map_fst_pattern]
    rfl
  rw [split?, ← hfirst, Option.map_map, Option.map_map]
  rfl

/-! ## Respaced texts -/

variable {before : Option Char} {s t : Text}

theorem rel_respaced_refl (described? : Option Text) :
    Option.Rel (Text.Respaced before) described? described? := by
  cases described? with
  | none => exact .none
  | some described => exact .some (.refl _ _)

theorem describedFrom_isPrefix {described : Text} (h : describedFrom before s = some described) :
    described <+: s := by
  induction s generalizing before described with
  | nil => cases h
  | cons c s ih =>
      rw [describedFrom] at h
      split at h
      · next rest hrest =>
        cases h
        split at hrest
        · exact List.cons_prefix_cons.mpr ⟨rfl, ih hrest⟩
        · cases hrest
      · split at h
        · cases h
          exact List.nil_prefix
        · cases h

theorem describedFrom_beside (h : before.any isBlank = true ∨ s.head?.all isBlank = true) :
    describedFrom (some ' ') s = describedFrom before s := by
  cases s with
  | nil => rfl
  | cons c s => rw [describedFrom, describedFrom, startsAt_beside h]

theorem describedFrom_space (h : before.any isBlank = true ∨ s.head?.all isBlank = true) :
    describedFrom before (' ' :: s) = (describedFrom before s).map (' ' :: ·) := by
  have hline : inLine ' ' = true := rfl
  rw [describedFrom, if_pos hline, describedFrom_beside h, startsAt_cons_of_isBlank rfl]
  cases describedFrom before s <;> rfl

/-- A space more beside a blank changes the spacing of what a match describes, and nothing else. -/
theorem describedFrom_respaced (h : Text.Respaced before s t) (hs : s.EndsInWord)
    (ht : t.EndsInWord) :
    Option.Rel (Text.Respaced before) (describedFrom before s) (describedFrom before t) := by
  induction h with
  | refl before s => exact rel_respaced_refl _
  | @beside before s hgap =>
      rw [describedFrom_space hgap]
      cases hdescribed : describedFrom before s with
      | none => exact .none
      | some described =>
          refine .some (.beside (hgap.imp_right ?_))
          -- The description is empty or starts with the blank that the text starts with.
          intro hhead
          obtain ⟨rest, rfl⟩ := describedFrom_isPrefix hdescribed
          cases described with
          | nil => rfl
          | cons c described => simpa using hhead
  | @cons before c s t h ih =>
      have hrest := ih hs.of_cons ht.of_cons
      rw [describedFrom, describedFrom, startsAt_respaced (.cons c h) hs ht]
      cases inLine c with
      | false => exact rel_respaced_refl _
      | true =>
          simp only [if_true]
          match describedFrom (some c) s, describedFrom (some c) t, hrest with
          | _, _, .some hdescribed => exact .some (.cons c hdescribed)
          | _, _, .none => exact rel_respaced_refl _

theorem firstDescribed_cons (before : Option Char) (c : Char) (s : Text) :
    firstDescribed before (c :: s) =
      (describedFrom before (c :: s)).or (firstDescribed (some c) s) := by
  rw [firstDescribed, Pattern.firstFrom]
  cases describedFrom before (c :: s) <;> rfl

theorem firstDescribed_beside (h : before.any isBlank = true ∨ s.head?.all isBlank = true) :
    firstDescribed (some ' ') s = firstDescribed before s := by
  cases s with
  | nil => rfl
  | cons c s => rw [firstDescribed_cons, firstDescribed_cons, describedFrom_beside h]

theorem firstDescribed_of_describedFrom {described : Text}
    (h : describedFrom before s = some described) : firstDescribed before s = some described := by
  cases s with
  | nil => cases h
  | cons c s => rw [firstDescribed_cons, h, Option.some_or]

/-- The words before the first marker do not depend on the spacing. -/
theorem firstDescribed_respaced (h : Text.Respaced before s t) (hs : s.EndsInWord)
    (ht : t.EndsInWord) :
    Option.Rel (fun described other ↦ described.words = other.words) (firstDescribed before s)
      (firstDescribed before t) := by
  induction h with
  | refl before s =>
      cases firstDescribed before s with
      | none => exact .none
      | some described => exact .some rfl
  | @beside before s hgap =>
      rw [firstDescribed_cons, describedFrom_space hgap, firstDescribed_beside hgap]
      cases hdescribed : describedFrom before s with
      | some described =>
          rw [firstDescribed_of_describedFrom hdescribed]
          exact .some (Text.words_cons rfl described).symm
      | none =>
          rw [Option.map_none, Option.none_or]
          cases firstDescribed before s with
          | none => exact .none
          | some described => exact .some rfl
  | @cons before c s t h ih =>
      have hhere : Option.Rel (Text.Respaced before) (describedFrom before (c :: s))
          (describedFrom before (c :: t)) := describedFrom_respaced (.cons c h) hs ht
      have hlater := ih hs.of_cons ht.of_cons
      rw [firstDescribed_cons, firstDescribed_cons]
      match describedFrom before (c :: s), describedFrom before (c :: t), hhere with
      | _, _, .some hdescribed => exact .some hdescribed.words_eq
      | _, _, .none => exact hlater

end InlineExample

theorem describe_fst (raw : Text) (t : ParamType) :
    (describe raw t).1 = Text.trim ((InlineExample.firstDescribed none raw).getD raw) := by
  have hsplit := InlineExample.map_fst_split? raw
  unfold describe
  cases hfound : InlineExample.split? raw with
  | none =>
      rw [hfound, Option.map_none, eq_comm, Option.map_eq_none_iff] at hsplit
      rw [hsplit, Option.getD_none]
  | some found =>
      rw [hfound, Option.map_some, eq_comm, Option.map_eq_some_iff] at hsplit
      obtain ⟨described, hdescribed, htrim⟩ := hsplit
      rw [hdescribed, Option.getD_some, htrim]

/-- Respacing a raw description changes no word of the description without its example. -/
theorem words_describe_respaced {raw other : Text} (h : Text.Respaced none raw other)
    (hraw : raw.EndsInWord) (hother : other.EndsInWord) (t : ParamType) :
    (describe raw t).1.words = (describe other t).1.words := by
  rw [describe_fst, describe_fst, Text.words_trim, Text.words_trim]
  match InlineExample.firstDescribed none raw, InlineExample.firstDescribed none other,
    InlineExample.firstDescribed_respaced h hraw hother with
  | _, _, .some hwords => exact hwords
  | _, _, .none => exact h.words_eq

end EndpointDocs
