import EndpointDocs.Proofs.TagText
import EndpointDocs.Proofs.TypeSpelling

/-!
# The grammar of a tag

The words of a tag alone decide about its fields: which of them is the name, whether the next one is
a type and whether the one after these marks the parameter as required.  The description is what
stands behind the words taken, character for character.
-/

namespace EndpointDocs

namespace Text

variable {s front back : Text} {taken : List Text}

/-- A text is cut behind its first words, so that the front ends with the last of these and nothing
or a blank follows. -/
structure CutBehind (taken : List Text) (front back s : Text) : Prop where
  eq_append : s = front ++ back
  words_front : front.words = taken
  last_not_blank : ∀ c, front.getLast? = some c → isBlank c = false
  head_blank : ∀ c, back.head? = some c → isBlank c = true

theorem CutBehind.words_eq (h : CutBehind taken front back s) :
    s.words = taken ++ back.words := by
  rw [h.eq_append, words_append_of_head_blank front h.head_blank, h.words_front]

theorem CutBehind.first {word rest : Text} (h : nextWord? s = some (word, rest)) :
    ∃ front, CutBehind [word] front rest s := by
  obtain ⟨blanks, hs, hblanks, hword⟩ := eq_append_of_nextWord? h
  refine ⟨blanks ++ word, ?_, ?_, ?_, fun c ↦ head_blank_of_nextWord? h⟩
  · rw [hs, List.append_assoc]
  · rw [words_append_of_blank hblanks, words_eq_singleton hword (ne_nil_of_nextWord? h)]
  · intro c hc
    rw [List.getLast?_append_of_ne_nil _ (ne_nil_of_nextWord? h)] at hc
    exact hword c (List.mem_of_getLast? hc)

/-- The cut moves on over the next word. -/
theorem CutBehind.next (h : CutBehind taken front back s) {word rest : Text}
    (hnext : nextWord? back = some (word, rest)) :
    ∃ front, CutBehind (taken ++ [word]) front rest s := by
  obtain ⟨step, hstep⟩ := CutBehind.first hnext
  have hne : step ≠ [] := by
    rintro rfl
    simpa using hstep.words_front
  have hhead : ∀ c, step.head? = some c → isBlank c = true := by
    intro c hc
    refine h.head_blank c ?_
    rw [hstep.eq_append, List.head?_append, hc]
    rfl
  refine ⟨front ++ step, ?_, ?_, ?_, hstep.head_blank⟩
  · rw [h.eq_append, hstep.eq_append, List.append_assoc]
  · rw [words_append_of_head_blank front hhead, h.words_front, hstep.words_front]
  · intro c hc
    rw [List.getLast?_append_of_ne_nil _ hne] at hc
    exact hstep.last_not_blank c hc

theorem CutBehind.eq_nil_of_append {middle back' : Text} (h : CutBehind taken front back s)
    (h' : CutBehind taken (front ++ middle) back' s) : middle = [] := by
  have hback : back = middle ++ back' := by
    have hs := h.eq_append.symm.trans h'.eq_append
    rwa [List.append_assoc, List.append_cancel_left_eq] at hs
  have hhead : ∀ c, middle.head? = some c → isBlank c = true := by
    intro c hc
    refine h.head_blank c ?_
    rw [hback, List.head?_append, hc]
    rfl
  -- No word stands in the middle, and it does not end in a blank.
  have hwords := h'.words_front
  rw [words_append_of_head_blank front hhead, h.words_front, List.append_right_eq_self,
    words_eq_nil_iff, nonBlanks_eq_nil_iff] at hwords
  by_contra hne
  have hlast := h'.last_not_blank (middle.getLast hne) (by
    rw [List.getLast?_append_of_ne_nil _ hne, List.getLast?_eq_getLast_of_ne_nil hne])
  rw [hwords _ (List.getLast_mem hne)] at hlast
  cases hlast

/-- There is one place to cut a text behind some first words. -/
theorem CutBehind.back_unique {front' back' : Text} (h : CutBehind taken front back s)
    (h' : CutBehind taken front' back' s) : back = back' := by
  obtain ⟨middle, rfl, hback⟩ | ⟨middle, rfl, hback⟩ :=
    List.append_eq_append_iff.mp (h.eq_append.symm.trans h'.eq_append)
  · rw [hback, h.eq_nil_of_append h', List.nil_append]
  · rw [hback, h'.eq_nil_of_append h, List.nil_append]

end Text

namespace TagFields

/-- Whether a token is the type in a tag, by the words behind the name. -/
def IsTypeToken (kind : TagKind) (token : Text) (words : List Text) : Prop :=
  match kind with
  | .body => [token] <+: words
  | .url => [token, requiredWord] <+: words ∧
      ∃ t : ParamType, t.nesting ≤ ParamType.nestingLimit ∧ t.spelling = token

/-- The words before the description. -/
def headWords (fields : TagFields) : List Text :=
  fields.name :: (fields.typeToken.toList ++ if fields.isRequired then [requiredWord] else [])

/-- The fields that a text has as a tag of a kind. -/
structure IsReading (fields : TagFields) (kind : TagKind) (content : Text) : Prop where
  name_eq : content.words.head? = some fields.name
  typeToken_iff : ∀ token,
    fields.typeToken = some token ↔ IsTypeToken kind token content.words.tail
  isRequired_iff :
    fields.isRequired = true ↔ fields.typeToken.toList ++ [requiredWord] <+: content.words.tail
  /-- The description is the rest of the text behind the words taken, without the blanks around
  it. -/
  description_eq : ∃ front back,
    Text.CutBehind fields.headWords front back content ∧ fields.description = Text.trim back
  words_eq : content.words = fields.headWords ++ fields.description.words

/-- Whether a word is the type is decided by the words behind the name alone. -/
theorem typeToken?_eq_some_iff (kind : TagKind) (s token : Text) :
    (typeToken? kind s).1 = some token ↔ IsTypeToken kind token s.words := by
  unfold typeToken?
  cases kind with
  | body =>
      rw [IsTypeToken, Text.cons_prefix_words_iff]
      cases Text.nextWord? s <;> simp [Prod.ext_iff]
  | url =>
      simp only [IsTypeToken, Text.cons_prefix_words_iff, ← ParamType.isSpelling_iff]
      cases Text.nextWord? s with
      | none => simp
      | some found =>
          obtain ⟨first, rest⟩ := found
          cases hnext : Text.nextWord? rest with
          | none => simp +contextual [Prod.ext_iff, hnext]
          | some found =>
              obtain ⟨second, later⟩ := found
              simp only [hnext, Option.some.injEq, Prod.mk.injEq, List.nil_prefix, and_true]
              constructor
              · split
                · next htaken =>
                  rintro ⟨⟩
                  obtain ⟨rfl, hspelling⟩ :
                      second = requiredWord ∧ ParamType.isSpelling token = true := by
                    simpa using htaken
                  exact ⟨⟨rest, ⟨rfl, rfl⟩, later, hnext⟩, hspelling⟩
                · rintro ⟨⟩
              · rintro ⟨⟨_, ⟨rfl, rfl⟩, _, hrequired⟩, hspelling⟩
                obtain ⟨rfl, -⟩ := Prod.mk.inj (Option.some.inj (hnext.symm.trans hrequired))
                simp [hspelling]

/-- The type is cut off as the next word, or nothing is. -/
theorem typeToken?_cut (kind : TagKind) {taken : List Text} {front back content : Text}
    (h : Text.CutBehind taken front back content) :
    ∃ front, Text.CutBehind (taken ++ (typeToken? kind back).1.toList) front
      (typeToken? kind back).2 content := by
  have hstay : ∃ front, Text.CutBehind (taken ++ []) front back content := by
    rw [List.append_nil]
    exact ⟨front, h⟩
  unfold typeToken?
  split
  · exact hstay
  · next token rest hword =>
    cases kind with
    | body => exact h.next hword
    | url =>
        dsimp only
        split
        · split
          · exact h.next hword
          · exact hstay
        · exact hstay

theorem takeRequired_iff (s : Text) :
    (takeRequired s).1 = true ↔ [requiredWord] <+: s.words := by
  rw [takeRequired, Text.cons_prefix_words_iff]
  cases Text.nextWord? s with
  | none => simp
  | some found =>
      obtain ⟨first, rest⟩ := found
      by_cases h : first = requiredWord <;> simp [h]

theorem takeRequired_cut {taken : List Text} {front back content : Text}
    (h : Text.CutBehind taken front back content) :
    ∃ front, Text.CutBehind
      (taken ++ if (takeRequired back).1 then [requiredWord] else []) front
      (takeRequired back).2 content := by
  unfold takeRequired
  split
  · next word rest hword =>
    split
    · next hrequired =>
      obtain rfl := eq_of_beq hrequired
      exact h.next hword
    · exact ⟨front, by simpa using h⟩
  · exact ⟨front, by simpa using h⟩

/-- The fields that are read are a reading of the text by the grammar. -/
theorem isReading_of_ofContent? {kind : TagKind} {content : Text} {fields : TagFields}
    (h : ofContent? kind content = some fields) : fields.IsReading kind content := by
  obtain ⟨rest, hname, htypeToken, hisRequired, hdescription⟩ := ofContent?_eq_some h
  have htail : content.words.tail = rest.words := by
    rw [Text.words_of_nextWord? hname, List.tail_cons]
  -- The cut moves on from the name over the type and the mark, as far as they are there.
  obtain ⟨front₁, hcut₁⟩ := Text.CutBehind.first hname
  obtain ⟨front₂, hcut₂⟩ := typeToken?_cut kind hcut₁
  obtain ⟨front₃, hcut₃⟩ := takeRequired_cut hcut₂
  have hhead : fields.headWords = [fields.name] ++ (typeToken? kind rest).1.toList ++
      (if (takeRequired (typeToken? kind rest).2).1 then [requiredWord] else []) := by
    rw [headWords, htypeToken, hisRequired, List.append_assoc, List.singleton_append]
  rw [← hhead] at hcut₃
  refine ⟨?_, ?_, ?_, ⟨front₃, _, hcut₃, hdescription⟩, ?_⟩
  · rw [Text.words_of_nextWord? hname, List.head?_cons]
  · intro token
    rw [htail, htypeToken]
    exact typeToken?_eq_some_iff kind rest token
  · have hafter : rest.words =
        (typeToken? kind rest).1.toList ++ (typeToken? kind rest).2.words := by
      rw [← htail, hcut₂.words_eq, List.append_assoc, List.singleton_append, List.tail_cons]
    rw [hisRequired, takeRequired_iff, htail, htypeToken, hafter, List.prefix_append_right_inj]
  · rw [hdescription, Text.words_trim]
    exact hcut₃.words_eq

/-- The words of a text leave no choice of fields. -/
theorem IsReading.unique {kind : TagKind} {content : Text} {fields other : TagFields}
    (h : fields.IsReading kind content) (h' : other.IsReading kind content) : fields = other := by
  obtain ⟨name, typeToken, isRequired, description⟩ := fields
  obtain ⟨name', typeToken', isRequired', description'⟩ := other
  obtain rfl : name = name' := Option.some.inj (h.name_eq.symm.trans h'.name_eq)
  obtain rfl : typeToken = typeToken' :=
    Option.ext fun token ↦ (h.typeToken_iff token).trans (h'.typeToken_iff token).symm
  obtain rfl : isRequired = isRequired' :=
    Bool.eq_iff_iff.mpr (h.isRequired_iff.trans h'.isRequired_iff.symm)
  obtain ⟨front, back, hcut, hdescription⟩ := h.description_eq
  obtain ⟨front', back', hcut', hdescription'⟩ := h'.description_eq
  obtain rfl : back = back' := hcut.back_unique hcut'
  obtain rfl : description = description' := hdescription.trans hdescription'.symm
  rfl

/-- Nothing but blanks has no fields as a tag, and any other text has exactly the fields that its
words give it: the first word is the name, the next one the type of a body tag, and of a url tag
only if it spells a type and the mark of required parameters follows; that mark counts directly
behind these, and what is left is the description as it is written. -/
theorem ofContent?_eq_some_iff_isReading (kind : TagKind) (content : Text) :
    (ofContent? kind content = none ↔ ∀ c ∈ content, isBlank c = true) ∧
      ∀ fields : TagFields,
        ofContent? kind content = some fields ↔ fields.IsReading kind content := by
  refine ⟨ofContent?_eq_none_iff.trans Text.nonBlanks_eq_nil_iff, ?_⟩
  intro fields
  constructor
  · exact isReading_of_ofContent?
  · intro h
    cases hread : ofContent? kind content with
    | none =>
        have hwords := Text.words_eq_nil_iff.mpr (ofContent?_eq_none_iff.mp hread)
        have hname := h.name_eq
        rw [hwords] at hname
        cases hname
    | some other => rw [h.unique (isReading_of_ofContent? hread)]

end TagFields

end EndpointDocs
