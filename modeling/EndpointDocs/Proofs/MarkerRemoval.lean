import EndpointDocs.Proofs.ExampleRespacing
import EndpointDocs.Proofs.TagText

/-!
# Tags around a marker

A marker that stands as a word in a tag is taken out with the blanks on both sides of it.  So the
tag is read as the texts around the marker are when they are joined, which says the same as those
texts with a space between them only if they do not meet within a word.
-/

namespace EndpointDocs

namespace Text

/-- Whether a blank stands where two texts meet, or nothing stands after that place. -/
def MeetAtBlank (front back : Text) : Prop :=
  front.getLast?.any isBlank = true ∨ back.head?.all isBlank = true

end Text

/-! ## Taking the marker out -/

theorem space_notMem_noExample : ' ' ∉ noExample := notMem_noExample_of_isBlank rfl

/-- A marker as a word between two texts. -/
def withMarker (pre post : Text) : Text :=
  pre ++ ' ' :: (noExample ++ ' ' :: post)

theorem suppressesExample_withMarker (pre post : Text) :
    suppressesExample (withMarker pre post) = true :=
  suppressesExample_append_marker pre ' ' (' ' :: post)

variable {pre post : Text}

theorem mentions_append_space (hpre : ¬ noExample <:+: pre) (hpost : ¬ noExample <:+: post) :
    Text.mentions noExample (pre ++ ' ' :: post) = false := by
  rw [Text.mentions_eq_false_iff,
    Text.infix_append_cons_iff noExample_ne_nil space_notMem_noExample, not_or]
  exact ⟨hpre, hpost⟩

/-- The marker goes away with the spaces beside it, and the texts around it meet. -/
theorem stripNoExample_withMarker (hpre : ¬ noExample <:+: pre) (hpost : ¬ noExample <:+: post) :
    stripNoExample (withMarker pre post) = pre ++ post := by
  rw [withMarker, stripNoExample_append_marker hpre rfl, List.drop_one, List.tail_cons,
    stripNoExample_eq_self (Text.mentions_eq_false_iff.mpr hpost)]

/-! ## The fields of longer texts -/

namespace TagFields

theorem takeRequired_of_nextWord? {s word rest : Text} (h : Text.nextWord? s = some (word, rest)) :
    (takeRequired s).1 = (word == requiredWord) := by
  rw [takeRequired, h]
  dsimp only
  cases word == requiredWord <;> rfl

/-- With more than three words the fields before the description are complete. -/
theorem ofContent?_append_sameHead (kind : TagKind) {s : Text} (h : 3 < s.words.length)
    (t u : Text) : Option.Rel SameHead (ofContent? kind (s ++ t)) (ofContent? kind (s ++ u)) := by
  obtain ⟨name, afterName, hafterName, hname⟩ := Text.exists_nextWord?_append h
  obtain ⟨token, afterToken, hafterToken, htoken⟩ := Text.exists_nextWord?_append hafterName
  obtain ⟨word, afterWord, -, hword⟩ := Text.exists_nextWord?_append hafterToken
  have hbehindToken : (takeRequired (afterToken ++ t)).1 = (takeRequired (afterToken ++ u)).1 := by
    rw [takeRequired_of_nextWord? (hword t), takeRequired_of_nextWord? (hword u)]
  have hbehindName : (takeRequired (afterName ++ t)).1 = (takeRequired (afterName ++ u)).1 := by
    rw [takeRequired_of_nextWord? (htoken t), takeRequired_of_nextWord? (htoken u)]
  unfold ofContent?
  simp only [hname]
  refine .some ?_
  cases kind with
  | body =>
      simp only [typeToken?, htoken]
      exact ⟨rfl, rfl, hbehindToken⟩
  | url =>
      simp only [typeToken?, htoken, hword]
      split
      · exact ⟨rfl, rfl, hbehindToken⟩
      · exact ⟨rfl, rfl, hbehindName⟩

variable {kind : TagKind} {fields other : TagFields}

theorem exists_ofContent?_append (kind : TagKind) (hpre : Text.nonBlanks pre ≠ []) (post : Text) :
    ∃ fields, ofContent? kind (pre ++ post) = some fields := by
  rw [← Option.ne_none_iff_exists', ne_eq, ofContent?_eq_none_iff, Text.nonBlanks_append,
    List.append_eq_nil_iff, not_and]
  exact fun h ↦ absurd h hpre

theorem respaced_of_meetAtBlank (hmeet : Text.MeetAtBlank pre post)
    (hfields : ofContent? kind (pre ++ post) = some fields)
    (hother : ofContent? kind (pre ++ ' ' :: post) = some other) : fields.Respaced other := by
  have hcontents : Text.Respaced none (pre ++ post) (pre ++ ' ' :: post) :=
    Text.respaced_append pre (by rwa [Option.or_none])
  have hrel := ofContent?_respaced kind hcontents
  rw [hfields, hother] at hrel
  cases hrel with
  | some hrespaced => exact hrespaced

/-- The fields before the description stay, if the texts meet at a blank or far enough behind. -/
theorem sameHead_of_meetAtBlank_or (h : Text.MeetAtBlank pre post ∨ 3 < pre.words.length)
    (hfields : ofContent? kind (pre ++ post) = some fields)
    (hother : ofContent? kind (pre ++ ' ' :: post) = some other) : fields.SameHead other := by
  rcases h with hmeet | hwords
  · exact (respaced_of_meetAtBlank hmeet hfields hother).toSameHead
  · have hrel := ofContent?_append_sameHead kind hwords post (' ' :: post)
    rw [hfields, hother] at hrel
    cases hrel with
    | some hhead => exact hhead

end TagFields

/-! ## The record of a tag around a marker -/

namespace Param

/-- Records that differ at most in the description and in the value. -/
structure SameHead (p q : Param) : Prop where
  name_eq : p.name = q.name
  type_eq : p.type = q.type
  isRequired_eq : p.isRequired = q.isRequired

variable {fields other : TagFields}

theorem ofFields_sameHead (h : fields.SameHead other) (kind : TagKind)
    (suppressed otherSuppressed : Bool) (s s' : Random.Stream) :
    (ofFields kind suppressed fields s).1.SameHead (ofFields kind otherSuppressed other s').1 := by
  obtain ⟨sampled, hrecord⟩ := ofFields_eq kind suppressed fields
  obtain ⟨otherSampled, hother⟩ := ofFields_eq kind otherSuppressed other
  rw [hrecord, hother, h.typeToken_eq]
  exact ⟨h.name_eq, rfl, h.isRequired_eq⟩

/-- Fields that differ in spacing give descriptions of the same words. -/
theorem words_description_ofFields (h : fields.Respaced other)
    (hfields : fields.description.EndsInWord) (hother : other.description.EndsInWord)
    (kind : TagKind) (suppressed otherSuppressed : Bool) (s s' : Random.Stream) :
    (ofFields kind suppressed fields s).1.description.words =
      (ofFields kind otherSuppressed other s').1.description.words := by
  obtain ⟨sampled, hrecord⟩ := ofFields_eq kind suppressed fields
  obtain ⟨otherSampled, hotherRecord⟩ := ofFields_eq kind otherSuppressed other
  rw [hrecord, hotherRecord, h.typeToken_eq]
  exact words_describe_respaced h.description hfields hother _

theorem exists_ofFields_suppressed (kind : TagKind) (fields : TagFields) :
    ∃ p, p.value = none ∧ ∀ s, ofFields kind true fields s = (p, s) :=
  ⟨{ (ofFields kind false fields (Random.Stream.ofSeed 0)).1 with value := none }, rfl,
    fun s ↦ ofFields_suppressed kind fields s _⟩

/-- A marker between two texts suppresses the value and leaves the fields of the joined texts. -/
theorem ofTag?_withMarker (hpre : ¬ noExample <:+: pre) (hpost : ¬ noExample <:+: post)
    (hname : Text.nonBlanks pre ≠ []) (kind : TagKind) :
    ∃ fields p, TagFields.ofContent? kind (pre ++ post) = some fields ∧ p.value = none ∧
      (∀ s, ofFields kind true fields s = (p, s)) ∧
      (∀ s, ofTag? kind (withMarker pre post) s = (some p, s)) ∧
      ∀ s, ∃ q, (ofTag? kind (pre ++ ' ' :: post) s).1 = some q ∧ q.value ≠ none ∧
        (Text.MeetAtBlank pre post ∨ 3 < pre.words.length → p.SameHead q) ∧
        (Text.MeetAtBlank pre post → p.description.words = q.description.words) := by
  obtain ⟨fields, hfields⟩ := TagFields.exists_ofContent?_append kind hname post
  obtain ⟨other, hother⟩ := TagFields.exists_ofContent?_append kind hname (' ' :: post)
  obtain ⟨p, hvalue, hp⟩ := exists_ofFields_suppressed kind fields
  have hstrip := stripNoExample_withMarker hpre hpost
  have hplain := mentions_append_space hpre hpost
  have hkept : stripNoExample (pre ++ ' ' :: post) = pre ++ ' ' :: post :=
    stripNoExample_eq_self hplain
  refine ⟨fields, p, hfields, hvalue, hp, ?_, ?_⟩
  · intro s
    rw [ofTag?_of_ofContent? (by rwa [hstrip]), suppressesExample_withMarker, hp]
  · intro s
    have hq : (ofTag? kind (pre ++ ' ' :: post) s).1 = some (ofFields kind false other s).1 := by
      rw [ofTag?_of_ofContent? (by rwa [hkept]), suppressesExample, hplain]
    refine ⟨_, hq, ?_, ?_, ?_⟩
    · obtain ⟨sampled, hrecord⟩ := ofFields_eq kind false other
      simp [hrecord, chooseValue_eq_none_iff]
    · intro h
      have hhead := TagFields.sameHead_of_meetAtBlank_or h hfields hother
      have hrecords := ofFields_sameHead hhead kind true false s s
      rwa [hp] at hrecords
    · intro hmeet
      have hrespaced := TagFields.respaced_of_meetAtBlank hmeet hfields hother
      have hwords := words_description_ofFields hrespaced
        (TagFields.ofContent?_account hfields).2.last_not_blank
        (TagFields.ofContent?_account hother).2.last_not_blank kind true false s s
      rwa [hp] at hwords

/-! ## A marker before a description, with a blank before its own and without one -/

def ageFront : Text := "age integer".toList

def agePadded : Text := "age integer ".toList

def ageBack : Text := "years old".toList

theorem ofTag?_withMarker_agePadded :
    ¬ noExample <:+: agePadded ∧ ¬ noExample <:+: ageBack ∧ Text.nonBlanks agePadded ≠ [] ∧
      Text.MeetAtBlank agePadded ageBack ∧
      ∃ fields p, TagFields.ofContent? .body (agePadded ++ ageBack) = some fields ∧
        p.value = none ∧ (∀ s, ofFields .body true fields s = (p, s)) ∧
        (∀ s, ofTag? .body (withMarker agePadded ageBack) s = (some p, s)) ∧
        ∀ s, ∃ q, (ofTag? .body (agePadded ++ ' ' :: ageBack) s).1 = some q ∧ q.value ≠ none ∧
          (Text.MeetAtBlank agePadded ageBack ∨ 3 < agePadded.words.length → p.SameHead q) ∧
          (Text.MeetAtBlank agePadded ageBack → p.description.words = q.description.words) := by
  have hpre : ¬ noExample <:+: agePadded := by decide +kernel
  have hpost : ¬ noExample <:+: ageBack := by decide +kernel
  have hname : Text.nonBlanks agePadded ≠ [] := by decide +kernel
  have hmeet : Text.MeetAtBlank agePadded ageBack := .inl (by decide +kernel)
  exact ⟨hpre, hpost, hname, hmeet, ofTag?_withMarker hpre hpost hname .body⟩

/-- Where no other blank stands beside the marker, the type takes in the word behind it. -/
theorem ofTag?_withMarker_ageFront :
    ¬ noExample <:+: ageFront ∧ ¬ noExample <:+: ageBack ∧ ageFront.words.length = 2 ∧
      Text.nonBlanks ageBack ≠ [] ∧
      ∃ p q, (ofTag? .body (withMarker ageFront ageBack) (Random.Stream.ofSeed 1)).1 = some p ∧
        (ofTag? .body (ageFront ++ ' ' :: ageBack) (Random.Stream.ofSeed 1)).1 = some q ∧
        p.type = some .string ∧ p.description = "old".toList ∧
        q.type = some .integer ∧ q.description = ageBack := by
  have hfree : ¬ noExample <:+: ageFront ∧ ¬ noExample <:+: ageBack := by decide +kernel
  have hwords : ageFront.words.length = 2 ∧ Text.nonBlanks ageBack ≠ [] := by decide +kernel
  have hmarked : (ofTag? .body (withMarker ageFront ageBack) (Random.Stream.ofSeed 1)).1.map
      (fun p ↦ (p.type, p.description)) = some (some .string, "old".toList) := by decide +kernel
  have hplain : (ofTag? .body (ageFront ++ ' ' :: ageBack) (Random.Stream.ofSeed 1)).1.map
      (fun q ↦ (q.type, q.description)) = some (some .integer, ageBack) := by decide +kernel
  obtain ⟨p, hp, htypes⟩ := Option.map_eq_some_iff.mp hmarked
  obtain ⟨q, hq, hothers⟩ := Option.map_eq_some_iff.mp hplain
  obtain ⟨htype, hdescription⟩ := Prod.mk.inj htypes
  obtain ⟨hotherType, hotherDescription⟩ := Prod.mk.inj hothers
  exact ⟨hfree.1, hfree.2, hwords.1, hwords.2, p, q, hp, hq, htype, hdescription, hotherType,
    hotherDescription⟩

end Param

end EndpointDocs
