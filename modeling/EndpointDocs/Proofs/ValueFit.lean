import EndpointDocs.ParamType.Cast
import EndpointDocs.Proofs.Occurrence
import EndpointDocs.Proofs.SampleShape
import EndpointDocs.Proofs.TagText

/-!
# Values fit their types

A record has a value unless the tag holds the marker.  Whether the value is cast from an inline
example or made up, it is one that the type of the record admits.
-/

namespace EndpointDocs

def IsInt64 (n : Int) : Prop :=
  -0x8000000000000000 ≤ n ∧ n < 0x8000000000000000

theorem isInt64_of_wordInteger? {s : Text} {n : Int} (h : wordInteger? s = some n) :
    IsInt64 n := by
  unfold wordInteger? at h
  simp only at h
  split at h
  · cases h
  · generalize (if (Decimal.takeSign s).1 = true then _ else _ : Int) = value at h
    split at h
    · next hrange =>
      cases h
      exact hrange
    · cases h

theorem isInt64_leadingInteger (literal : Text) : IsInt64 (leadingInteger literal) := by
  unfold leadingInteger
  cases h : wordInteger? (integerFront (Text.trimStart literal)) with
  | none => exact ⟨by decide, by decide⟩
  | some n => exact isInt64_of_wordInteger? h

/-- Where the search finds nothing, no front part is read. -/
theorem longestReading?_eq_none {s : Text} {n : Nat} (h : longestReading? s n = none) :
    ∀ k ≤ n, Decimal.read? (s.take k) = none := by
  induction n with
  | zero =>
      intro k hk
      rw [Nat.le_zero.mp hk]
      rfl
  | succ n ih =>
      rw [longestReading?] at h
      split at h
      · cases h
      · next hread =>
        intro k hk
        obtain hk | rfl := Nat.le_succ_iff.mp hk
        · exact ih h k hk
        · exact hread

/-- What the search finds is read from a front part, and no longer one is read. -/
theorem longestReading?_eq_some {s : Text} {n : Nat} {r : Decimal.Reading}
    (h : longestReading? s n = some r) :
    ∃ m, Decimal.read? (s.take m) = some r ∧
      ∀ k, m < k → k ≤ n → Decimal.read? (s.take k) = none := by
  induction n with
  | zero => cases h
  | succ n ih =>
      rw [longestReading?] at h
      split at h
      · next hread =>
        exact ⟨n + 1, hread.trans h, fun k hm hk ↦ absurd hk (not_le.mpr hm)⟩
      · next hread =>
        obtain ⟨m, hm, hlonger⟩ := ih h
        refine ⟨m, hm, fun k hlt hk ↦ ?_⟩
        obtain hk | rfl := Nat.le_succ_iff.mp hk
        · exact hlonger k hlt hk
        · exact hread

theorem isDouble_of_longestReading? {s : Text} {n : Nat} {x : Binary64}
    (h : longestReading? s n = some (.finite x)) : x.IsDouble := by
  obtain ⟨m, hread, -⟩ := longestReading?_eq_some h
  exact Decimal.isDouble_of_read? hread

theorem isDouble_leadingNumber (literal : Text) : (leadingNumber literal).IsDouble := by
  unfold leadingNumber
  simp only
  generalize hreading : longestReading? _ _ = reading
  -- A spelling of infinity or of not-a-number counts as zero, like no spelling at all.
  match reading, hreading with
  | none, _ => exact Binary64.isDouble_zero false
  | some .notFinite, _ => exact Binary64.isDouble_zero false
  | some (.finite x), hreading => exact isDouble_of_longestReading? hreading

namespace ParamType

/-- The values of a parameter with a given inline example.  The example of a collection stays as it
is written. -/
def Admits (t : ParamType) (inlined : Option Text) (v : Json) : Prop :=
  match t with
  | .string | .file => ∃ s, v = .text s
  | .integer => ∃ n, v = .int n ∧ IsInt64 n
  | .number => ∃ x, v = .float x ∧ x.IsDouble
  | .boolean => ∃ b, v = .bool b
  | .object | .array | .arrayOf _ | .objectOf _ =>
    match inlined with
    | none => t.IsSample v
    | some literal => v = .text literal

/-- Every literal is cast to a value that its type admits. -/
theorem admits_cast (t : ParamType) (literal : Text) :
    t.Admits (some literal) (t.cast literal) := by
  cases t with
  | integer => exact ⟨_, rfl, isInt64_leadingInteger literal⟩
  | number => exact ⟨_, rfl, isDouble_leadingNumber literal⟩
  | boolean => exact ⟨_, rfl⟩
  | string => exact ⟨_, rfl⟩
  | file => exact ⟨_, rfl⟩
  | _ => rfl

theorem IsSample.admits {t : ParamType} {v : Json} (h : t.IsSample v) : t.Admits none v := by
  cases h with
  | string _ => exact ⟨_, rfl⟩
  | integer hlow hhigh => exact ⟨_, rfl, by unfold IsInt64; omega⟩
  | number hdouble => exact ⟨_, rfl, hdouble⟩
  | boolean b => exact ⟨_, rfl⟩
  | file _ => exact ⟨_, rfl⟩
  | object => exact .object
  | array hfirst hsecond => exact .array hfirst hsecond
  | arrayOf hfirst hsecond => exact .arrayOf hfirst hsecond
  | objectOf hname hvalue => exact .objectOf hname hvalue

end ParamType

theorem describe_inlined (fields : TagFields) (t : ParamType) :
    (describe fields.description t).2 = fields.literal?.map t.cast := by
  rw [describe, TagFields.literal?]
  cases InlineExample.split? fields.description <;> rfl

namespace Param

theorem ofTag?_eq_some {kind : TagKind} {content : Text} {s : Random.Stream} {p : Param}
    (h : (ofTag? kind content s).1 = some p) :
    ∃ fields, TagFields.ofContent? kind (stripNoExample content) = some fields ∧
      p = (ofFields kind (suppressesExample content) fields s).1 := by
  cases hfields : TagFields.ofContent? kind (stripNoExample content) with
  | none => simp [ofTag?, hfields] at h
  | some fields =>
      refine ⟨fields, rfl, ?_⟩
      rw [ofTag?_of_ofContent? hfields] at h
      exact (Option.some.inj h).symm

theorem chooseValue_eq_some {suppressed : Bool} {inlined : Option Json} {t : ParamType}
    {s : Random.Stream} {v : Json} (h : (chooseValue suppressed inlined t s).1 = some v) :
    v = inlined.getD (t.sample s).1 := by
  cases suppressed with
  | true => cases h
  | false =>
      cases inlined with
      | none => exact (Option.some.inj h).symm
      | some value => exact (Option.some.inj h).symm

def SuggestsNumber (description : Text) : Prop :=
  ∃ hint ∈ numberHints, hint.toList <:+: description

theorem urlSampleType_cases (description : Text) :
    (SuggestsNumber description ∧ urlSampleType description = .integer) ∨
      (¬ SuggestsNumber description ∧ urlSampleType description = .string) := by
  have hany : (numberHints.any fun hint ↦ Text.mentions hint.toList description) = true ↔
      SuggestsNumber description := by
    simp only [List.any_eq_true, Text.mentions_iff, SuggestsNumber]
  rw [urlSampleType, ← hany]
  split
  · next h => exact .inl ⟨h, rfl⟩
  · next h => exact .inr ⟨h, rfl⟩

/-- How the value of a record fits the kind of its tag, its type, and the inline example that is
written in the tag.  The value for a route is a text or a made-up integer. -/
def ValueFits (kind : TagKind) (p : Param) (inlined : Option Text) (v : Json) : Prop :=
  match kind with
  | .body => ∃ t, p.type = some t ∧ t.Admits inlined v
  | .url => p.type = none ∧ ((∃ s, v = .text s) ∨ ∃ n, v = .int n) ∧
      ((∃ n, v = .int n) ↔ inlined = none ∧ SuggestsNumber p.description)

/-- The value of a body parameter fits its type, whether it is cast or made up. -/
theorem valueFits_body {fields : TagFields} {suppressed : Bool} {s : Random.Stream} {v : Json}
    (h : (ofFields .body suppressed fields s).1.value = some v) :
    ValueFits .body (ofFields .body suppressed fields s).1 fields.literal? v := by
  set t := ParamType.ofToken (fields.typeToken.getD []) with ht
  have hvalue : v = (describe fields.description t).2.getD (t.sample s).1 := chooseValue_eq_some h
  refine ⟨t, rfl, ?_⟩
  rw [hvalue, describe_inlined]
  cases fields.literal? with
  | none => exact (ParamType.isSample_sample _ s).admits
  | some literal => exact ParamType.admits_cast _ literal

theorem valueFits_url {fields : TagFields} {suppressed : Bool} {s : Random.Stream} {v : Json}
    (h : (ofFields .url suppressed fields s).1.value = some v) :
    ValueFits .url (ofFields .url suppressed fields s).1 fields.literal? v := by
  set described := (describe fields.description .string).1 with hdescribed
  have hvalue : v = (describe fields.description .string).2.getD
      ((urlSampleType described).sample s).1 := chooseValue_eq_some h
  refine ⟨rfl, ?_⟩
  change _ ∧ (_ ↔ _ ∧ SuggestsNumber described)
  rw [describe_inlined] at hvalue
  cases hliteral : fields.literal? with
  | some literal => simp [hvalue, hliteral, ParamType.cast]
  | none =>
      have hsample := (urlSampleType described).isSample_sample s
      rw [hliteral, Option.map_none, Option.getD_none] at hvalue
      rw [← hvalue] at hsample
      obtain ⟨hhint, htype⟩ | ⟨hhint, htype⟩ := urlSampleType_cases described
      · rw [htype] at hsample
        cases hsample
        simp [hhint]
      · rw [htype] at hsample
        cases hsample
        simp [hhint]

/-- The record of a tag has no value exactly when the marker stands in the tag, and a value that it
has fits. -/
theorem value_of_ofTag? {kind : TagKind} {content : Text} {s : Random.Stream} {p : Param}
    (h : (ofTag? kind content s).1 = some p) :
    (p.value = none ↔ noExample <:+: content) ∧
      ∃ fields, TagFields.ofContent? kind (stripNoExample content) = some fields ∧
        ∀ v, p.value = some v → p.ValueFits kind fields.literal? v := by
  obtain ⟨fields, hfields, rfl⟩ := ofTag?_eq_some h
  constructor
  · obtain ⟨sampled, hrecord⟩ := ofFields_eq kind (suppressesExample content) fields
    rw [hrecord, chooseValue_eq_none_iff, suppressesExample, Text.mentions_iff]
  · refine ⟨fields, hfields, ?_⟩
    intro v hv
    cases kind with
    | body => exact valueFits_body hv
    | url => exact valueFits_url hv

/-! ## A tag whose example stays as it is written -/

def idsContent : Text := "ids integer[] required The ids. Example: 1, 2".toList

/-- The inline example of a collection stays a text. -/
theorem value_of_ofTag?_idsContent :
    ∃ p, (ofTag? .body idsContent (Random.Stream.ofSeed 1)).1 = some p ∧
      (p.value = none ↔ noExample <:+: idsContent) ∧
      ∃ fields, TagFields.ofContent? .body (stripNoExample idsContent) = some fields ∧
        ∀ v, p.value = some v → p.ValueFits .body fields.literal? v := by
  have hsome : (ofTag? .body idsContent (Random.Stream.ofSeed 1)).1.isSome = true := by
    decide +kernel
  obtain ⟨p, hp⟩ := Option.isSome_iff_exists.mp hsome
  exact ⟨p, hp, value_of_ofTag? hp⟩

end Param

end EndpointDocs
