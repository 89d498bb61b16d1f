import EndpointDocs.Param.OfTag
import EndpointDocs.Proofs.MarkerStripping
import EndpointDocs.Proofs.Table
import Mathlib.Data.List.Induction

/-!
# Reading the tags of a block

A tag of a kind gives a record exactly when something besides markers is written in it, and a block
without such a tag leaves the stream of samples where it was.  Two readings of one tag differ at
most in a sampled value.
-/

namespace EndpointDocs

namespace Tag

/-- The fields of a tag that is read as one of a kind, without its markers. -/
def fields? (kind : TagKind) (tag : Tag) : Option TagFields :=
  TagFields.ofContent? kind (stripNoExample tag.content)

def paramName? (kind : TagKind) (tag : Tag) : Option Text :=
  (tag.fields? kind).map (·.name)

def hasInlineExample (kind : TagKind) (tag : Tag) : Bool :=
  (tag.fields? kind).any fun fields ↦ (InlineExample.split? fields.description).isSome

/-- The last of some tags that documents a parameter. -/
def lastNaming? (kind : TagKind) (name : Text) (tags : List Tag) : Option Tag :=
  tags.reverse.find? fun tag ↦ tag.paramName? kind == some name

/-- A further tag is the last for its name. -/
theorem lastNaming?_append_singleton (kind : TagKind) (name : Text) (tags : List Tag) (tag : Tag) :
    lastNaming? kind name (tags ++ [tag]) =
      if tag.paramName? kind = some name then some tag else lastNaming? kind name tags := by
  by_cases h : tag.paramName? kind = some name <;> simp [lastNaming?, h]

end Tag

/-- Whether a tag of the block documents a parameter of a kind. -/
def DocBlock.documents (block : DocBlock) (kind : TagKind) : Bool :=
  (block.tagsOf kind).any fun tag ↦ (tag.paramName? kind).isSome

namespace Param

/-- Records of one tag that may differ in a sampled value. -/
structure AgreeUpToSample (kind : TagKind) (tag : Tag) (p q : Param) : Prop where
  left_of_tag : ∃ s, (ofTag? kind tag.content s).1 = some p
  right_of_tag : ∃ s, (ofTag? kind tag.content s).1 = some q
  name_eq : p.name = q.name
  type_eq : p.type = q.type
  isRequired_eq : p.isRequired = q.isRequired
  description_eq : p.description = q.description
  value_eq_none_iff : p.value = none ↔ q.value = none
  value_eq_of_inline : tag.hasInlineExample kind = true → p.value = q.value

theorem chooseValue_eq_none_iff (suppressed : Bool) (inlined : Option Json) (t : ParamType)
    (s : Random.Stream) :
    (chooseValue suppressed inlined t s).1 = none ↔ suppressed = true := by
  cases suppressed <;> cases inlined <;> simp [chooseValue]

theorem chooseValue_eq_of_inline (suppressed : Bool) {inlined : Option Json}
    (h : inlined.isSome = true) (t : ParamType) (s₁ s₂ : Random.Stream) :
    (chooseValue suppressed inlined t s₁).1 = (chooseValue suppressed inlined t s₂).1 := by
  obtain ⟨value, rfl⟩ := Option.isSome_iff_exists.mp h
  cases suppressed <;> simp [chooseValue]

theorem describe_inline_isSome (raw : Text) (t : ParamType) :
    (describe raw t).2.isSome = (InlineExample.split? raw).isSome := by
  unfold describe
  cases InlineExample.split? raw <;> rfl

/-- The type in the record of a tag: the token of a body tag is read as one, and a url tag gives
none. -/
def typeOf? (kind : TagKind) (token : Option Text) : Option ParamType :=
  match kind with
  | .body => some (ParamType.ofToken (token.getD []))
  | .url => none

/-- The record of some fields, for both kinds: the stream has a part only in the choice of the
value. -/
theorem ofFields_eq (kind : TagKind) (suppressed : Bool) (fields : TagFields) :
    ∃ sampled, ∀ s,
      let type := typeOf? kind fields.typeToken
      let described := describe fields.description (type.getD .string)
      (ofFields kind suppressed fields s).1 = ⟨fields.name, type, fields.isRequired, described.1,
        (chooseValue suppressed described.2 sampled s).1⟩ := by
  cases kind with
  | body => exact ⟨_, fun s ↦ rfl⟩
  | url => exact ⟨_, fun s ↦ rfl⟩

@[simp] theorem ofFields_name (kind : TagKind) (suppressed : Bool) (fields : TagFields)
    (s : Random.Stream) : (ofFields kind suppressed fields s).1.name = fields.name := by
  obtain ⟨sampled, hrecord⟩ := ofFields_eq kind suppressed fields
  rw [hrecord]

/-- Where the value is suppressed, the other fields are as they are without that, and the stream
stays. -/
theorem ofFields_suppressed (kind : TagKind) (fields : TagFields) (s s' : Random.Stream) :
    ofFields kind true fields s = ({ (ofFields kind false fields s').1 with value := none }, s) := by
  cases kind <;> rfl

theorem ofTag?_of_ofContent?_eq_none {kind : TagKind} {content : Text}
    (h : TagFields.ofContent? kind (stripNoExample content) = none) (s : Random.Stream) :
    ofTag? kind content s = (none, s) := by
  simp [ofTag?, h]

theorem ofTag?_of_fields?_eq_none {kind : TagKind} {tag : Tag} (h : tag.fields? kind = none)
    (s : Random.Stream) : ofTag? kind tag.content s = (none, s) :=
  ofTag?_of_ofContent?_eq_none h s

/-- A tag with fields gives a record, which is suppressed if the tag holds a marker. -/
theorem ofTag?_of_ofContent? {kind : TagKind} {content : Text} {fields : TagFields}
    (h : TagFields.ofContent? kind (stripNoExample content) = some fields) (s : Random.Stream) :
    ofTag? kind content s =
      let read := ofFields kind (suppressesExample content) fields s
      (some read.1, read.2) := by
  simp [ofTag?, h]

theorem ofTag?_of_fields?_eq_some {kind : TagKind} {tag : Tag} {fields : TagFields}
    (h : tag.fields? kind = some fields) (s : Random.Stream) :
    ofTag? kind tag.content s =
      let read := ofFields kind (suppressesExample tag.content) fields s
      (some read.1, read.2) :=
  ofTag?_of_ofContent? h s

/-- No field but the value depends on the stream, and the value does so only for a sample. -/
theorem ofFields_agree {kind : TagKind} {tag : Tag} {fields : TagFields}
    (hfields : tag.fields? kind = some fields) (s₁ s₂ : Random.Stream) :
    AgreeUpToSample kind tag (ofFields kind (suppressesExample tag.content) fields s₁).1
      (ofFields kind (suppressesExample tag.content) fields s₂).1 := by
  have hread (s : Random.Stream) : ∃ s', (ofTag? kind tag.content s').1 =
      some (ofFields kind (suppressesExample tag.content) fields s).1 :=
    ⟨s, by rw [ofTag?_of_fields?_eq_some hfields]⟩
  obtain ⟨sampled, hrecord⟩ := ofFields_eq kind (suppressesExample tag.content) fields
  have hleft := hread s₁
  have hright := hread s₂
  rw [hrecord] at hleft hright ⊢
  rw [hrecord s₂]
  refine ⟨hleft, hright, rfl, rfl, rfl, rfl, ?_, ?_⟩
  · simp only [chooseValue_eq_none_iff]
  · intro h
    apply chooseValue_eq_of_inline
    rw [describe_inline_isSome]
    simpa [Tag.hasInlineExample, hfields] using h

end Param

namespace BlockParams

theorem addTag_of_fields?_eq_none {kind : TagKind} {tag : Tag} (h : tag.fields? kind = none)
    (read : BlockParams) :
    (read.addTag kind tag).params = read.params ∧ (read.addTag kind tag).stream = read.stream := by
  simp [addTag, Param.ofTag?_of_fields?_eq_none h]

theorem addTag_of_fields?_eq_some {kind : TagKind} {tag : Tag} {fields : TagFields}
    (h : tag.fields? kind = some fields) (read : BlockParams) :
    (read.addTag kind tag).params =
      read.params.put fields.name
        (Param.ofFields kind (suppressesExample tag.content) fields read.stream).1 := by
  simp [addTag, Param.ofTag?_of_fields?_eq_some h]

/-- What some tags of a kind say, read from an empty map. -/
def ofTags (kind : TagKind) (tags : List Tag) (s : Random.Stream) : BlockParams :=
  tags.foldl (addTag kind) ⟨[], s, []⟩

theorem ofTags_append_singleton (kind : TagKind) (tags : List Tag) (tag : Tag)
    (s : Random.Stream) : ofTags kind (tags ++ [tag]) s = (ofTags kind tags s).addTag kind tag := by
  simp [ofTags]

/-- A key of the map is there for a tag that documents it. -/
theorem mem_keys_ofTags_iff (kind : TagKind) (tags : List Tag) (s : Random.Stream) (name : Text) :
    name ∈ (ofTags kind tags s).params.keys ↔ ∃ tag ∈ tags, tag.paramName? kind = some name := by
  induction tags using List.reverseRecOn with
  | nil => simp [ofTags]
  | append_singleton tags tag ih =>
      rw [ofTags_append_singleton]
      cases hfields : tag.fields? kind with
      | none =>
          rw [(addTag_of_fields?_eq_none hfields _).1, ih]
          simp [Tag.paramName?, hfields]
      | some fields =>
          rw [addTag_of_fields?_eq_some hfields, Table.mem_keys_put, ih]
          simp [Tag.paramName?, hfields, or_and_right, exists_or, eq_comm]

/-- Where no tag documents a parameter, nothing is read and nothing is drawn. -/
theorem ofTags_of_forall_none {kind : TagKind} {tags : List Tag}
    (h : ∀ tag ∈ tags, tag.paramName? kind = none) (s : Random.Stream) :
    (ofTags kind tags s).params = [] ∧ (ofTags kind tags s).stream = s := by
  induction tags using List.reverseRecOn with
  | nil => exact ⟨rfl, rfl⟩
  | append_singleton tags tag ih =>
      have hfields : tag.fields? kind = none := by
        simpa [Tag.paramName?] using h tag (by simp)
      obtain ⟨hparams, hstream⟩ := ih fun other hother ↦ h other (by simp [hother])
      rw [ofTags_append_singleton]
      obtain ⟨hsame, hstay⟩ := addTag_of_fields?_eq_none hfields (ofTags kind tags s)
      exact ⟨hsame.trans hparams, hstay.trans hstream⟩

end BlockParams

namespace DocBlock

theorem exists_paramName?_of_documents {block : DocBlock} {kind : TagKind}
    (h : block.documents kind = true) :
    ∃ tag ∈ block.tagsOf kind, ∃ name, tag.paramName? kind = some name := by
  obtain ⟨tag, htag, hname⟩ := List.any_eq_true.mp h
  exact ⟨tag, htag, Option.isSome_iff_exists.mp hname⟩

/-- A block that documents nothing of a kind gives no record and draws no sample. -/
theorem readParams_of_not_documents {block : DocBlock} {kind : TagKind}
    (h : block.documents kind = false) (s : Random.Stream) :
    (block.readParams kind s).params = [] ∧ (block.readParams kind s).stream = s := by
  apply BlockParams.ofTags_of_forall_none
  intro tag htag
  simpa using List.any_eq_false.mp h tag htag

/-- A block documents a kind exactly if a parameter is read from it. -/
theorem readParams_isEmpty (block : DocBlock) (kind : TagKind) (s : Random.Stream) :
    (block.readParams kind s).params.isEmpty = !block.documents kind := by
  cases h : block.documents kind with
  | false => simp [(readParams_of_not_documents h s).1]
  | true =>
      obtain ⟨tag, htag, name, hname⟩ := exists_paramName?_of_documents h
      have hmem : name ∈ (block.readParams kind s).params.keys :=
        (BlockParams.mem_keys_ofTags_iff kind _ s name).mpr ⟨tag, htag, hname⟩
      cases hparams : (block.readParams kind s).params with
      | nil => simp [hparams] at hmem
      | cons entry params => rfl

end DocBlock

/-- Maps read from the same tags that may differ in sampled values: the same names in the same
order, and under each name records of the last tag with that name. -/
structure ParamMap.AgreeUpToSamples (kind : TagKind) (tags : List Tag) (m n : ParamMap) :
    Prop where
  keys_eq : m.keys = n.keys
  nodup_keys : m.keys.Nodup
  records_agree : ∀ name p q, m.get? name = some p → n.get? name = some q →
    ∃ tag, Tag.lastNaming? kind name tags = some tag ∧ p.AgreeUpToSample kind tag q

namespace BlockParams

/-- Two readings of the same tags agree up to samples, wherever their streams are. -/
theorem ofTags_agree (kind : TagKind) (tags : List Tag) (s₁ s₂ : Random.Stream) :
    ParamMap.AgreeUpToSamples kind tags (ofTags kind tags s₁).params
      (ofTags kind tags s₂).params := by
  induction tags using List.reverseRecOn with
  | nil => exact ⟨rfl, List.nodup_nil, fun name p q hp ↦ by simp [ofTags] at hp⟩
  | append_singleton tags tag ih =>
      simp only [ofTags_append_singleton]
      cases hfields : tag.fields? kind with
      | none =>
          rw [(addTag_of_fields?_eq_none hfields _).1, (addTag_of_fields?_eq_none hfields _).1]
          refine ⟨ih.keys_eq, ih.nodup_keys, ?_⟩
          intro name p q hp hq
          rw [Tag.lastNaming?_append_singleton, if_neg (by simp [Tag.paramName?, hfields])]
          exact ih.records_agree name p q hp hq
      | some fields =>
          have hname : tag.paramName? kind = some fields.name := by
            simp [Tag.paramName?, hfields]
          rw [addTag_of_fields?_eq_some hfields, addTag_of_fields?_eq_some hfields]
          refine ⟨?_, Table.nodup_keys_put ih.nodup_keys _ _, ?_⟩
          · rw [Table.keys_put, Table.keys_put, ih.keys_eq]
          · intro name p q hp hq
            rw [Tag.lastNaming?_append_singleton, hname]
            by_cases heq : fields.name = name
            · subst heq
              rw [Table.get?_put_self, Option.some.injEq] at hp hq
              subst hp hq
              exact ⟨tag, if_pos rfl, Param.ofFields_agree hfields _ _⟩
            · rw [Table.get?_put_of_ne _ _ (Ne.symm heq)] at hp hq
              rw [if_neg (by simpa using heq)]
              exact ih.records_agree name p q hp hq

end BlockParams

end EndpointDocs
