import EndpointDocs.Proofs.CommentOutline
import EndpointDocs.Proofs.ExampleMarker
import EndpointDocs.Proofs.TagReading

/-!
# The text of a tag in its record

A tag of a comment is one line, so nothing of it is passed over on the way to the record: what is
written in it is the name, the type, the mark of a required parameter, the description and the
literal of an inline example after its marker, in this order.
-/

namespace EndpointDocs

namespace TagFields

def requiredMark (isRequired : Bool) : Text :=
  if isRequired then requiredWord else []

/-- The type and what follows it make up the text, but for blanks. -/
theorem typeToken?_account (kind : TagKind) (s : Text) :
    Text.nonBlanks s =
        (typeToken? kind s).1.getD [] ++ Text.nonBlanks (typeToken? kind s).2 ∧
      (typeToken? kind s).2 <:+ s := by
  unfold typeToken?
  split
  · exact ⟨rfl, List.suffix_rfl⟩
  · next token rest hword =>
    have htaken : Text.nonBlanks s = token ++ Text.nonBlanks rest ∧ rest <:+ s :=
      ⟨Text.nonBlanks_of_nextWord? hword, Text.isSuffix_of_nextWord? hword⟩
    cases kind with
    | body => exact htaken
    | url =>
        dsimp only
        split
        · split
          · exact htaken
          · exact ⟨rfl, List.suffix_rfl⟩
        · exact ⟨rfl, List.suffix_rfl⟩

theorem takeRequired_account (s : Text) :
    Text.nonBlanks s =
        requiredMark (takeRequired s).1 ++ Text.nonBlanks (takeRequired s).2 ∧
      (takeRequired s).2 <:+ s := by
  unfold takeRequired
  split
  · next word rest hword =>
    split
    · next hrequired =>
      obtain rfl := eq_of_beq hrequired
      exact ⟨Text.nonBlanks_of_nextWord? hword, Text.isSuffix_of_nextWord? hword⟩
    · exact ⟨rfl, List.suffix_rfl⟩
  · exact ⟨rfl, List.suffix_rfl⟩

theorem ofContent?_eq_some {kind : TagKind} {content : Text} {fields : TagFields}
    (h : ofContent? kind content = some fields) :
    ∃ rest, Text.nextWord? content = some (fields.name, rest) ∧
      fields.typeToken = (typeToken? kind rest).1 ∧
      fields.isRequired = (takeRequired (typeToken? kind rest).2).1 ∧
      fields.description = Text.trim (takeRequired (typeToken? kind rest).2).2 := by
  unfold ofContent? at h
  cases hword : Text.nextWord? content with
  | none => simp [hword] at h
  | some found =>
      rw [hword] at h
      cases h
      exact ⟨found.2, rfl, rfl, rfl, rfl⟩

/-- The fields make up the content of a tag, but for blanks, in the order in which they stand there.
-/
theorem ofContent?_account {kind : TagKind} {content : Text} {fields : TagFields}
    (h : ofContent? kind content = some fields) :
    Text.nonBlanks content =
        fields.name ++ fields.typeToken.getD [] ++ requiredMark fields.isRequired ++
          Text.nonBlanks fields.description ∧
      Text.IsPiece fields.description content := by
  obtain ⟨rest, hname, htypeToken, hisRequired, hdescription⟩ := ofContent?_eq_some h
  obtain ⟨htype, htypeSuffix⟩ := typeToken?_account kind rest
  obtain ⟨hrequired, hrequiredSuffix⟩ := takeRequired_account (typeToken? kind rest).2
  rw [htypeToken, hisRequired, hdescription]
  -- Each part is read from what the one before it leaves, so the account is a chain.
  constructor
  · rw [Text.nonBlanks_of_nextWord? hname, htype, hrequired, Text.nonBlanks_trim]
    simp only [List.append_assoc]
  · have hsuffix := (hrequiredSuffix.trans htypeSuffix).trans (Text.isSuffix_of_nextWord? hname)
    exact (Text.isPiece_trim _).of_isInfix hsuffix.isInfix

theorem ofContent?_eq_none_iff {kind : TagKind} {content : Text} :
    ofContent? kind content = none ↔ Text.nonBlanks content = [] := by
  rw [← Text.nextWord?_eq_none_iff, ofContent?]
  cases Text.nextWord? content <;> simp

/-- The literal of the inline example in a description. -/
def literal? (fields : TagFields) : Option Text :=
  (InlineExample.split? fields.description).map Prod.snd

end TagFields

namespace InlineExample

/-- What is written for an inline example. -/
def written : Option Text → Text
  | none => []
  | some literal => marker ++ Text.nonBlanks literal

end InlineExample

/-- A description of one line divides its text between what it says and its inline example. -/
theorem describe_account {raw : Text} (hline : '\n' ∉ raw) (t : ParamType) :
    Text.nonBlanks raw = Text.nonBlanks (describe raw t).1 ++
        InlineExample.written ((InlineExample.split? raw).map Prod.snd) ∧
      Text.IsPiece (describe raw t).1 raw ∧
      ∀ literal, (InlineExample.split? raw).map Prod.snd = some literal →
        Text.IsPiece literal raw ∧ (describe raw t).2 = some (t.cast literal) := by
  unfold describe
  cases hsplit : InlineExample.split? raw with
  | none =>
      refine ⟨?_, Text.isPiece_trim raw, ?_⟩
      · simp [Text.nonBlanks_trim, InlineExample.written]
      · intro literal h
        cases h
  | some found =>
      obtain ⟨description, literal⟩ := found
      obtain ⟨front, after, hraw, rfl, rfl⟩ := InlineExample.eq_append_of_split? hline hsplit
      have hmarker : Text.nonBlanks InlineExample.marker = InlineExample.marker := by decide
      refine ⟨?_, ?_, ?_⟩
      · rw [hraw]
        simp [Text.nonBlanks_trim, InlineExample.written, hmarker]
      · exact (Text.isPiece_trim front).of_isInfix ⟨[], InlineExample.marker ++ after, hraw.symm⟩
      · intro literal h
        cases h
        refine ⟨(Text.isPiece_trim after).of_isInfix ?_, rfl⟩
        exact ⟨front ++ InlineExample.marker, [], by simp [hraw]⟩

namespace Param

/-- How a record accounts for the content of its tag. -/
structure Accounts (p : Param) (kind : TagKind) (content : Text) (fields : TagFields) : Prop where
  /-- What is written in the content, part by part. -/
  nonBlanks_eq : Text.nonBlanks content =
    p.name ++ fields.typeToken.getD [] ++ TagFields.requiredMark p.isRequired ++
      Text.nonBlanks p.description ++ InlineExample.written fields.literal?
  type_eq : p.type = typeOf? kind fields.typeToken
  description_isPiece : Text.IsPiece p.description content
  literal_isPiece : ∀ literal, fields.literal? = some literal → Text.IsPiece literal content
  value_eq : ∀ literal, fields.literal? = some literal →
    p.value = some ((p.type.getD .string).cast literal)

/-- A record without a marker accounts for all of its tag. -/
theorem ofFields_accounts {kind : TagKind} {content : Text} {fields : TagFields}
    (hline : '\n' ∉ content) (hfields : TagFields.ofContent? kind content = some fields)
    (s : Random.Stream) : (ofFields kind false fields s).1.Accounts kind content fields := by
  obtain ⟨hcontent, hpiece⟩ := TagFields.ofContent?_account hfields
  have hdescribed : '\n' ∉ fields.description := fun hmem ↦ hline (hpiece.isInfix.subset hmem)
  obtain ⟨hsplit, hdescription, hliteral⟩ := describe_account hdescribed
    ((typeOf? kind fields.typeToken).getD .string)
  obtain ⟨sampled, hrecord⟩ := ofFields_eq kind false fields
  rw [hrecord]
  refine ⟨?_, rfl, hdescription.of_isInfix hpiece.isInfix, ?_, ?_⟩
  · rw [hcontent, hsplit, ← List.append_assoc]
    rfl
  · intro literal h
    exact (hliteral literal h).1.of_isInfix hpiece.isInfix
  · intro literal h
    simp only [(hliteral literal h).2, chooseValue]
    rfl

/-- Every tag of a comment that says something and holds no marker has a record, and what is written
in the tag is what the parts of the record are made of, in order and without loss. -/
theorem exists_accounts_of_mem_tagsOf {comment : Text} {kind : TagKind} {tag : Tag}
    (htag : tag ∈ (DocBlock.ofComment comment).tagsOf kind)
    (hmarker : Text.mentions noExample tag.content = false)
    (hblank : Text.nonBlanks tag.content ≠ []) (s : Random.Stream) :
    ∃ fields p, TagFields.ofContent? kind tag.content = some fields ∧
      (ofTag? kind tag.content s).1 = some p ∧ p.Accounts kind tag.content fields := by
  have hline : '\n' ∉ tag.content :=
    DocBlock.newline_not_mem_content (List.mem_of_mem_filter htag)
  have hstrip : stripNoExample tag.content = tag.content := stripNoExample_eq_self hmarker
  cases hfields : TagFields.ofContent? kind tag.content with
  | none => exact absurd (TagFields.ofContent?_eq_none_iff.mp hfields) hblank
  | some fields =>
      have hread : tag.fields? kind = some fields := by rw [Tag.fields?, hstrip, hfields]
      have hsuppressed : suppressesExample tag.content = false := hmarker
      refine ⟨fields, _, rfl, ?_, ofFields_accounts hline hfields s⟩
      rw [ofTag?_of_fields?_eq_some hread, hsuppressed]

/-! ## A tag of two lines with an inline example -/

def ageComment : Text :=
  "/**\n * Sign up.\n * @bodyParam age integer required The  age\n *   in years. Example: 42\n */".toList

def ageTag : Tag :=
  ⟨"bodyParam".toList, "age integer required The  age in years. Example: 42".toList⟩

/-- A tag of two lines, with a type, the word for a required parameter and an inline example. -/
theorem exists_accounts_of_mem_tagsOf_ageTag :
    ageTag ∈ (DocBlock.ofComment ageComment).tagsOf .body ∧
      Text.mentions noExample ageTag.content = false ∧ Text.nonBlanks ageTag.content ≠ [] ∧
      ∃ fields p, TagFields.ofContent? .body ageTag.content = some fields ∧
        (ofTag? .body ageTag.content (Random.Stream.ofSeed 1)).1 = some p ∧
        p.Accounts .body ageTag.content fields := by
  have htag : ageTag ∈ (DocBlock.ofComment ageComment).tagsOf .body := by decide +kernel
  have hmarker : Text.mentions noExample ageTag.content = false := by decide +kernel
  have hblank : Text.nonBlanks ageTag.content ≠ [] := by decide +kernel
  exact ⟨htag, hmarker, hblank, exists_accounts_of_mem_tagsOf htag hmarker hblank _⟩

end Param

end EndpointDocs
