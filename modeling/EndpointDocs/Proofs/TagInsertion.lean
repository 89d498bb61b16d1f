import EndpointDocs.Proofs.TagSequence
import EndpointDocs.Proofs.TagText

/-!
# Tags put in between

Only a sample moves the stream on.  So tags that need none can be put anywhere among the tags of a
block: if they document parameters of their own, the parameters of the block keep their records,
with the samples in them, and their order.
-/

namespace EndpointDocs

namespace Tag

/-- The second list is the first with tags put in between, each of which satisfies `p`. -/
inductive Inserted (p : Tag → Prop) : List Tag → List Tag → Prop
  | nil : Inserted p [] []
  | keep (tag : Tag) {tags wider : List Tag} (h : Inserted p tags wider) :
      Inserted p (tag :: tags) (tag :: wider)
  | insert {tag : Tag} (htag : p tag) {tags wider : List Tag} (h : Inserted p tags wider) :
      Inserted p tags (tag :: wider)

theorem Inserted.filter {p p' : Tag → Prop} {choose : Tag → Bool}
    (himp : ∀ tag, p tag → choose tag = true → p' tag) {tags wider : List Tag}
    (h : Inserted p tags wider) : Inserted p' (tags.filter choose) (wider.filter choose) := by
  induction h with
  | nil => exact .nil
  | keep tag _ ih =>
      by_cases hchoose : choose tag = true
      · rw [List.filter_cons_of_pos hchoose, List.filter_cons_of_pos hchoose]
        exact .keep tag ih
      · rwa [List.filter_cons_of_neg hchoose, List.filter_cons_of_neg hchoose]
  | @insert tag htag _ _ _ ih =>
      by_cases hchoose : choose tag = true
      · rw [List.filter_cons_of_pos hchoose]
        exact .insert (himp tag htag hchoose) ih
      · rwa [List.filter_cons_of_neg hchoose]

/-- The tags for which no sample is drawn when the tags of a kind are read. -/
inductive DrawsNothing (kind : TagKind) (tag : Tag) : Prop
  | otherName (h : tag.name ≠ kind.tagName)
  | blank (h : Text.nonBlanks (stripNoExample tag.content) = [])
  | suppressed (h : suppressesExample tag.content = true)
  | inlined (h : tag.hasInlineExample kind = true)

/-- A tag that draws nothing and documents no parameter that a block documents. -/
structure IsAside (kind : TagKind) (block : DocBlock) (tag : Tag) : Prop where
  drawsNothing : tag.DrawsNothing kind
  name_fresh : tag.name = kind.tagName → tag.paramName? kind ≠ none →
    ∀ other ∈ block.tagsOf kind, other.paramName? kind ≠ tag.paramName? kind

end Tag

namespace Param

theorem chooseValue_stream {suppressed : Bool} {inlined : Option Json}
    (h : suppressed = true ∨ inlined.isSome = true) (t : ParamType) (s : Random.Stream) :
    (chooseValue suppressed inlined t s).2 = s := by
  rcases h with rfl | h
  · rfl
  · obtain ⟨value, rfl⟩ := Option.isSome_iff_exists.mp h
    cases suppressed <;> rfl

theorem ofFields_stream {suppressed : Bool} {fields : TagFields}
    (h : suppressed = true ∨ (InlineExample.split? fields.description).isSome = true)
    (kind : TagKind) (s : Random.Stream) : (ofFields kind suppressed fields s).2 = s := by
  have hinlined (t : ParamType) :
      suppressed = true ∨ (describe fields.description t).2.isSome = true := by
    rwa [describe_inline_isSome]
  cases kind with
  | body => exact chooseValue_stream (hinlined _) _ s
  | url => exact chooseValue_stream (hinlined _) _ s

/-- A tag that draws nothing leaves the stream where it is. -/
theorem ofTag?_stream_of_drawsNothing {kind : TagKind} {tag : Tag} (hname : tag.name = kind.tagName)
    (h : tag.DrawsNothing kind) (s : Random.Stream) : (ofTag? kind tag.content s).2 = s := by
  cases hfields : tag.fields? kind with
  | none => rw [ofTag?_of_fields?_eq_none hfields]
  | some fields =>
      rw [ofTag?_of_fields?_eq_some hfields]
      apply ofFields_stream
      cases h with
      | otherName h => exact absurd hname h
      | blank h =>
          have hnone : tag.fields? kind = none := TagFields.ofContent?_eq_none_iff.mpr h
          rw [hnone] at hfields
          cases hfields
      | suppressed h => exact .inl h
      | inlined h => exact .inr (by simpa [Tag.hasInlineExample, hfields] using h)

end Param

namespace Tag

variable {kind : TagKind} {keep : Text → Bool} {tags wider : List Tag}

/-- A tag that leaves the stream where it is and whose record is not to be kept. -/
structure IsLeftOut (kind : TagKind) (keep : Text → Bool) (tag : Tag) : Prop where
  stream_eq : ∀ s, (Param.ofTag? kind tag.content s).2 = s
  keep_eq_false : ∀ name, tag.paramName? kind = some name → keep name = false

theorem filter_toList_ofTag? {tag : Tag} {kept : Bool}
    (h : ∀ name, tag.paramName? kind = some name → keep name = kept) (s : Random.Stream) :
    (Param.ofTag? kind tag.content s).1.toList.filter (fun p ↦ keep p.name) =
      if kept then (Param.ofTag? kind tag.content s).1.toList else [] := by
  have hname := map_name_ofTag? kind tag s
  cases hread : (Param.ofTag? kind tag.content s).1 with
  | none => cases kept <;> rfl
  | some p =>
      rw [hread] at hname
      cases kept <;> simp [h p.name hname.symm]

/-- The records of two lists of tags are the same up to those that the inserted tags give. -/
theorem Inserted.records_filter (h : Inserted (IsLeftOut kind keep) tags wider)
    (htags : ∀ tag ∈ tags, ∀ name, tag.paramName? kind = some name → keep name = true)
    (s : Random.Stream) :
    (records kind wider s).filter (fun p ↦ keep p.name) = records kind tags s ∧
      streamAfter kind wider s = streamAfter kind tags s := by
  induction h generalizing s with
  | nil => exact ⟨rfl, rfl⟩
  | keep tag _ ih =>
      -- Both lists read the tag with the same stream, and go on with the same stream.
      obtain ⟨hrecords, hstream⟩ :=
        ih (fun other hother ↦ htags other (List.mem_cons_of_mem _ hother))
          (Param.ofTag? kind tag.content s).2
      rw [records_cons, records_cons, List.filter_append, hrecords,
        filter_toList_ofTag? (htags tag List.mem_cons_self), if_pos rfl]
      exact ⟨rfl, hstream⟩
  | @insert tag htag _ _ _ ih =>
      obtain ⟨hrecords, hstream⟩ := ih htags s
      rw [records_cons, List.filter_append, filter_toList_ofTag? htag.keep_eq_false,
        streamAfter_cons, htag.stream_eq, hrecords]
      exact ⟨rfl, hstream⟩

/-- Of the records that are to be kept, none changes when tags that draw nothing are put in between.
-/
theorem Inserted.ofTags_filter (h : Inserted (IsLeftOut kind keep) tags wider)
    (htags : ∀ tag ∈ tags, ∀ name, tag.paramName? kind = some name → keep name = true)
    (s : Random.Stream) :
    (BlockParams.ofTags kind wider s).params.filter (fun entry ↦ keep entry.1) =
        (BlockParams.ofTags kind tags s).params ∧
      (BlockParams.ofTags kind wider s).stream = (BlockParams.ofTags kind tags s).stream := by
  obtain ⟨hrecords, hstream⟩ := h.records_filter htags s
  rw [BlockParams.ofTags_stream, BlockParams.ofTags_stream, hstream, BlockParams.ofTags_params,
    BlockParams.ofTags_params, Table.filter_ofEntries, List.filter_map, ← hrecords]
  exact ⟨rfl, rfl⟩

end Tag

namespace DocBlock

variable {block wider : DocBlock} {kind : TagKind}

/-- With tags put in that draw nothing and document other parameters, the map of a block is the part
of the new map under the names it had, and the stream goes on from the same place. -/
theorem readParams_of_inserted
    (h : Tag.Inserted (Tag.IsAside kind block) block.tags wider.tags) (s : Random.Stream) :
    let params := (block.readParams kind s).params
    (wider.readParams kind s).params.filter (fun entry ↦ entry.1 ∈ params.keys) = params ∧
      (wider.readParams kind s).stream = (block.readParams kind s).stream := by
  intro params
  have hkeys (name : Text) : name ∈ params.keys ↔
      ∃ tag ∈ block.tagsOf kind, tag.paramName? kind = some name :=
    BlockParams.mem_keys_ofTags_iff kind (block.tagsOf kind) s name
  have hinserted : Tag.Inserted (Tag.IsLeftOut kind fun name ↦ name ∈ params.keys)
      (block.tagsOf kind) (wider.tagsOf kind) := by
    refine h.filter fun tag haside hchosen ↦ ?_
    have hname : tag.name = kind.tagName := eq_of_beq hchosen
    refine ⟨Param.ofTag?_stream_of_drawsNothing hname haside.drawsNothing, ?_⟩
    intro name hdocumented
    refine decide_eq_false fun hmem ↦ ?_
    obtain ⟨other, hother, hsame⟩ := (hkeys name).mp hmem
    exact haside.name_fresh hname (by simp [hdocumented]) other hother
      (hsame.trans hdocumented.symm)
  refine hinserted.ofTags_filter ?_ s
  intro tag htag name hdocumented
  exact decide_eq_true ((hkeys name).mpr ⟨tag, htag, hdocumented⟩)

/-! ## One tag of each sort between tags that draw samples -/

def orderBlock : DocBlock :=
  ⟨[], [⟨"bodyParam".toList, "title string".toList⟩,
    ⟨"bodyParam".toList, "tags string[] The tags.".toList⟩]⟩

def widerOrderBlock : DocBlock :=
  ⟨[], [⟨"urlParam".toList, "title".toList⟩,
    ⟨"bodyParam".toList, "title string".toList⟩,
    ⟨"bodyParam".toList, "No-example".toList⟩,
    ⟨"bodyParam".toList, "age integer No-example".toList⟩,
    ⟨"bodyParam".toList, "size integer Example: 4".toList⟩,
    ⟨"bodyParam".toList, "tags string[] The tags.".toList⟩]⟩

theorem readParams_of_inserted_orderBlock :
    Tag.Inserted (Tag.IsAside .body orderBlock) orderBlock.tags widerOrderBlock.tags ∧
      let params := (orderBlock.readParams .body (Random.Stream.ofSeed 1)).params
      (widerOrderBlock.readParams .body (Random.Stream.ofSeed 1)).params.filter
          (fun entry ↦ entry.1 ∈ params.keys) = params ∧
        (widerOrderBlock.readParams .body (Random.Stream.ofSeed 1)).stream =
          (orderBlock.readParams .body (Random.Stream.ofSeed 1)).stream := by
  have hinserted : Tag.Inserted (Tag.IsAside .body orderBlock) orderBlock.tags
      widerOrderBlock.tags :=
    .insert ⟨.otherName (by decide +kernel), by decide +kernel⟩ <| .keep _ <|
      .insert ⟨.blank (by decide +kernel), by decide +kernel⟩ <|
      .insert ⟨.suppressed (by decide +kernel), by decide +kernel⟩ <|
      .insert ⟨.inlined (by decide +kernel), by decide +kernel⟩ <| .keep _ .nil
  exact ⟨hinserted, readParams_of_inserted hinserted _⟩

end DocBlock

end EndpointDocs
