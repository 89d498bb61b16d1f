import EndpointDocs.Proofs.TagReading

/-!
# Tags one after another

The tags of a block are read with one stream, which each of them takes over from the tag before it.
Their records go into a map in which a name stands where it first occurs and has the record that
comes last.  So a block may be read in two parts, the second with the stream that the first leaves.
-/

namespace EndpointDocs

namespace Tag

/-- The stream after some tags. -/
def streamAfter (kind : TagKind) (tags : List Tag) (s : Random.Stream) : Random.Stream :=
  tags.foldl (fun s tag ↦ (Param.ofTag? kind tag.content s).2) s

/-- The records of some tags in order, each read with the stream that the tags before it leave. -/
def records (kind : TagKind) : List Tag → Random.Stream → List Param
  | [], _ => []
  | tag :: tags, s =>
    let read := Param.ofTag? kind tag.content s
    read.1.toList ++ records kind tags read.2

@[simp] theorem records_nil (kind : TagKind) (s : Random.Stream) : records kind [] s = [] := rfl

theorem records_cons (kind : TagKind) (tag : Tag) (tags : List Tag) (s : Random.Stream) :
    records kind (tag :: tags) s = (Param.ofTag? kind tag.content s).1.toList ++
      records kind tags (Param.ofTag? kind tag.content s).2 := rfl

theorem streamAfter_cons (kind : TagKind) (tag : Tag) (tags : List Tag) (s : Random.Stream) :
    streamAfter kind (tag :: tags) s =
      streamAfter kind tags (Param.ofTag? kind tag.content s).2 := rfl

theorem streamAfter_append (kind : TagKind) (front back : List Tag) (s : Random.Stream) :
    streamAfter kind (front ++ back) s = streamAfter kind back (streamAfter kind front s) := by
  simp [streamAfter]

/-- The records of the later tags are read with the stream that the earlier ones leave. -/
theorem records_append (kind : TagKind) (front back : List Tag) (s : Random.Stream) :
    records kind (front ++ back) s =
      records kind front s ++ records kind back (streamAfter kind front s) := by
  induction front generalizing s with
  | nil => rfl
  | cons tag front ih =>
      rw [List.cons_append, records_cons, records_cons, ih, streamAfter_cons, List.append_assoc]

/-- The name in the record of a tag does not depend on the stream. -/
theorem map_name_ofTag? (kind : TagKind) (tag : Tag) (s : Random.Stream) :
    (Param.ofTag? kind tag.content s).1.map (·.name) = tag.paramName? kind := by
  cases hfields : tag.fields? kind with
  | none => simp [paramName?, hfields, Param.ofTag?_of_fields?_eq_none hfields]
  | some fields => simp [paramName?, hfields, Param.ofTag?_of_fields?_eq_some hfields]

theorem exists_mem_of_mem_records {kind : TagKind} {tags : List Tag} {s : Random.Stream}
    {p : Param} (h : p ∈ records kind tags s) : ∃ tag ∈ tags, tag.paramName? kind = some p.name := by
  induction tags generalizing s with
  | nil => cases h
  | cons tag tags ih =>
      rw [records_cons, List.mem_append, Option.mem_toList] at h
      rcases h with h | h
      · refine ⟨tag, List.mem_cons_self, ?_⟩
        rw [← map_name_ofTag? kind tag s, h, Option.map_some]
      · obtain ⟨other, hmem, hname⟩ := ih h
        exact ⟨other, List.mem_cons_of_mem _ hmem, hname⟩

end Tag

namespace BlockParams

theorem addTag_stream (kind : TagKind) (read : BlockParams) (tag : Tag) :
    (read.addTag kind tag).stream = (Param.ofTag? kind tag.content read.stream).2 := by
  unfold addTag
  rcases Param.ofTag? kind tag.content read.stream with ⟨_ | p, s⟩ <;> rfl

theorem addTag_params (kind : TagKind) (read : BlockParams) (tag : Tag) :
    (read.addTag kind tag).params =
      (Param.ofTag? kind tag.content read.stream).1.toList.foldl
        (fun params p ↦ params.put p.name p) read.params := by
  unfold addTag
  rcases Param.ofTag? kind tag.content read.stream with ⟨_ | p, s⟩ <;> rfl

theorem ofTags_stream (kind : TagKind) (tags : List Tag) (s : Random.Stream) :
    (ofTags kind tags s).stream = Tag.streamAfter kind tags s := by
  induction tags using List.reverseRecOn with
  | nil => rfl
  | append_singleton tags tag ih =>
      rw [ofTags_append_singleton, addTag_stream, ih, Tag.streamAfter_append]
      rfl

/-- The map of some tags is the table of their records under their names. -/
theorem ofTags_params (kind : TagKind) (tags : List Tag) (s : Random.Stream) :
    (ofTags kind tags s).params =
      Table.ofEntries ((Tag.records kind tags s).map fun p ↦ (p.name, p)) := by
  induction tags using List.reverseRecOn with
  | nil => rfl
  | append_singleton tags tag ih =>
      rw [ofTags_append_singleton, addTag_params, ih, ofTags_stream, Tag.records_append,
        Tag.records_cons, Tag.records_nil, List.append_nil, List.map_append]
      cases (Param.ofTag? kind tag.content (Tag.streamAfter kind tags s)).1 with
      | none => simp
      | some p => simp [Table.ofEntries_concat]

theorem nodup_keys_ofTags (kind : TagKind) (tags : List Tag) (s : Random.Stream) :
    (ofTags kind tags s).params.keys.Nodup := by
  rw [ofTags_params]
  exact Table.nodup_keys_ofEntries _

/-- What two readings give, of which the second goes on where the first has ended. -/
def followedBy (earlier later : BlockParams) : BlockParams where
  params := earlier.params.merge later.params
  stream := later.stream
  log := earlier.log ++ later.log

theorem followedBy_addTag {earlier : BlockParams} (hnodup : earlier.params.keys.Nodup)
    (later : BlockParams) (kind : TagKind) (tag : Tag) :
    earlier.followedBy (later.addTag kind tag) = (earlier.followedBy later).addTag kind tag := by
  simp only [followedBy, addTag]
  rcases Param.ofTag? kind tag.content later.stream with ⟨_ | p, s⟩
  · simp [List.append_assoc]
  · simp [Table.merge_put hnodup]

/-- Tags can be read in two parts, the second from where the first ends. -/
theorem ofTags_append (kind : TagKind) (front back : List Tag) (s : Random.Stream) :
    ofTags kind (front ++ back) s =
      (ofTags kind front s).followedBy (ofTags kind back (ofTags kind front s).stream) := by
  induction back using List.reverseRecOn with
  | nil => simp [followedBy, ofTags]
  | append_singleton back tag ih =>
      rw [← List.append_assoc, ofTags_append_singleton, ofTags_append_singleton, ih,
        followedBy_addTag (nodup_keys_ofTags kind front s)]

end BlockParams

/-- The map that the records of some tags make up, with each record read in its turn. -/
structure ParamMap.Collects (params : ParamMap) (kind : TagKind) (tags : List Tag)
    (s : Random.Stream) : Prop where
  /-- Each name of a record is a key once, and the keys are in the order of its first record. -/
  keys_eq : params.keys = ((Tag.records kind tags s).map (·.name)).eraseDups
  nodup_keys : params.keys.Nodup
  name_eq : ∀ entry ∈ params, entry.2.name = entry.1
  /-- Under a name stands the last record that has it. -/
  get?_eq : ∀ name, params.get? name =
    (Tag.records kind tags s).reverse.find? fun p ↦ p.name == name
  /-- The last tag that documents a parameter is read with the stream after all tags before it. -/
  get?_of_last : ∀ front tag back p, tags = front ++ tag :: back →
    (Param.ofTag? kind tag.content (Tag.streamAfter kind front s)).1 = some p →
    (∀ later ∈ back, later.paramName? kind ≠ some p.name) → params.get? p.name = some p

namespace BlockParams

theorem get?_map_records (records : List Param) (name : Text) :
    Table.get? (records.map fun p ↦ (p.name, p)) name =
      records.find? fun p ↦ p.name == name := by
  induction records with
  | nil => rfl
  | cons p records ih =>
      rw [List.map_cons, Table.get?_cons, ih]
      by_cases h : p.name = name
      · simp [h]
      · simp [h, Ne.symm h]

/-- Under a name stands the record of the last tag that documents it. -/
theorem get?_ofTags (kind : TagKind) (tags : List Tag) (s : Random.Stream) (name : Text) :
    (ofTags kind tags s).params.get? name =
      (Tag.records kind tags s).reverse.find? fun p ↦ p.name == name := by
  rw [ofTags_params, Table.get?_ofEntries, ← List.map_reverse, get?_map_records]

theorem get?_ofTags_of_last {kind : TagKind} {front back : List Tag} {tag : Tag}
    {s : Random.Stream} {p : Param}
    (hread : (Param.ofTag? kind tag.content (Tag.streamAfter kind front s)).1 = some p)
    (hlast : ∀ later ∈ back, later.paramName? kind ≠ some p.name) :
    (ofTags kind (front ++ tag :: back) s).params.get? p.name = some p := by
  have hback (s' : Random.Stream) :
      (Tag.records kind back s').reverse.find? (fun q ↦ q.name == p.name) = none := by
    rw [List.find?_eq_none]
    intro q hq heq
    obtain ⟨later, hmem, hname⟩ := Tag.exists_mem_of_mem_records (List.mem_reverse.mp hq)
    exact hlast later hmem (hname.trans (congrArg some (eq_of_beq heq)))
  rw [get?_ofTags, Tag.records_append, Tag.records_cons, hread]
  simp [List.find?_append, hback]

theorem ofTags_collects (kind : TagKind) (tags : List Tag) (s : Random.Stream) :
    ParamMap.Collects (ofTags kind tags s).params kind tags s where
  keys_eq := by
    rw [ofTags_params, Table.keys_ofEntries, List.map_map]
    rfl
  nodup_keys := nodup_keys_ofTags kind tags s
  name_eq := by
    intro entry hentry
    rw [ofTags_params] at hentry
    obtain ⟨p, -, rfl⟩ := List.mem_map.mp (Table.mem_of_mem_ofEntries hentry)
    rfl
  get?_eq := get?_ofTags kind tags s
  get?_of_last := by
    rintro front tag back p rfl hread hlast
    exact get?_ofTags_of_last hread hlast

end BlockParams

namespace DocBlock

theorem tagsOf_take_append_drop (block : DocBlock) (kind : TagKind) (n : Nat) :
    tagsOf ⟨block.summary, block.tags.take n⟩ kind ++
      tagsOf ⟨block.summary, block.tags.drop n⟩ kind = block.tagsOf kind := by
  unfold tagsOf
  rw [← List.filter_append, List.take_append_drop]

/-- The map of a block collects the records of its tags, and a block that is cut in two anywhere
among its tags is read part by part. -/
theorem readParams_collects (block : DocBlock) (kind : TagKind) (s : Random.Stream) :
    (block.readParams kind s).params.Collects kind (block.tagsOf kind) s ∧
      ∀ n,
        let front := DocBlock.readParams ⟨block.summary, block.tags.take n⟩ kind s
        let back := DocBlock.readParams ⟨block.summary, block.tags.drop n⟩ kind front.stream
        block.readParams kind s = front.followedBy back := by
  refine ⟨BlockParams.ofTags_collects kind (block.tagsOf kind) s, fun n ↦ ?_⟩
  have hread := BlockParams.ofTags_append kind
    (tagsOf ⟨block.summary, block.tags.take n⟩ kind)
    (tagsOf ⟨block.summary, block.tags.drop n⟩ kind) s
  rw [tagsOf_take_append_drop] at hread
  exact hread

end DocBlock

end EndpointDocs
