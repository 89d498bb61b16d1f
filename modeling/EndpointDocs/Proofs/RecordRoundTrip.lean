import EndpointDocs.Json.Document
import EndpointDocs.Proofs.JsonText
import EndpointDocs.Proofs.ValueFit

/-!
# Records and their JSON form

The JSON form of a record leaves a missing type out and says null for a missing value, and a type is
spelled in it.  So a record is read back exactly if its type nests no deeper than is read from a
spelling and its value is not null itself.  Every record of a tag is such a record.
-/

namespace EndpointDocs

theorem Document.knownFields?_eq_self {ν : Type} {known : List Text} {fields : List (Text × ν)}
    (hknown : ∀ field ∈ fields, field.1 ∈ known) (hnodup : (fields.map Prod.fst).Nodup) :
    knownFields? known fields = some fields := by
  induction fields with
  | nil => rfl
  | cons field fields ih =>
      obtain ⟨hfirst, hrest⟩ := List.forall_mem_cons.mp hknown
      rw [List.map_cons, List.nodup_cons] at hnodup
      have hother : (fields.any fun other ↦ other.1 == field.1) = false := by
        rw [List.any_eq_false]
        intro other hmem heq
        rw [beq_iff_eq] at heq
        exact hnodup.1 (heq ▸ List.mem_map_of_mem hmem)
      unfold knownFields?
      simp [ih hrest hnodup.2, hfirst, hother]

namespace Fields

variable {ν α : Type} [Document ν Option] {fields : Fields ν} {name : Text} {node : ν}
  {decode : ν → Option α}

theorem optional_of_absent (h : fields.node? name = none) :
    fields.optional name decode = some none := by
  rw [optional, h]
  rfl

theorem optional_of_null (h : fields.node? name = some node)
    (hnull : Document.presence? node = some none) : fields.optional name decode = some none := by
  simp [optional, h, hnull]

theorem optional_of_present (h : fields.node? name = some node)
    (hpresent : Document.presence? node = some (some node)) :
    fields.optional name decode = (decode node).map some := by
  simp only [optional, h, Option.bind_eq_bind, hpresent, Option.bind_some]
  cases decode node <;> rfl

end Fields

/-- A value that is not null. -/
def Json.nonNull? : Json → Option Json
  | .null => none
  | v => some v

theorem Json.nonNull?_of_ne_null {v : Json} (h : v ≠ .null) : v.nonNull? = some v := by
  cases v with
  | null => exact absurd rfl h
  | _ => rfl

theorem ParamType.Admits.ne_null {t : ParamType} {inlined : Option Text} {v : Json}
    (h : t.Admits inlined v) : v ≠ .null := by
  rintro rfl
  cases t with
  | string | file => exact absurd h (by rintro ⟨_, ⟨⟩⟩)
  | integer | number => exact absurd h (by rintro ⟨_, ⟨⟩, -⟩)
  | boolean => exact absurd h (by rintro ⟨_, ⟨⟩⟩)
  | _ =>
      cases inlined with
      | none => cases h
      | some literal => cases h

namespace Param

def ofJson? (s : Text) : Option Param :=
  (Json.Node.read? s).bind fun node ↦ decode (Json.Cursor.root node)

/-- The fields of the JSON form of a record. -/
def jsonFields (p : Param) : List (Text × Json) :=
  ("name".toList, .text p.name) ::
    (p.type.toList.map fun t ↦ ("type".toList, Json.text t.spelling)) ++
    [("required".toList, .bool p.isRequired), ("description".toList, .text p.description),
      ("value".toList, p.value.getD .null)]

theorem toJson_eq (p : Param) : p.toJson = .object p.jsonFields := rfl

theorem jsonFields_names_sublist (p : Param) : (p.jsonFields.map Prod.fst).Sublist fieldNames := by
  rcases p with ⟨name, _ | t, isRequired, description, value⟩
  · change List.Sublist
      ["name".toList, "required".toList, "description".toList, "value".toList] fieldNames
    decide
  · exact List.Sublist.refl fieldNames

/-- A record that its JSON form determines: a type that nests too deep is not read back from its
spelling, and a value that is null is taken for none. -/
structure Determined (p : Param) : Prop where
  nesting_le : ∀ t, p.type = some t → t.nesting ≤ ParamType.nestingLimit
  value_ne_null : p.value ≠ some .null

/-- What comes back of a record. -/
def asRead (p : Param) : Param :=
  { p with
    type := p.type.map fun t ↦ ParamType.ofToken t.spelling
    value := p.value.bind Json.nonNull? }

/-- A record comes back as it is exactly if its JSON form determines it. -/
theorem asRead_eq_self_iff {p : Param} : p.asRead = p ↔ p.Determined := by
  constructor
  · intro h
    constructor
    · intro t ht
      have htype : p.type.map (fun t ↦ ParamType.ofToken t.spelling) = p.type := congrArg type h
      rw [ht, Option.map_some, Option.some.injEq] at htype
      rw [← htype]
      exact ParamType.nesting_ofToken_le _
    · intro hnull
      have hvalue : p.value.bind Json.nonNull? = p.value := congrArg value h
      rw [hnull] at hvalue
      cases hvalue
  · rintro ⟨hnesting, hnull⟩
    have htype : p.type.map (fun t ↦ ParamType.ofToken t.spelling) = p.type := by
      cases ht : p.type with
      | none => rfl
      | some t => rw [Option.map_some, ParamType.ofToken_spelling (hnesting t ht)]
    have hvalue : p.value.bind Json.nonNull? = p.value := by
      cases hv : p.value with
      | none => rfl
      | some v => exact Json.nonNull?_of_ne_null fun heq ↦ hnull (heq ▸ hv)
    rw [asRead, htype, hvalue]

/-! ## Reading the fields of a record -/

/-- A node for each JSON value that answers, when it is asked, with what the value is. -/
structure Represents {ν : Type} [Document ν Option] (node : Json → ν) : Prop where
  text : ∀ s, Document.text (node (.text s)) = some s
  textPresent : ∀ s, Document.presence? (node (.text s)) = some (some (node (.text s)))
  flag : ∀ b, Document.flag (node (.bool b)) = some b
  null : Document.presence? (node .null) = some none

/-- The fields of a record as nodes. -/
def nodeFields {ν : Type} (node : Json → ν) (p : Param) : Fields ν :=
  ⟨p.jsonFields.map fun field ↦ (field.1, node field.2), false⟩

section Nodes

variable {ν : Type} {node : Json → ν} {p : Param}

theorem names_nodeFields (node : Json → ν) (p : Param) :
    ((p.nodeFields node).nodes.map Prod.fst).Sublist fieldNames := by
  rw [nodeFields, List.map_map]
  exact p.jsonFields_names_sublist

theorem knownFields?_nodeFields (node : Json → ν) (p : Param) :
    Document.knownFields? fieldNames (p.nodeFields node).nodes =
      some (p.nodeFields node).nodes := by
  have hnames := names_nodeFields node p
  apply Document.knownFields?_eq_self
  · intro field hfield
    exact hnames.subset (List.mem_map_of_mem hfield)
  · exact hnames.nodup (by decide)

theorem node?_nodeFields {name : Text} {v : Json} (h : (name, v) ∈ p.jsonFields) :
    (p.nodeFields node).node? name = some (node v) := by
  have hnodup : (Table.keys (p.nodeFields node).nodes).Nodup :=
    (names_nodeFields node p).nodup (by decide)
  have hmem : (name, node v) ∈ (p.nodeFields node).nodes := List.mem_map.mpr ⟨_, h, rfl⟩
  exact Table.get?_of_mem hnodup hmem

variable [Document ν Option]

theorem required_nodeFields {α : Type} {name : Text} {decode : ν → Option α} (v : Json)
    (h : (name, v) ∈ p.jsonFields) :
    (p.nodeFields node).required name decode = decode (node v) := by
  rw [Fields.required, node?_nodeFields h]

theorem optional_type (hnode : Represents node) :
    (p.nodeFields node).optional "type".toList decodeType = some p.asRead.type := by
  rw [asRead]
  cases ht : p.type with
  | none =>
      apply Fields.optional_of_absent
      rw [nodeFields, jsonFields, ht]
      rfl
  | some t =>
      have hfield : (p.nodeFields node).node? "type".toList = some (node (.text t.spelling)) :=
        node?_nodeFields (by simp [jsonFields, ht])
      rw [Fields.optional_of_present hfield (hnode.textPresent t.spelling), decodeType,
        hnode.text t.spelling]
      rfl

theorem optional_value (hnode : Represents node)
    (hvalue : ∀ v, p.value = some v → v ≠ .null →
      Document.presence? (node v) = some (some (node v)) ∧ Document.json (node v) = some v) :
    (p.nodeFields node).optional "value".toList Document.json = some p.asRead.value := by
  have hfield : (p.nodeFields node).node? "value".toList = some (node (p.value.getD .null)) :=
    node?_nodeFields (by simp [jsonFields])
  rw [asRead]
  cases hv : p.value with
  | none =>
      rw [hv] at hfield
      exact Fields.optional_of_null hfield hnode.null
  | some v =>
      rw [hv, Option.getD_some] at hfield
      by_cases hnull : v = .null
      · subst hnull
        exact Fields.optional_of_null hfield hnode.null
      · obtain ⟨hpresent, hjson⟩ := hvalue v hv hnull
        rw [Fields.optional_of_present hfield hpresent, hjson, Option.bind_some,
          Json.nonNull?_of_ne_null hnull, Option.map_some]

/-- A record is read from any nodes that answer as the values of its fields do. -/
theorem decode_of_represents {document : ν} (hnode : Represents node)
    (hfields : Document.fields fieldNames document = some (p.nodeFields node))
    (hvalue : ∀ v, p.value = some v → v ≠ .null →
      Document.presence? (node v) = some (some (node v)) ∧ Document.json (node v) = some v) :
    decode document = some p.asRead := by
  have hname : (p.nodeFields node).required "name".toList Document.text = some p.name := by
    rw [required_nodeFields (.text p.name) (by simp [jsonFields]), hnode.text]
  have hrequired : (p.nodeFields node).required "required".toList Document.flag =
      some p.isRequired := by
    rw [required_nodeFields (.bool p.isRequired) (by simp [jsonFields]), hnode.flag]
  have hdescription : (p.nodeFields node).required "description".toList Document.text =
      some p.description := by
    rw [required_nodeFields (.text p.description) (by simp [jsonFields]), hnode.text]
  rw [decode, hfields]
  simp only [Option.bind_eq_bind, Option.bind_some, hname, optional_type hnode, hrequired,
    hdescription, optional_value hnode hvalue]
  rfl

end Nodes

variable {p : Param}

/-! ## Reading the JSON form -/

/-- What comes back from the JSON form. -/
theorem decode_toJson (p : Param) : decode p.toJson = some p.asRead := by
  have hnode : Represents (id : Json → Json) :=
    ⟨fun _ ↦ rfl, fun _ ↦ rfl, fun _ ↦ rfl, rfl⟩
  have hself : (p.nodeFields id).nodes = p.jsonFields := List.map_id _
  apply decode_of_represents hnode
  · change (Document.knownFields? fieldNames p.jsonFields).map _ = _
    rw [← hself, knownFields?_nodeFields]
    rfl
  · intro v _ hnull
    refine ⟨?_, rfl⟩
    cases v with
    | null => exact absurd rfl hnull
    | _ => rfl

theorem entries?_toNode (room : Nat) (fields : List (Text × Json)) :
    (⟨room + 1, (Json.object fields).toNode⟩ : Json.Cursor).entries? =
      some (fields.map fun field ↦ (field.1, ⟨room, field.2.toNode⟩)) := by
  rw [Json.toNode, Json.fieldNodes_eq]
  apply Json.mapM_map_eq_some
  intro field _
  rfl

theorem fields_toNode {room : Nat} {known : List Text} {fields : List (Text × Json)}
    {nodes : List (Text × Json.Cursor)}
    (h : Document.knownFields? known
      (fields.map fun field ↦ (field.1, ⟨room, field.2.toNode⟩)) = some nodes) :
    Document.fields known (⟨room + 1, (Json.object fields).toNode⟩ : Json.Cursor) =
      some ⟨nodes, false⟩ := by
  have hentries := entries?_toNode room fields
  rw [Json.toNode] at hentries ⊢
  change ((Json.Cursor.entries? _).bind fun entries ↦
    (Document.knownFields? known entries).bind fun nodes ↦ some (Fields.mk nodes false)) = _
  rw [hentries, Option.bind_some, h, Option.bind_some]

theorem presence?_toNode {room : Nat} {v : Json} (h : v.WithoutDouble) (hnull : v ≠ .null) :
    (⟨room, v.toNode⟩ : Json.Cursor).presence? = some (some ⟨room, v.toNode⟩) := by
  cases h with
  | null => exact absurd rfl hnull
  | _ => rw [Json.toNode]; rfl

theorem represents_toNode (room : Nat) :
    Represents fun v ↦ (⟨room, v.toNode⟩ : Json.Cursor) := by
  constructor
  all_goals
    intros
    rw [Json.toNode]
    rfl

theorem decode_root
    (hvalue : ∀ v, p.value = some v → v.WithoutDouble ∧ v.levels < Json.deepestNesting) :
    decode (Json.Cursor.root p.toJson.toNode) = some p.asRead := by
  -- The record itself is one of the levels that may be read.
  change decode (⟨126 + 1, p.toJson.toNode⟩ : Json.Cursor) = some p.asRead
  apply decode_of_represents (represents_toNode 126)
  · exact fields_toNode (knownFields?_nodeFields (fun v ↦ (⟨126, v.toNode⟩ : Json.Cursor)) p)
  · intro v hv hnull
    obtain ⟨hdouble, hlevels⟩ := hvalue v hv
    exact ⟨presence?_toNode hdouble hnull, hdouble.value?_toNode (Nat.le_of_lt_succ hlevels)⟩

theorem readsBack_toJson (hvalue : ∀ v, p.value = some v → v.WithoutDouble) :
    p.toJson.ReadsBack := by
  have hlast : (p.value.getD .null).WithoutDouble := by
    cases hv : p.value with
    | none => exact .null
    | some v => exact hvalue v hv
  have hfields : ∀ field ∈ p.jsonFields, field.2.WithoutDouble := by
    intro field hfield
    simp only [jsonFields, List.cons_append, List.mem_cons, List.mem_append, List.mem_map,
      List.not_mem_nil, or_false] at hfield
    rcases hfield with rfl | ⟨t, -, rfl⟩ | rfl | rfl | rfl
    · exact .text _
    · exact .text _
    · exact .bool _
    · exact .text _
    · exact hlast
  rw [toJson_eq]
  exact Json.readsBack_object fun field hfield ↦ (hfields field hfield).readsBack

/-- What comes back from the text of the JSON form, within the limit of nesting. -/
theorem ofJson?_write
    (hvalue : ∀ v, p.value = some v → v.WithoutDouble ∧ v.levels < Json.deepestNesting) :
    ofJson? p.toJson.write = some p.asRead := by
  have hread := (readsBack_toJson fun v hv ↦ (hvalue v hv).1).read?_write
  rw [ofJson?, hread, Option.bind_some, decode_root hvalue]

/-! ## The records of tags -/

theorem ValueFits.ne_null {kind : TagKind} {inlined : Option Text} {v : Json}
    (h : p.ValueFits kind inlined v) : v ≠ .null := by
  rintro rfl
  cases kind with
  | url =>
      obtain ⟨-, ⟨s, hs⟩ | ⟨n, hn⟩, -⟩ := h
      · cases hs
      · cases hn
  | body =>
      obtain ⟨t, -, hadmits⟩ := h
      exact hadmits.ne_null rfl

theorem determined_ofFields (kind : TagKind) (suppressed : Bool) (fields : TagFields)
    (s : Random.Stream) : (ofFields kind suppressed fields s).1.Determined := by
  constructor
  · intro t ht
    cases kind with
    | url => cases ht
    | body =>
        cases ht
        exact ParamType.nesting_ofToken_le _
  · intro hvalue
    cases kind with
    | url => exact (valueFits_url hvalue).ne_null rfl
    | body => exact (valueFits_body hvalue).ne_null rfl

/-- A record comes back from its JSON form exactly when that determines it.  It comes back from the
text too, if its value holds no double and nests one level less than may be read, because the record
is a level itself.  The JSON form of a record of a tag determines it. -/
theorem toJson_roundTrip :
    (∀ p : Param, (decode p.toJson = some p ↔ p.Determined) ∧
      (p.Determined →
        (∀ v, p.value = some v → v.WithoutDouble ∧ v.levels < Json.deepestNesting) →
          ofJson? p.toJson.write = some p)) ∧
      ∀ (kind : TagKind) (content : Text) (s : Random.Stream) (p : Param),
        (ofTag? kind content s).1 = some p → p.Determined := by
  refine ⟨fun p ↦ ⟨?_, ?_⟩, ?_⟩
  · rw [decode_toJson, Option.some.injEq, asRead_eq_self_iff]
  · intro h hvalue
    rw [ofJson?_write hvalue, asRead_eq_self_iff.mpr h]
  · intro kind content s p h
    obtain ⟨fields, -, rfl⟩ := ofTag?_eq_some h
    exact determined_ofFields kind _ fields s

end Param

end EndpointDocs
