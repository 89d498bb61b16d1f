import EndpointDocs.Proofs.AncestryWalk
import EndpointDocs.Proofs.CacheTransparency
import EndpointDocs.Proofs.EntityConvention
import EndpointDocs.Proofs.TypeNames
import Mathlib.Data.List.Forall2

/-!
# Spellings of type names

A type may be named in any spelling of its canonical name, with blanks around it and separators in
front.  Where the controller, the types of the parameters, the type of entity controllers and the
bases of form requests are spelled in another way, and separators are put in front of the entities,
a request leads to the same error, or to the same parameters from the same type.
-/

namespace EndpointDocs

/-! ## What is spelled in two ways -/

/-- A parameter with its type in two spellings. -/
structure HandlerParam.Respelled (p q : HandlerParam) : Prop where
  name_eq : p.name = q.name
  typeName_same : Option.Rel TypeName.SameType p.typeName q.typeName

structure Endpoint.Respelled (a b : Endpoint) : Prop where
  route_eq : a.route = b.route
  controller_same : TypeName.SameType a.controller b.controller
  method_eq : a.method = b.method
  parameters_same : List.Forall₂ HandlerParam.Respelled a.parameters b.parameters
  docComment_eq : a.docComment = b.docComment

structure Config.Respelled (a b : Config) : Prop where
  entityController_same : TypeName.SameType a.entityController b.entityController
  entityProperty_eq : a.entityProperty = b.entityProperty
  formRequestBases_same : List.Forall₂ TypeName.SameType a.formRequestBases b.formRequestBases
  requestNamespace_eq : a.requestNamespace = b.requestNamespace
  requestTemplates_eq : a.requestTemplates = b.requestTemplates
  actionSynonyms_eq : a.actionSynonyms = b.actionSynonyms
  exampleSeed_eq : a.exampleSeed = b.exampleSeed

/-- A text with separators in front of it; other values as they are. -/
def Json.rooted (n : ℕ) : Json → Json
  | .text s => .text (TypeName.rooted n s)
  | value => value

/-- What is known of a type, with separators in front of a static property. -/
def TypeInfo.rooted (property : Text) (n : ℕ) (info : TypeInfo) : TypeInfo :=
  { info with
    staticProperties := info.staticProperties.map fun entry ↦
      (entry.1, if entry.1 = property then entry.2.rooted n else entry.2) }

/-- A table with separators in front of a static property of its types, for each type as many as
are said. -/
def TypeTable.rooted (types : TypeTable) (property : Text) (count : Text → ℕ) : TypeTable :=
  types.map fun entry ↦ (entry.1, entry.2.rooted property (count entry.1))

/-- Metadata with its endpoints in two spellings and with separators in front of a static
property. -/
structure Metadata.Respelled (property : Text) (a b : Metadata) : Prop where
  types_eq : ∃ count, b.types = a.types.rooted property count
  endpoints_same : List.Forall₂ Endpoint.Respelled a.endpoints b.endpoints

inductive DocSource.Respelled : DocSource → DocSource → Prop
  | entityConvention {a b : Text} (h : TypeName.SameType a b) :
      Respelled (.entityConvention a) (.entityConvention b)
  | formRequest {a b : Text} (h : TypeName.SameType a b) :
      Respelled (.formRequest a) (.formRequest b)
  | handlerBlock : Respelled .handlerBlock .handlerBlock

/-- Outcomes that differ at most in the spelling of the source's type. -/
inductive Resolver.RespelledOutcome :
    Except DocError Resolved → Except DocError Resolved → Prop
  | error (error : DocError) : RespelledOutcome (.error error) (.error error)
  | ok {source other : DocSource} (h : source.Respelled other) (params : ParamMap) :
      RespelledOutcome (.ok ⟨source, params⟩) (.ok ⟨other, params⟩)

/-! ## Lookups of types -/

theorem TypeInfo.staticText?_rooted (info : TypeInfo) (property : Text) (n : ℕ) :
    (info.rooted property n).staticText? property =
      (info.staticText? property).map (TypeName.rooted n) := by
  have hget := Table.get?_map info.staticProperties
    (fun name value ↦ if name = property then value.rooted n else value) property
  rw [staticText?, staticText?, rooted, hget]
  cases info.staticProperties.get? property with
  | none => rfl
  | some value => cases value <;> simp [Json.rooted, Json.text?]

namespace TypeTable

variable (types : TypeTable) (property : Text) (count : Text → ℕ) {name other : Text}

theorem info?_of_sameType (h : TypeName.SameType name other) :
    types.info? name = types.info? other := by
  rw [info?, info?, h]

theorem info?_rooted (name : Text) :
    (types.rooted property count).info? name =
      (types.info? name).map (·.rooted property (count (TypeName.canonical name))) :=
  Table.get?_map types (fun name info ↦ info.rooted property (count name)) _

theorem declares_rooted (h : TypeName.SameType name other) :
    (types.rooted property count).declares other = types.declares name := by
  rw [declares, declares, info?_rooted, types.info?_of_sameType h, Option.isSome_map]

theorem docComment?_rooted (h : TypeName.SameType name other) :
    (types.rooted property count).docComment? other = types.docComment? name := by
  rw [docComment?, docComment?, info?_rooted, types.info?_of_sameType h]
  cases types.info? other <;> rfl

/-- Separators in front of a static property change nothing about ancestors. -/
theorem isParent_rooted (child parent : Text) :
    (types.rooted property count).reflection.IsParent child parent ↔
      types.reflection.IsParent child parent := by
  unfold Reflection.IsParent
  rw [reflection_info?, reflection_info?, info?_rooted]
  cases types.info? child <;> simp [TypeInfo.rooted]

theorem isSubtype_rooted {base otherBase : Text} (h : TypeName.SameType name other)
    (hbase : TypeName.SameType base otherBase) :
    (types.rooted property count).isSubtype other otherBase = types.isSubtype name base := by
  have hspelled : types.isSubtype other otherBase = types.isSubtype name base := by
    rw [Bool.eq_iff_iff, isSubtype, isSubtype, Reflection.isSubtype_iff_transGen,
      Reflection.isSubtype_iff_transGen, h, hbase]
  rw [← hspelled]
  exact Reflection.isSubtype_congr (types.isParent_rooted property count) other otherBase

end TypeTable

/-! ## Related lists -/

theorem find?_rel {α β : Type} {R : α → β → Prop} {p : α → Bool} {q : β → Bool} {l : List α}
    {m : List β} (h : List.Forall₂ R l m) (hpq : ∀ a b, R a b → p a = q b) :
    Option.Rel R (l.find? p) (m.find? q) := by
  induction h with
  | nil => exact .none
  | @cons a b l m hab _ ih =>
      rw [List.find?_cons, List.find?_cons, hpq a b hab]
      cases q b with
      | true => exact .some hab
      | false => exact ih

theorem any_rel {α β : Type} {R : α → β → Prop} {p : α → Bool} {q : β → Bool} {l : List α}
    {m : List β} (h : List.Forall₂ R l m) (hpq : ∀ a b, R a b → p a = q b) :
    l.any p = m.any q := by
  induction h with
  | nil => rfl
  | @cons a b l m hab _ ih => rw [List.any_cons, List.any_cons, hpq a b hab, ih]

theorem isEmpty_rel {α β : Type} {R : α → β → Prop} {l : List α} {m : List β}
    (h : List.Forall₂ R l m) : l.isEmpty = m.isEmpty := by
  cases h <;> rfl

/-! ## The blocks of handlers -/

namespace Endpoint.Respelled

variable {endpoint other : Endpoint}

theorem key_eq (h : endpoint.Respelled other) : endpoint.key = other.key := by
  rw [key, key, h.controller_same, h.method_eq]

theorem label_eq (h : endpoint.Respelled other) : endpoint.label = other.label := by
  rw [label, label, h.route_eq, h.key_eq]

end Endpoint.Respelled

theorem Metadata.Respelled.handlerBlock?_eq {metadata other : Metadata} {property : Text}
    (h : metadata.Respelled property other) {endpoint endpoint' : Endpoint}
    (hendpoint : endpoint.Respelled endpoint') :
    metadata.handlerBlock? endpoint = other.handlerBlock? endpoint' := by
  have hfound : Option.Rel Endpoint.Respelled (metadata.endpoint? endpoint.key)
      (other.endpoint? endpoint'.key) := by
    refine find?_rel h.endpoints_same ?_
    intro a b hab
    rw [hab.key_eq, hendpoint.key_eq]
  rw [handlerBlock?, handlerBlock?]
  generalize metadata.endpoint? endpoint.key = found at hfound ⊢
  generalize other.endpoint? endpoint'.key = found' at hfound ⊢
  cases hfound with
  | none => rfl
  | some hab => rw [Option.bind_some, Option.bind_some, hab.docComment_eq]

/-! ## The candidates for a source -/

namespace Resolver

/-- Resolvers whose conventions are spelled in two ways, of which the second knows the entities with
separators in front. -/
structure Respelled (r r' : Resolver) : Prop where
  config_same : r.config.Respelled r'.config
  types_eq : ∃ count, r'.types = r.types.rooted r.config.entityProperty count
  naming_eq : r.naming = r'.naming

namespace Respelled

variable {r r' : Resolver} {endpoint endpoint' : Endpoint} {name other : Text}

theorem declares_eq (h : r.Respelled r') (hname : TypeName.SameType name other) :
    r.types.declares name = r'.types.declares other := by
  obtain ⟨count, htypes⟩ := h.types_eq
  rw [htypes, TypeTable.declares_rooted _ _ _ hname]

theorem isSubtype_eq (h : r.Respelled r') {base base' : Text}
    (hname : TypeName.SameType name other) (hbase : TypeName.SameType base base') :
    r.types.isSubtype name base = r'.types.isSubtype other base' := by
  obtain ⟨count, htypes⟩ := h.types_eq
  rw [htypes, TypeTable.isSubtype_rooted _ _ _ hname hbase]

/-- The convention names the same type for both spellings. -/
theorem conventionType?_eq (h : r.Respelled r') (hendpoint : endpoint.Respelled endpoint') :
    r.conventionType? endpoint = r'.conventionType? endpoint' := by
  obtain ⟨count, htypes⟩ := h.types_eq
  have hsubtype := h.isSubtype_eq hendpoint.controller_same h.config_same.entityController_same
  have hdeclares : r.types.declares = r'.types.declares :=
    funext fun name ↦ h.declares_eq (rfl : TypeName.SameType name name)
  have haction : r.config.actionFor endpoint.method = r'.config.actionFor endpoint'.method := by
    rw [Config.actionFor, Config.actionFor, h.config_same.actionSynonyms_eq, hendpoint.method_eq]
  rw [conventionType?, conventionType?, hsubtype, hdeclares, haction, htypes,
    TypeTable.info?_rooted, r.types.info?_of_sameType hendpoint.controller_same,
    ← h.config_same.entityProperty_eq, ← h.naming_eq]
  cases r.types.info? endpoint'.controller with
  | none => rfl
  | some info =>
      simp only [Option.map_some, Option.bind_some, TypeInfo.staticText?_rooted]
      -- The entity is looked at through its last segment and its namespace alone.
      cases info.staticText? r.config.entityProperty with
      | none => rfl
      | some entity =>
          simp only [Option.map_some, Option.bind_some, RequestNaming.namespaceFor,
            RequestNaming.moduleOf, TypeName.namespaceOf_rooted, TypeName.short_rooted]

theorem candidateOfType?_rel (h : r.Respelled r') (hendpoint : endpoint.Respelled endpoint')
    (hname : TypeName.SameType name other) :
    Option.Rel DocSource.Respelled (r.candidateOfType? endpoint name)
      (r'.candidateOfType? endpoint' other) := by
  have hbases : (r.config.formRequestBases.any fun base ↦ r.types.isSubtype name base) =
      r'.config.formRequestBases.any fun base ↦ r'.types.isSubtype other base :=
    any_rel h.config_same.formRequestBases_same fun _ _ hbase ↦ h.isSubtype_eq hname hbase
  rw [candidateOfType?, candidateOfType?, h.conventionType?_eq hendpoint, hbases]
  cases r'.conventionType? endpoint' with
  | some request => exact .some (.entityConvention rfl)
  | none =>
      dsimp only
      split
      · exact .some (.formRequest hname)
      · exact .none

theorem knownTypes_rel (h : r.Respelled r') {parameters parameters' : List HandlerParam}
    (hparameters : List.Forall₂ HandlerParam.Respelled parameters parameters') :
    List.Forall₂ TypeName.SameType (r.types.knownTypes parameters)
      (r'.types.knownTypes parameters') := by
  have hnames : List.Forall₂ TypeName.SameType (parameters.filterMap (·.typeName))
      (parameters'.filterMap (·.typeName)) :=
    List.rel_filterMap (fun _ _ hparameter ↦ hparameter.typeName_same) hparameters
  refine List.rel_filter ?_ hnames
  intro name other hname
  exact iff_of_eq (congrArg (· = true) (h.declares_eq hname))

/-- The candidates come in the same order, in their two spellings. -/
theorem candidates_rel (h : r.Respelled r') (hendpoint : endpoint.Respelled endpoint') :
    List.Forall₂ DocSource.Respelled (r.candidates endpoint endpoint.parameters)
      (r'.candidates endpoint' endpoint'.parameters) :=
  List.rel_filterMap (fun _ _ hname ↦ h.candidateOfType?_rel hendpoint hname)
    (h.knownTypes_rel hendpoint.parameters_same)

theorem sourceBlock?_eq (h : r.Respelled r') {source source' : DocSource}
    (hsource : source.Respelled source') (handler : Option DocBlock) :
    r.sourceBlock? handler source = r'.sourceBlock? handler source' := by
  obtain ⟨count, htypes⟩ := h.types_eq
  cases hsource with
  | entityConvention hname =>
      simp only [sourceBlock?, DocSource.typeName?, htypes,
        TypeTable.docComment?_rooted _ _ _ hname]
  | formRequest hname =>
      simp only [sourceBlock?, DocSource.typeName?, htypes,
        TypeTable.docComment?_rooted _ _ _ hname]
  | handlerBlock => rfl

/-- The first candidate with a tag of the kind is the same type for both. -/
theorem firstDocumenting?_rel (h : r.Respelled r') (hendpoint : endpoint.Respelled endpoint')
    (kind : TagKind) :
    Option.Rel DocSource.Respelled (r.firstDocumenting? endpoint kind endpoint.parameters)
      (r'.firstDocumenting? endpoint' kind endpoint'.parameters) := by
  refine find?_rel (h.candidates_rel hendpoint) ?_
  intro source source' hsource
  rw [documents, documents, h.sourceBlock?_eq hsource]

theorem freshParams_eq (h : r.Respelled r') (kind : TagKind) (block : Option DocBlock) :
    r.freshParams kind block = r'.freshParams kind block := by
  cases block with
  | none => rfl
  | some block =>
      rw [freshParams, freshParams, freshStream, freshStream, h.config_same.exampleSeed_eq]

end Respelled

/-! ## The answer -/

/-- A request in other spellings has the same error, or the same parameters from a source of the
same kind whose type has the same canonical name. -/
theorem alone_respelled {config config' : Config} {metadata metadata' : Metadata}
    {endpoint endpoint' : Endpoint} (hconfig : config.Respelled config')
    (hmetadata : metadata.Respelled config.entityProperty metadata')
    (hendpoint : endpoint.Respelled endpoint') (naming : RequestNaming) (kind : TagKind) :
    RespelledOutcome
      ((Resolver.mk config metadata.types naming).alone metadata endpoint kind).outcome
      ((Resolver.mk config' metadata'.types naming).alone metadata' endpoint' kind).outcome := by
  have h : (Resolver.mk config metadata.types naming).Respelled
      (Resolver.mk config' metadata'.types naming) := ⟨hconfig, hmetadata.types_eq, rfl⟩
  have hfirst := h.firstDocumenting?_rel hendpoint kind
  have hblock := hmetadata.handlerBlock?_eq hendpoint
  unfold alone
  -- Candidates that document the kind come up at the same place, so the cases go together.
  generalize hfound : (Resolver.mk config metadata.types naming).firstDocumenting? endpoint kind
    endpoint.parameters = found at hfirst
  generalize hfound' : (Resolver.mk config' metadata'.types naming).firstDocumenting? endpoint'
    kind endpoint'.parameters = found' at hfirst
  cases hfirst with
  | none =>
      have hempty := isEmpty_rel (h.candidates_rel hendpoint)
      rw [(resolve_of_none_documenting hfound _ _).1, (resolve_of_none_documenting hfound' _ _).1,
        ← hempty, ← hendpoint.label_eq, BlockLookup.constant, BlockLookup.constant, ← hblock]
      split
      · exact .error _
      · rw [← h.freshParams_eq]
        exact .ok .handlerBlock _
  | @some source source' hsource =>
      rw [(resolve_of_documenting hfound _ _).1, (resolve_of_documenting hfound' _ _).1,
        ← h.sourceBlock?_eq hsource, ← h.freshParams_eq]
      exact .ok hsource _

/-- The entity controller, the form request, their bases and the entity are spelled in two ways. -/
theorem alone_respelled_articleEndpoint :
    let config := articleResolver.config
    let config' := { config with
      entityController := "\\Entities".toList
      formRequestBases := [" Form".toList] }
    let endpoint := { articleEndpoint with
      parameters := [⟨"search".toList, some "Search".toList⟩] }
    let endpoint' := { articleEndpoint with
      controller := "\\\\Articles ".toList
      parameters := [⟨"search".toList, some " \\Search".toList⟩] }
    let metadata : Metadata := ⟨articleTypes, [endpoint]⟩
    let metadata' : Metadata := ⟨articleTypes.rooted config.entityProperty fun _ ↦ 2, [endpoint']⟩
    config.Respelled config' ∧ metadata.Respelled config.entityProperty metadata' ∧
      endpoint.Respelled endpoint' ∧
      RespelledOutcome
        ((Resolver.mk config metadata.types config.naming).alone metadata endpoint .body).outcome
        ((Resolver.mk config' metadata'.types config.naming).alone metadata' endpoint'
          .body).outcome := by
  intro config config' endpoint endpoint' metadata metadata'
  have hconfig : config.Respelled config' :=
    { entityController_same := by decide +kernel
      entityProperty_eq := rfl
      formRequestBases_same := .cons (by decide +kernel) .nil
      requestNamespace_eq := rfl
      requestTemplates_eq := rfl
      actionSynonyms_eq := rfl
      exampleSeed_eq := rfl }
  have hendpoint : endpoint.Respelled endpoint' :=
    { route_eq := rfl
      controller_same := by decide +kernel
      method_eq := rfl
      parameters_same := .cons ⟨rfl, .some (by decide +kernel)⟩ .nil
      docComment_eq := rfl }
  have hmetadata : metadata.Respelled config.entityProperty metadata' :=
    ⟨⟨fun _ ↦ 2, rfl⟩, .cons hendpoint .nil⟩
  exact ⟨hconfig, hmetadata, hendpoint,
    alone_respelled hconfig hmetadata hendpoint config.naming .body⟩

end Resolver

end EndpointDocs
