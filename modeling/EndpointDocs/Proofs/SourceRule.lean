import EndpointDocs.Resolution
import EndpointDocs.Proofs.TagReading

/-!
# The rule behind the choice of a source

The known types of the parameters lead to candidates, in order.  The source is the first candidate
whose comment documents a parameter of the kind, and the block of the handler when there is none.
Candidates that are passed over draw no sample, so the source is read as if it were the only one.
-/

namespace EndpointDocs

/-- The declared types among those of some parameters, in order. -/
def TypeTable.knownTypes (types : TypeTable) (parameters : List HandlerParam) : List Text :=
  (parameters.filterMap (·.typeName)).filter types.declares

theorem TypeTable.isSubtype_of_mem_parents {types : TypeTable} {name base : Text}
    (h : TypeName.canonical base ∈ types.parents (TypeName.canonical name)) :
    types.isSubtype name base = true := by
  rw [parents] at h
  rw [isSubtype, Reflection.isSubtype, Reflection.walk]
  simp [h]

theorem TypeTable.isSubtype_of_parents_eq_nil {types : TypeTable} {name : Text}
    (h : types.parents (TypeName.canonical name) = []) (base : Text) :
    types.isSubtype name base = false := by
  rw [parents] at h
  rw [isSubtype, Reflection.isSubtype, Reflection.walk]
  simp [h, Reflection.walk]

namespace Resolver

/-- The request type of the entity convention: the controller is an entity controller that names an
entity, and the type is the first declared one of the names a request type of that entity has. -/
def conventionType? (r : Resolver) (endpoint : Endpoint) : Option Text :=
  if r.types.isSubtype endpoint.controller r.config.entityController then
    (r.types.info? endpoint.controller).bind fun info ↦
      (info.staticText? r.config.entityProperty).bind fun entity ↦
        (r.naming.possibleRequests (r.naming.namespaceFor entity) (TypeName.short entity)
          (r.config.actionFor endpoint.method)).find? r.types.declares
  else none

/-- The request type of the entity convention, name by name: those before it are not declared. -/
def IsConventionType (r : Resolver) (endpoint : Endpoint) (request : Text) : Prop :=
  r.types.isSubtype endpoint.controller r.config.entityController = true ∧
    ∃ info entity, r.types.info? endpoint.controller = some info ∧
      info.staticText? r.config.entityProperty = some entity ∧
      ∃ tried untried, r.naming.possibleRequests (r.naming.namespaceFor entity)
          (TypeName.short entity) (r.config.actionFor endpoint.method) =
            tried ++ request :: untried ∧
        r.types.declares request = true ∧ ∀ name ∈ tried, r.types.declares name = false

/-- The type of the convention is the first declared one of the names that it may have. -/
theorem conventionType?_eq_some_iff (r : Resolver) (endpoint : Endpoint) (request : Text) :
    r.conventionType? endpoint = some request ↔ r.IsConventionType endpoint request := by
  unfold conventionType? IsConventionType
  split
  · next hcontroller =>
    simp only [hcontroller, true_and, Option.bind_eq_some_iff, List.find?_eq_some_iff_append]
    constructor
    · rintro ⟨info, hinfo, entity, hentity, hdeclared, tried, untried, hnames, hbefore⟩
      exact ⟨info, entity, hinfo, hentity, tried, untried, hnames, hdeclared,
        by simpa using hbefore⟩
    · rintro ⟨info, entity, hinfo, hentity, tried, untried, hnames, hdeclared, hbefore⟩
      exact ⟨info, hinfo, entity, hentity, hdeclared, tried, untried, hnames,
        by simpa using hbefore⟩
  · next hcontroller => simp [hcontroller]

/-- The candidate that a parameter of a known type leads to. -/
def candidateOfType? (r : Resolver) (endpoint : Endpoint) (typeName : Text) : Option DocSource :=
  match r.conventionType? endpoint with
  | some request => some (.entityConvention request)
  | none =>
    if r.config.formRequestBases.any fun base ↦ r.types.isSubtype typeName base then
      some (.formRequest typeName)
    else none

/-- The candidates that some parameters of a handler lead to, in order. -/
def candidates (r : Resolver) (endpoint : Endpoint) (parameters : List HandlerParam) :
    List DocSource :=
  (r.types.knownTypes parameters).filterMap (r.candidateOfType? endpoint)

def sourceBlock? (r : Resolver) (handler : Option DocBlock) (source : DocSource) :
    Option DocBlock :=
  match source.typeName? with
  | some typeName => (r.types.docComment? typeName).map DocBlock.ofComment
  | none => handler

/-- Whether the comment of a candidate documents a parameter of a kind. -/
def documents (r : Resolver) (kind : TagKind) (source : DocSource) : Bool :=
  (r.sourceBlock? none source).any (·.documents kind)

/-- The first candidate of an endpoint that documents a parameter of a kind. -/
def firstDocumenting? (r : Resolver) (endpoint : Endpoint) (kind : TagKind)
    (parameters : List HandlerParam) : Option DocSource :=
  (r.candidates endpoint parameters).find? (r.documents kind)

def freshStream (r : Resolver) : Random.Stream :=
  Random.Stream.ofSeed r.config.exampleSeed

/-- The parameters of a block read with a fresh stream; without a block there are none. -/
def freshParams (r : Resolver) (kind : TagKind) (block : Option DocBlock) : ParamMap :=
  match block with
  | some block => (block.readParams kind r.freshStream).params
  | none => []

/-- What an endpoint's documentation comes to, given the block of its handler. -/
def ruling (r : Resolver) (endpoint : Endpoint) (kind : TagKind) (handler : Option DocBlock) :
    Except DocError Resolved :=
  let source := (r.firstDocumenting? endpoint kind endpoint.parameters).getD .handlerBlock
  if (r.candidates endpoint endpoint.parameters).isEmpty && handler.isNone then
    .error (.noSource endpoint.label)
  else .ok ⟨source, r.freshParams kind (r.sourceBlock? handler source)⟩

theorem entityRequest_fst (r : Resolver) (endpoint : Endpoint) :
    (r.entityRequest endpoint).1 = r.conventionType? endpoint := by
  unfold entityRequest conventionType? entity? requestNames
  split
  · cases r.types.info? endpoint.controller with
    | none => rfl
    | some info => cases h : info.staticText? r.config.entityProperty <;> simp [h]
  · rfl

/-- Only a parameter of a declared type leads to a candidate. -/
theorem candidate_fst (r : Resolver) (endpoint : Endpoint) (parameter : HandlerParam) :
    (r.candidate endpoint parameter).1 =
      (parameter.typeName.filter r.types.declares).bind (r.candidateOfType? endpoint) := by
  unfold candidate
  cases parameter.typeName with
  | none => rfl
  | some typeName =>
      cases hdeclared : r.types.declares typeName with
      | false => simp [hdeclared, Option.filter]
      | true =>
          have hrequest := r.entityRequest_fst endpoint
          generalize r.entityRequest endpoint = found at hrequest
          obtain ⟨request, log⟩ := found
          replace hrequest : request = r.conventionType? endpoint := hrequest
          cases request <;>
            simp [hdeclared, Option.filter, candidateOfType?, ← hrequest, isFormRequest]

theorem candidates_cons (r : Resolver) (endpoint : Endpoint) (parameter : HandlerParam)
    (others : List HandlerParam) :
    r.candidates endpoint (parameter :: others) =
      (r.candidate endpoint parameter).1.toList ++ r.candidates endpoint others := by
  rw [candidate_fst]
  unfold candidates TypeTable.knownTypes
  cases htype : parameter.typeName with
  | none => simp [htype]
  | some typeName =>
      cases hdeclared : r.types.declares typeName with
      | false => simp [htype, hdeclared, Option.filter]
      | true =>
          cases hsource : r.candidateOfType? endpoint typeName <;>
            simp [htype, hdeclared, hsource, Option.filter]

theorem candidates_append (r : Resolver) (endpoint : Endpoint)
    (front back : List HandlerParam) :
    r.candidates endpoint (front ++ back) =
      r.candidates endpoint front ++ r.candidates endpoint back := by
  simp [candidates, TypeTable.knownTypes]

theorem firstDocumenting?_append (r : Resolver) (endpoint : Endpoint) (kind : TagKind)
    (front back : List HandlerParam) :
    r.firstDocumenting? endpoint kind (front ++ back) =
      (r.firstDocumenting? endpoint kind front).or (r.firstDocumenting? endpoint kind back) := by
  simp [firstDocumenting?, candidates_append, List.find?_append]

/-- The block of the handler has no part in what a candidate documents. -/
theorem sourceBlock?_of_documents {r : Resolver} {kind : TagKind} {source : DocSource}
    (h : r.documents kind source = true) (handler : Option DocBlock) :
    r.sourceBlock? handler source = r.sourceBlock? none source := by
  cases source with
  | entityConvention typeName => rfl
  | formRequest typeName => rfl
  | handlerBlock => simp [documents, sourceBlock?, DocSource.typeName?] at h

theorem readSource_eq (r : Resolver) (kind : TagKind) (source : DocSource) (s : Random.Stream) :
    r.readSource kind source s =
      match r.sourceBlock? none source with
      | some block => block.readParams kind s
      | none => ⟨[], s, []⟩ := by
  unfold readSource sourceBlock? readType
  cases source.typeName? with
  | none => rfl
  | some typeName => cases h : r.types.docComment? typeName <;> simp [h]

/-- A source gives no parameter exactly if its comment documents none. -/
theorem readSource_isEmpty (r : Resolver) (kind : TagKind) (source : DocSource)
    (s : Random.Stream) :
    (r.readSource kind source s).params.isEmpty = !r.documents kind source := by
  rw [readSource_eq, documents]
  cases r.sourceBlock? none source with
  | none => rfl
  | some block => exact block.readParams_isEmpty kind s

/-- A candidate that is passed over leaves the stream where it was. -/
theorem readSource_stream {r : Resolver} {kind : TagKind} {source : DocSource}
    (h : r.documents kind source = false) (s : Random.Stream) :
    (r.readSource kind source s).stream = s := by
  rw [readSource_eq]
  rw [documents] at h
  cases hblock : r.sourceBlock? none source with
  | none => rfl
  | some block =>
      have hnone : block.documents kind = false := by simpa [hblock] using h
      exact (DocBlock.readParams_of_not_documents hnone s).2

theorem readSource_params (r : Resolver) (kind : TagKind) (source : DocSource) :
    (r.readSource kind source r.freshStream).params =
      r.freshParams kind (r.sourceBlock? none source) := by
  rw [readSource_eq]
  cases r.sourceBlock? none source <;> rfl

/-! ## Trying the parameters of a handler -/

@[simp] theorem Trial.after_chosen (trial : Trial) (log : Log) :
    (trial.after log).chosen = trial.chosen := rfl

@[simp] theorem Trial.after_foundCandidate (trial : Trial) (log : Log) :
    (trial.after log).foundCandidate = trial.foundCandidate := rfl

@[simp] theorem Trial.after_stream (trial : Trial) (log : Log) :
    (trial.after log).stream = trial.stream := rfl

/-- A parameter that leads to no candidate adds nothing but to the log. -/
theorem tryParams_cons_of_no_candidate {r : Resolver} {endpoint : Endpoint}
    {parameter : HandlerParam} (h : (r.candidate endpoint parameter).1 = none) (kind : TagKind)
    (others : List HandlerParam) (s : Random.Stream) :
    ∃ log, r.tryParams endpoint kind (parameter :: others) s =
      (r.tryParams endpoint kind others s).after log := by
  rw [tryParams]
  generalize r.candidate endpoint parameter = found at h
  obtain ⟨candidate?, log⟩ := found
  cases (h : candidate? = none)
  exact ⟨log, rfl⟩

/-- A candidate that is passed over is remembered only as having been there. -/
theorem tryParams_cons_of_not_documents {r : Resolver} {endpoint : Endpoint} {kind : TagKind}
    {parameter : HandlerParam} {source : DocSource}
    (hcandidate : (r.candidate endpoint parameter).1 = some source)
    (hdocuments : r.documents kind source = false) (others : List HandlerParam)
    (s : Random.Stream) :
    ∃ log, r.tryParams endpoint kind (parameter :: others) s =
      { r.tryParams endpoint kind others s with foundCandidate := true }.after log := by
  have hempty := r.readSource_isEmpty kind source s
  have hstream := readSource_stream hdocuments s
  rw [tryParams]
  generalize r.candidate endpoint parameter = found at hcandidate
  obtain ⟨candidate?, log⟩ := found
  cases (hcandidate : candidate? = some source)
  simp only [hempty, hdocuments, hstream, Bool.not_false, if_true]
  exact ⟨_, rfl⟩

/-- With a candidate that documents the kind the trial is over. -/
theorem tryParams_cons_of_documents {r : Resolver} {endpoint : Endpoint} {kind : TagKind}
    {parameter : HandlerParam} {source : DocSource}
    (hcandidate : (r.candidate endpoint parameter).1 = some source)
    (hdocuments : r.documents kind source = true) (others : List HandlerParam)
    (s : Random.Stream) :
    (r.tryParams endpoint kind (parameter :: others) s).chosen =
      some ⟨source, (r.readSource kind source s).params⟩ := by
  have hempty := r.readSource_isEmpty kind source s
  rw [tryParams]
  generalize r.candidate endpoint parameter = found at hcandidate
  obtain ⟨candidate?, log⟩ := found
  cases (hcandidate : candidate? = some source)
  simp only [hempty, hdocuments, Bool.not_true, Bool.false_eq_true, if_false]

/-- The trial chooses the first candidate that documents the kind, read with the stream as it was.
-/
theorem tryParams_of_documenting {r : Resolver} {endpoint : Endpoint} {kind : TagKind}
    {parameters : List HandlerParam} {source : DocSource}
    (h : r.firstDocumenting? endpoint kind parameters = some source) (s : Random.Stream) :
    (r.tryParams endpoint kind parameters s).chosen =
      some ⟨source, (r.readSource kind source s).params⟩ := by
  induction parameters with
  | nil => simp [firstDocumenting?, candidates, TypeTable.knownTypes] at h
  | cons parameter others ih =>
      rw [firstDocumenting?, candidates_cons] at h
      cases hcandidate : (r.candidate endpoint parameter).1 with
      | none =>
          have hrest : r.firstDocumenting? endpoint kind others = some source := by
            simpa [firstDocumenting?, hcandidate] using h
          obtain ⟨log, hstep⟩ := tryParams_cons_of_no_candidate hcandidate kind others s
          rw [hstep]
          exact ih hrest
      | some candidate =>
          cases hdocuments : r.documents kind candidate with
          | false =>
              have hrest : r.firstDocumenting? endpoint kind others = some source := by
                simpa [firstDocumenting?, hcandidate, hdocuments] using h
              obtain ⟨log, hstep⟩ :=
                tryParams_cons_of_not_documents hcandidate hdocuments others s
              rw [hstep]
              exact ih hrest
          | true =>
              obtain rfl : candidate = source := by simpa [hcandidate, hdocuments] using h
              exact tryParams_cons_of_documents hcandidate hdocuments others s

/-- Where no candidate documents the kind, what is left of the trial is whether there was one. -/
theorem tryParams_of_none_documenting {r : Resolver} {endpoint : Endpoint} {kind : TagKind}
    {parameters : List HandlerParam}
    (h : r.firstDocumenting? endpoint kind parameters = none) (s : Random.Stream) :
    (r.tryParams endpoint kind parameters s).chosen = none ∧
      (r.tryParams endpoint kind parameters s).foundCandidate =
        !(r.candidates endpoint parameters).isEmpty ∧
      (r.tryParams endpoint kind parameters s).stream = s := by
  induction parameters with
  | nil => exact ⟨rfl, rfl, rfl⟩
  | cons parameter others ih =>
      rw [firstDocumenting?, candidates_cons] at h
      rw [candidates_cons]
      cases hcandidate : (r.candidate endpoint parameter).1 with
      | none =>
          have hrest : r.firstDocumenting? endpoint kind others = none := by
            simpa [firstDocumenting?, hcandidate] using h
          obtain ⟨log, hstep⟩ := tryParams_cons_of_no_candidate hcandidate kind others s
          rw [hstep]
          exact ih hrest
      | some candidate =>
          obtain ⟨hdocuments, hrest⟩ : r.documents kind candidate = false ∧
              r.firstDocumenting? endpoint kind others = none := by
            simpa [firstDocumenting?, hcandidate] using h
          obtain ⟨hchosen, -, hstream⟩ := ih hrest
          obtain ⟨log, hstep⟩ := tryParams_cons_of_not_documents hcandidate hdocuments others s
          rw [hstep]
          exact ⟨hchosen, rfl, hstream⟩

/-- What is chosen depends on the stream only where a source is read with it. -/
theorem tryParams_chosen (r : Resolver) (endpoint : Endpoint) (kind : TagKind)
    (parameters : List HandlerParam) (s : Random.Stream) :
    (r.tryParams endpoint kind parameters s).chosen =
      (r.firstDocumenting? endpoint kind parameters).map fun source ↦
        ⟨source, (r.readSource kind source s).params⟩ := by
  cases h : r.firstDocumenting? endpoint kind parameters with
  | none => exact (tryParams_of_none_documenting h s).1
  | some source => exact tryParams_of_documenting h s

/-! ## The answer to a request -/

variable {σ : Type}

/-- A candidate that documents the kind is the answer, and no block is looked up. -/
theorem resolve_of_documenting {r : Resolver} {endpoint : Endpoint} {kind : TagKind}
    {source : DocSource}
    (h : r.firstDocumenting? endpoint kind endpoint.parameters = some source)
    (lookup : BlockLookup σ) (blocks : σ) :
    (r.resolve lookup endpoint kind blocks).outcome =
        .ok ⟨source, r.freshParams kind (r.sourceBlock? none source)⟩ ∧
      (r.resolve lookup endpoint kind blocks).blocks = blocks := by
  have hchosen := tryParams_of_documenting h r.freshStream
  rw [readSource_params] at hchosen
  rw [freshStream] at hchosen
  simp [resolve, hchosen]

/-- Without such a candidate the answer is made from the one block that is looked up. -/
theorem resolve_of_none_documenting {r : Resolver} {endpoint : Endpoint} {kind : TagKind}
    (h : r.firstDocumenting? endpoint kind endpoint.parameters = none)
    (lookup : BlockLookup σ) (blocks : σ) :
    (r.resolve lookup endpoint kind blocks).outcome =
        (if (r.candidates endpoint endpoint.parameters).isEmpty &&
            (lookup endpoint blocks).1.isNone then
          .error (.noSource endpoint.label)
        else .ok ⟨.handlerBlock, r.freshParams kind (lookup endpoint blocks).1⟩) ∧
      (r.resolve lookup endpoint kind blocks).blocks = (lookup endpoint blocks).2 := by
  obtain ⟨hchosen, hfound, hstream⟩ := tryParams_of_none_documenting h r.freshStream
  rw [freshStream] at hchosen hfound hstream
  generalize hlookup : lookup endpoint blocks = found
  obtain ⟨block?, blocks'⟩ := found
  cases block? with
  | some block => simp [resolve, hchosen, hlookup, hstream, freshParams, freshStream]
  | none =>
      cases hcandidates : (r.candidates endpoint endpoint.parameters).isEmpty <;>
        simp [resolve, hchosen, hlookup, hfound, hcandidates, freshParams]

/-- The block of the handler is looked up exactly if no candidate documents the kind. -/
theorem resolve_blocks (r : Resolver) (lookup : BlockLookup σ) (endpoint : Endpoint)
    (kind : TagKind) (blocks : σ) :
    (r.resolve lookup endpoint kind blocks).blocks =
      if (r.candidates endpoint endpoint.parameters).any (r.documents kind) then blocks
      else (lookup endpoint blocks).2 := by
  cases h : r.firstDocumenting? endpoint kind endpoint.parameters with
  | none =>
      have hnone : (r.candidates endpoint endpoint.parameters).any (r.documents kind) = false := by
        simpa using List.find?_eq_none.mp h
      rw [hnone, (resolve_of_none_documenting h lookup blocks).2]
      rfl
  | some source =>
      have hsome : (r.candidates endpoint endpoint.parameters).any (r.documents kind) = true :=
        List.any_eq_true.mpr ⟨source, List.mem_of_find?_eq_some h, List.find?_some h⟩
      rw [hsome, (resolve_of_documenting h lookup blocks).2]
      rfl

/-- One pass over the parameters with an early exit comes to the rule, whatever blocks are looked
up in. -/
theorem resolve_outcome_eq_ruling (r : Resolver) (lookup : BlockLookup σ) (endpoint : Endpoint)
    (kind : TagKind) (blocks : σ) :
    (r.resolve lookup endpoint kind blocks).outcome =
        r.ruling endpoint kind (lookup endpoint blocks).1 ∧
      ∀ request, r.conventionType? endpoint = some request ↔
        r.IsConventionType endpoint request := by
  refine ⟨?_, r.conventionType?_eq_some_iff endpoint⟩
  cases h : r.firstDocumenting? endpoint kind endpoint.parameters with
  | none =>
      rw [(resolve_of_none_documenting h lookup blocks).1]
      simp [ruling, h, sourceBlock?, DocSource.typeName?]
  | some source =>
      have hdocuments : r.documents kind source = true := List.find?_some h
      have hcandidates : (r.candidates endpoint endpoint.parameters).isEmpty = false := by
        simpa using List.ne_nil_of_mem (List.mem_of_find?_eq_some h)
      rw [(resolve_of_documenting h lookup blocks).1]
      simp [ruling, h, hcandidates, sourceBlock?_of_documents hdocuments]

/-- An answer is read from the block of its source, and only the handler may be without one. -/
theorem params_of_resolve_ok {r : Resolver} {lookup : BlockLookup σ} {endpoint : Endpoint}
    {kind : TagKind} {blocks : σ} {resolved : Resolved}
    (h : (r.resolve lookup endpoint kind blocks).outcome = .ok resolved) :
    resolved.params =
        r.freshParams kind (r.sourceBlock? (lookup endpoint blocks).1 resolved.source) ∧
      (r.sourceBlock? (lookup endpoint blocks).1 resolved.source = none →
        resolved.source = .handlerBlock) := by
  cases hfirst : r.firstDocumenting? endpoint kind endpoint.parameters with
  | none =>
      rw [(resolve_of_none_documenting hfirst lookup blocks).1] at h
      split at h
      · cases h
      · cases h
        exact ⟨rfl, fun _ ↦ rfl⟩
  | some source =>
      have hdocuments : r.documents kind source = true := List.find?_some hfirst
      rw [(resolve_of_documenting hfirst lookup blocks).1] at h
      cases h
      have hblock := sourceBlock?_of_documents hdocuments (lookup endpoint blocks).1
      refine ⟨by rw [hblock], fun hnone ↦ ?_⟩
      rw [documents, ← hblock, hnone] at hdocuments
      cases hdocuments

/-- Parameters from which nothing is chosen might as well not be there. -/
theorem tryParams_append_of_not_chosen {r : Resolver} {endpoint : Endpoint} {kind : TagKind}
    {front : List HandlerParam} {s : Random.Stream}
    (h : (r.tryParams endpoint kind front s).chosen = none) (back : List HandlerParam) :
    (r.tryParams endpoint kind front s).stream = s ∧
      (r.tryParams endpoint kind (front ++ back) s).chosen =
        (r.tryParams endpoint kind back s).chosen := by
  have hfront : r.firstDocumenting? endpoint kind front = none := by
    simpa [tryParams_chosen] using h
  refine ⟨(tryParams_of_none_documenting hfront s).2.2, ?_⟩
  simp [tryParams_chosen, firstDocumenting?_append, hfront]

/-- The parameters of an answer are those of its source alone, read with a fresh stream: what was
tried before it has drawn nothing. -/
theorem resolved_params_eq_freshParams {r : Resolver} {lookup : BlockLookup σ}
    {endpoint : Endpoint} {kind : TagKind} {blocks : σ} {resolved : Resolved}
    (h : (r.resolve lookup endpoint kind blocks).outcome = .ok resolved) :
    resolved.params =
        r.freshParams kind (r.sourceBlock? (lookup endpoint blocks).1 resolved.source) ∧
      (r.sourceBlock? (lookup endpoint blocks).1 resolved.source = none →
        resolved.source = .handlerBlock) ∧
      ∀ front back, endpoint.parameters = front ++ back →
        (r.tryParams endpoint kind front r.freshStream).chosen = none →
          (r.tryParams endpoint kind front r.freshStream).stream = r.freshStream ∧
          (r.tryParams endpoint kind endpoint.parameters r.freshStream).chosen =
            (r.tryParams endpoint kind back r.freshStream).chosen := by
  obtain ⟨hparams, hsource⟩ := params_of_resolve_ok h
  refine ⟨hparams, hsource, ?_⟩
  intro front back hsplit hfront
  rw [hsplit]
  exact tryParams_append_of_not_chosen hfront back

/-! ## Two form requests, of which the first documents another kind -/

def titleTag : Tag := ⟨"bodyParam".toList, "title string The title.".toList⟩

/-- The types of the two form requests. -/
def postTypes : TypeTable := [
  ("List".toList, ⟨["Form".toList], [], some "/** @urlParam page The page. */".toList⟩),
  ("Create".toList,
    ⟨["Form".toList], [], some "/** @bodyParam title string The title. */".toList⟩)]

/-- An endpoint whose handler takes both. -/
def postEndpoint : Endpoint where
  route := "POST /posts".toList
  controller := "Posts".toList
  method := "store".toList
  parameters := [⟨"list".toList, some "List".toList⟩, ⟨"request".toList, some "Create".toList⟩]
  docComment := none

def postResolver : Resolver :=
  ofConfig { Config.standard with formRequestBases := ["Form".toList] } postTypes

theorem conventionType?_postEndpoint : postResolver.conventionType? postEndpoint = none := by
  have hparents : postResolver.types.parents (TypeName.canonical postEndpoint.controller) = [] := by
    decide +kernel
  rw [conventionType?, TypeTable.isSubtype_of_parents_eq_nil hparents]
  rfl

theorem candidateOfType?_postEndpoint {typeName : Text}
    (h : "Form".toList ∈ postTypes.parents (TypeName.canonical typeName)) :
    postResolver.candidateOfType? postEndpoint typeName = some (.formRequest typeName) := by
  have hbase : postResolver.config.formRequestBases.any (postTypes.isSubtype typeName) = true :=
    List.any_eq_true.mpr ⟨_, List.mem_singleton_self _, TypeTable.isSubtype_of_mem_parents h⟩
  rw [candidateOfType?, conventionType?_postEndpoint]
  exact if_pos hbase

theorem candidates_postEndpoint :
    postResolver.candidates postEndpoint postEndpoint.parameters =
      [.formRequest "List".toList, .formRequest "Create".toList] := by
  have hknown : postResolver.types.knownTypes postEndpoint.parameters =
      ["List".toList, "Create".toList] := by decide +kernel
  rw [candidates, hknown,
    List.filterMap_cons_some (candidateOfType?_postEndpoint (by decide +kernel)),
    List.filterMap_cons_some (candidateOfType?_postEndpoint (by decide +kernel)),
    List.filterMap_nil]

theorem not_documents_list :
    ¬ postResolver.documents .body (.formRequest "List".toList) = true := by
  decide +kernel

theorem paramName?_titleTag : titleTag.paramName? .body = some "title".toList := by
  rw [Tag.paramName?, Tag.fields?, stripNoExample_eq_self (by decide +kernel)]
  decide +kernel

theorem firstDocumenting?_postEndpoint :
    postResolver.firstDocumenting? postEndpoint .body postEndpoint.parameters =
      some (.formRequest "Create".toList) := by
  have hblock : postResolver.sourceBlock? none (.formRequest "Create".toList) =
      some ⟨[], [titleTag]⟩ := by decide +kernel
  have hcreate : postResolver.documents .body (.formRequest "Create".toList) = true := by
    rw [documents, hblock]
    refine List.any_eq_true.mpr ⟨titleTag, by decide +kernel, ?_⟩
    rw [paramName?_titleTag]
    rfl
  rw [firstDocumenting?, candidates_postEndpoint, List.find?_cons_of_neg not_documents_list,
    List.find?_cons_of_pos hcreate]

/-- The first form request is read and passed over, and the second is read as if it were alone. -/
theorem resolved_params_eq_freshParams_postEndpoint :
    let resolved : Resolved := ⟨.formRequest "Create".toList, postResolver.freshParams .body
      (postResolver.sourceBlock? none (.formRequest "Create".toList))⟩
    let front := postEndpoint.parameters.take 1
    (postResolver.resolve (BlockLookup.constant fun _ ↦ none) postEndpoint .body ()).outcome =
        .ok resolved ∧
      (postResolver.tryParams postEndpoint .body front postResolver.freshStream).stream =
        postResolver.freshStream := by
  intro resolved front
  have houtcome := (resolve_of_documenting firstDocumenting?_postEndpoint
    (BlockLookup.constant fun _ ↦ none) ()).1
  have hfront : postResolver.firstDocumenting? postEndpoint .body front = none := by
    have hknown : postResolver.types.knownTypes front = ["List".toList] := by decide +kernel
    rw [firstDocumenting?, candidates, hknown,
      List.filterMap_cons_some (candidateOfType?_postEndpoint (by decide +kernel)),
      List.filterMap_nil, List.find?_cons_of_neg not_documents_list, List.find?_nil]
  have hchosen := (tryParams_of_none_documenting hfront postResolver.freshStream).1
  obtain ⟨-, -, hfresh⟩ := resolved_params_eq_freshParams houtcome
  exact ⟨houtcome, (hfresh front (postEndpoint.parameters.drop 1) rfl hchosen).1⟩

end Resolver

end EndpointDocs
