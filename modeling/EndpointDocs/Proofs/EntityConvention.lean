import EndpointDocs.Proofs.CacheTransparency

/-!
# The entity convention

Where the convention names a request type, every parameter of a known type leads to that type and to
no other.  So of the parameters of the handler it only counts whether one has a known type: not
which, how many or in what order, and no form request among them is looked at.
-/

namespace EndpointDocs

namespace Resolver

variable {r : Resolver} {endpoint : Endpoint} {request : Text}

/-- What comes of a request where the convention names a type: the parameters of that type, if its
comment documents the kind, and else those of the handler. -/
def conventionAnswer (r : Resolver) (metadata : Metadata) (endpoint : Endpoint) (kind : TagKind)
    (request : Text) : Resolved :=
  let source := DocSource.entityConvention request
  if r.documents kind source then ⟨source, r.freshParams kind (r.sourceBlock? none source)⟩
  else ⟨.handlerBlock, r.freshParams kind (metadata.handlerBlock? endpoint)⟩

theorem conventionAnswer_source (r : Resolver) (metadata : Metadata) (endpoint : Endpoint)
    (kind : TagKind) (request : Text) :
    (r.conventionAnswer metadata endpoint kind request).source = .entityConvention request ∨
      (r.conventionAnswer metadata endpoint kind request).source = .handlerBlock := by
  simp only [conventionAnswer]
  split
  · exact .inl rfl
  · exact .inr rfl

/-- The convention leads every parameter of a known type to the same source. -/
theorem candidates_of_conventionType? (h : r.conventionType? endpoint = some request)
    (parameters : List HandlerParam) :
    r.candidates endpoint parameters =
      List.replicate (r.types.knownTypes parameters).length (.entityConvention request) := by
  have hcandidate : r.candidateOfType? endpoint = fun _ ↦ some (.entityConvention request) := by
    funext typeName
    rw [candidateOfType?, h]
  rw [candidates, hcandidate, List.filterMap_eq_map', List.map_const']

/-- The type of the convention is read again for each parameter of a known type, to the same end. -/
theorem firstDocumenting?_of_conventionType? (h : r.conventionType? endpoint = some request)
    {parameters : List HandlerParam} (hknown : r.types.knownTypes parameters ≠ [])
    (kind : TagKind) :
    r.firstDocumenting? endpoint kind parameters =
      if r.documents kind (.entityConvention request) then some (.entityConvention request)
      else none := by
  have hlength : (r.types.knownTypes parameters).length ≠ 0 := by simpa using hknown
  rw [firstDocumenting?, candidates_of_conventionType? h, List.find?_replicate, if_neg hlength]

/-- Where the convention names a type, a request comes to the answer of the convention. -/
theorem alone_of_conventionType? (metadata : Metadata) (endpoint : Endpoint)
    (h : r.conventionType? endpoint = some request)
    (hknown : r.types.knownTypes endpoint.parameters ≠ []) (kind : TagKind) :
    (r.alone metadata endpoint kind).outcome =
      .ok (r.conventionAnswer metadata endpoint kind request) := by
  have hfirst := firstDocumenting?_of_conventionType? h hknown kind
  cases hdocuments : r.documents kind (.entityConvention request) with
  | true =>
      rw [hdocuments, if_pos rfl] at hfirst
      rw [alone, (resolve_of_documenting hfirst _ _).1, conventionAnswer, hdocuments, if_pos rfl]
  | false =>
      rw [hdocuments, if_neg Bool.false_ne_true] at hfirst
      have hcandidates : (r.candidates endpoint endpoint.parameters).isEmpty = false := by
        rw [candidates_of_conventionType? h]
        simpa using hknown
      rw [alone, (resolve_of_none_documenting hfirst _ _).1, conventionAnswer, hdocuments,
        hcandidates]
      rfl

theorem alone_of_knownTypes_eq_nil (r : Resolver) (metadata : Metadata) (endpoint : Endpoint)
    {parameters : List HandlerParam} (h : r.types.knownTypes parameters = []) (kind : TagKind) :
    (r.alone metadata { endpoint with parameters := parameters } kind).outcome =
      (r.alone metadata { endpoint with parameters := [] } kind).outcome := by
  have hcandidates : r.candidates { endpoint with parameters := parameters } parameters = [] := by
    rw [candidates, h, List.filterMap_nil]
  have hfirst : r.firstDocumenting? { endpoint with parameters := parameters } kind parameters =
      none := by
    rw [firstDocumenting?, hcandidates, List.find?_nil]
  have hfirst' : r.firstDocumenting? { endpoint with parameters := [] } kind [] = none := rfl
  rw [alone, alone, (resolve_of_none_documenting hfirst _ _).1,
    (resolve_of_none_documenting hfirst' _ _).1, hcandidates]
  rfl

/-- Where the convention names a request type, any parameters with a known type among them lead to
one and the same answer, from that type or from the handler.  Parameters without a known type lead
to the answer for no parameters at all. -/
theorem alone_eq_of_entityRequest (metadata : Metadata)
    (h : (r.entityRequest endpoint).1 = some request) (kind : TagKind) :
    let outcome (parameters : List HandlerParam) :=
      (r.alone metadata { endpoint with parameters := parameters } kind).outcome
    (∀ parameters others, r.types.knownTypes parameters ≠ [] → r.types.knownTypes others ≠ [] →
        outcome parameters = outcome others) ∧
      (∀ parameters, r.types.knownTypes parameters ≠ [] →
        ∃ resolved, outcome parameters = .ok resolved ∧
          (resolved.source = .entityConvention request ∨ resolved.source = .handlerBlock)) ∧
      ∀ parameters, r.types.knownTypes parameters = [] → outcome parameters = outcome [] := by
  intro outcome
  rw [entityRequest_fst] at h
  -- The convention looks at the controller and the method, so it names the same type throughout.
  have hanswer (parameters : List HandlerParam) (hknown : r.types.knownTypes parameters ≠ []) :
      outcome parameters = .ok (r.conventionAnswer metadata endpoint kind request) :=
    alone_of_conventionType? metadata { endpoint with parameters := parameters } h hknown kind
  refine ⟨?_, ?_, ?_⟩
  · intro parameters others hparameters hothers
    rw [hanswer parameters hparameters, hanswer others hothers]
  · intro parameters hknown
    exact ⟨_, hanswer parameters hknown, r.conventionAnswer_source metadata endpoint kind request⟩
  · intro parameters hnone
    exact r.alone_of_knownTypes_eq_nil metadata endpoint hnone kind

/-! ## A form request that the convention overrules -/

/-- The types of an application with an entity controller and a form request. -/
def articleTypes : TypeTable := [
  ("Articles".toList,
    ⟨["Entities".toList], [("entity".toList, .text "Article".toList)], none⟩),
  ("App\\Http\\Requests\\Article\\CreateRequest".toList,
    ⟨[], [], some "/** @bodyParam title string The title. */".toList⟩),
  ("Search".toList, ⟨["Form".toList], [], some "/** @bodyParam words array */".toList⟩)]

def articleResolver : Resolver :=
  ofConfig { Config.standard with
    entityController := "Entities".toList
    formRequestBases := ["Form".toList] } articleTypes

def articleEndpoint : Endpoint where
  route := "POST /articles".toList
  controller := "Articles".toList
  method := "store".toList
  parameters := []
  docComment := none

theorem entityRequest_articleEndpoint :
    (articleResolver.entityRequest articleEndpoint).1 =
      some "App\\Http\\Requests\\Article\\CreateRequest".toList := by
  have hcontroller : articleResolver.types.isSubtype articleEndpoint.controller
      articleResolver.config.entityController = true :=
    TypeTable.isSubtype_of_mem_parents (by decide +kernel)
  rw [entityRequest_fst, conventionType?, if_pos hcontroller]
  decide +kernel

/-- The form request comes first, or last and twice; then there is only a type that is not
declared. -/
theorem alone_eq_of_entityRequest_articleEndpoint :
    let metadata : Metadata := ⟨articleTypes, [articleEndpoint]⟩
    let search : HandlerParam := ⟨"search".toList, some "Search".toList⟩
    let article : HandlerParam := ⟨"article".toList, some "Articles".toList⟩
    let unknown : HandlerParam := ⟨"other".toList, some "Other".toList⟩
    let request := "App\\Http\\Requests\\Article\\CreateRequest".toList
    let outcome (parameters : List HandlerParam) := (articleResolver.alone metadata
      { articleEndpoint with parameters := parameters } .body).outcome
    (articleResolver.entityRequest articleEndpoint).1 = some request ∧
      outcome [search, unknown] = outcome [unknown, article, search, search] ∧
      (∃ resolved, outcome [search, unknown] = .ok resolved ∧
        (resolved.source = .entityConvention request ∨ resolved.source = .handlerBlock)) ∧
      outcome [unknown] = outcome [] := by
  intro metadata search article unknown request outcome
  obtain ⟨hsame, hsource, hnone⟩ :=
    alone_eq_of_entityRequest metadata entityRequest_articleEndpoint .body
  have hknown : articleTypes.knownTypes [search, unknown] ≠ [] := by decide +kernel
  have hothers : articleTypes.knownTypes [unknown, article, search, search] ≠ [] := by
    decide +kernel
  have hunknown : articleTypes.knownTypes [unknown] = [] := by decide +kernel
  exact ⟨entityRequest_articleEndpoint, hsame _ _ hknown hothers, hsource _ hknown,
    hnone _ hunknown⟩

end Resolver

end EndpointDocs
