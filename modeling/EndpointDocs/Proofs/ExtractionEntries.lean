import EndpointDocs.Extraction
import EndpointDocs.Proofs.CacheTransparency

/-!
# The entries of an extraction

All endpoints and kinds of an extraction share one cache.  Still each entry is made of the outcomes
of the requests for its endpoint alone: a failure is one message in the entry of its endpoint, the
kinds may as well be asked for apart, and the endpoints of other handlers may as well not be there.
-/

namespace EndpointDocs

namespace EndpointParams

def failure (kind : TagKind) (error : DocError) : Text :=
  '@' :: kind.tagName ++ ": ".toList ++ error.message

/-- The parameters of a kind, if it is asked for and the request for it succeeds. -/
def paramsOf? (kinds : List TagKind) (outcome : TagKind → Except DocError Resolved)
    (kind : TagKind) : Option ParamMap :=
  match outcome kind with
  | .ok resolved => if kind ∈ kinds then some resolved.params else none
  | .error _ => none

/-- A message for each request that fails, in the order in which they are made. -/
def failuresOf (kinds : List TagKind) (outcome : TagKind → Except DocError Resolved) :
    List Text :=
  kinds.filterMap fun kind ↦
    match outcome kind with
    | .ok _ => none
    | .error error => some (failure kind error)

/-- The entry of an endpoint, given what comes of a request for each kind. -/
def ofOutcomes (endpoint : Endpoint) (kinds : List TagKind)
    (outcome : TagKind → Except DocError Resolved) : EndpointParams where
  route := endpoint.route
  controller := endpoint.controller
  method := endpoint.method
  body := paramsOf? kinds outcome .body
  url := paramsOf? kinds outcome .url
  errors := failuresOf kinds outcome

/-- An entry with the outcome of one more request. -/
def addOutcome (entry : EndpointParams) (kind : TagKind) :
    Except DocError Resolved → EndpointParams
  | .ok resolved => entry.setParams kind resolved.params
  | .error error => { entry with errors := entry.errors ++ [failure kind error] }

/-- Two entries of one endpoint, for kinds asked for one after the other. -/
def join (entry later : EndpointParams) : EndpointParams :=
  { entry with
    body := entry.body.or later.body
    url := entry.url.or later.url
    errors := entry.errors ++ later.errors }

theorem ofOutcomes_nil (endpoint : Endpoint) (outcome : TagKind → Except DocError Resolved) :
    ofOutcomes endpoint [] outcome = ofEndpoint endpoint := by
  cases hbody : outcome .body <;> cases hurl : outcome .url <;>
    simp [ofOutcomes, ofEndpoint, paramsOf?, failuresOf, hbody, hurl]

theorem paramsOf?_append (kinds more : List TagKind)
    (outcome : TagKind → Except DocError Resolved) (kind : TagKind) :
    paramsOf? (kinds ++ more) outcome kind =
      (paramsOf? kinds outcome kind).or (paramsOf? more outcome kind) := by
  unfold paramsOf?
  cases outcome kind with
  | error error => rfl
  | ok resolved => by_cases h : kind ∈ kinds <;> simp [h]

/-- The entry for some kinds and more is the entry for the kinds joined with that for the others. -/
theorem ofOutcomes_append (endpoint : Endpoint) (kinds more : List TagKind)
    (outcome : TagKind → Except DocError Resolved) :
    ofOutcomes endpoint (kinds ++ more) outcome =
      (ofOutcomes endpoint kinds outcome).join (ofOutcomes endpoint more outcome) := by
  simp [ofOutcomes, join, paramsOf?_append, failuresOf]

/-- A request that succeeds takes the place of an earlier one of its kind, which has come to the
same. -/
theorem ofOutcomes_append_singleton (endpoint : Endpoint) (kinds : List TagKind) (kind : TagKind)
    (outcome : TagKind → Except DocError Resolved) :
    ofOutcomes endpoint (kinds ++ [kind]) outcome =
      (ofOutcomes endpoint kinds outcome).addOutcome kind (outcome kind) := by
  cases h : outcome kind with
  | error error =>
      have hparams (other : TagKind) :
          paramsOf? (kinds ++ [kind]) outcome other = paramsOf? kinds outcome other := by
        by_cases heq : other = kind
        · simp [paramsOf?, heq, h]
        · simp [paramsOf?, heq]
      simp [ofOutcomes, addOutcome, hparams, failuresOf, h]
  | ok resolved =>
      have hself : paramsOf? (kinds ++ [kind]) outcome kind = some resolved.params := by
        simp [paramsOf?, h]
      have hother {other : TagKind} (hne : other ≠ kind) :
          paramsOf? (kinds ++ [kind]) outcome other = paramsOf? kinds outcome other := by
        simp [paramsOf?, hne]
      cases kind with
      | body => simp [ofOutcomes, addOutcome, setParams, hself, hother, failuresOf, h]
      | url => simp [ofOutcomes, addOutcome, setParams, hself, hother, failuresOf, h]

end EndpointParams

namespace Metadata

/-- The entry of an endpoint, from the requests for it alone. -/
def entryAlone (metadata : Metadata) (config : Config) (kinds : List TagKind)
    (endpoint : Endpoint) : EndpointParams :=
  EndpointParams.ofOutcomes endpoint kinds fun kind ↦
    ((Resolver.ofConfig config metadata.types).alone metadata endpoint kind).outcome

/-- The metadata with the endpoints of some handlers only. -/
def restrict (metadata : Metadata) (keep : Text → Bool) : Metadata :=
  { metadata with endpoints := metadata.endpoints.filter fun endpoint ↦ keep endpoint.key }

theorem handlerBlock?_restrict (metadata : Metadata) {keep : Text → Bool} {endpoint : Endpoint}
    (h : keep endpoint.key = true) :
    (metadata.restrict keep).handlerBlock? endpoint = metadata.handlerBlock? endpoint := by
  have hsame (other : Endpoint) :
      keep other.key = true ∧ (other.key == endpoint.key) = true ↔
        (other.key == endpoint.key) = true := by
    by_cases hkey : other.key = endpoint.key <;> simp [hkey, h]
  simp only [handlerBlock?, endpoint?, restrict, List.find?_filter, hsame, Bool.decide_eq_true]

/-- Endpoints of other handlers make no difference to an entry. -/
theorem entryAlone_restrict (metadata : Metadata) {keep : Text → Bool} (config : Config)
    (kinds : List TagKind) {endpoint : Endpoint} (h : keep endpoint.key = true) :
    (metadata.restrict keep).entryAlone config kinds endpoint =
      metadata.entryAlone config kinds endpoint := by
  have hblock : (BlockLookup.constant (metadata.restrict keep).handlerBlock? endpoint ()).1 =
      (BlockLookup.constant metadata.handlerBlock? endpoint ()).1 :=
    metadata.handlerBlock?_restrict h
  unfold entryAlone
  congr 1
  funext kind
  exact ((Resolver.ofConfig config metadata.types).resolve_congr hblock kind).1

end Metadata

namespace Extraction

variable {metadata : Metadata} (config : Config)

/-- A request under way adds to an entry what it comes to alone, and leaves the cache fit. -/
theorem addKind_alone {state : Extraction EndpointParams}
    (hcache : state.cache.Answers metadata.handlerBlock?) (endpoint : Endpoint) (kind : TagKind) :
    let r := Resolver.ofConfig config metadata.types
    let after := addKind r metadata.handlerBlock? endpoint state kind
    after.found = state.found.addOutcome kind (r.alone metadata endpoint kind).outcome ∧
      after.cache.Answers metadata.handlerBlock? := by
  intro r after
  obtain ⟨houtcome, -, hafter⟩ :=
    r.resolve_cached metadata (BlockLookup.finds_constant _) hcache endpoint kind ()
  subst after
  rw [← houtcome]
  unfold addKind
  generalize r.resolve _ endpoint kind (state.cache, ()) = answer at hafter ⊢
  obtain ⟨outcome, blocks, log⟩ := answer
  cases outcome with
  | ok resolved => exact ⟨rfl, hafter⟩
  | error error => exact ⟨rfl, hafter⟩

/-- After some requests for an endpoint, its entry is the one of these requests alone. -/
theorem foldl_addKind_alone {cache : BlockCache}
    (hcache : cache.Answers metadata.handlerBlock?) (endpoint : Endpoint) (kinds : List TagKind)
    (log : Log) :
    let after := kinds.foldl
      (addKind (Resolver.ofConfig config metadata.types) metadata.handlerBlock? endpoint)
      ⟨EndpointParams.ofEndpoint endpoint, cache, log⟩
    after.found = metadata.entryAlone config kinds endpoint ∧
      after.cache.Answers metadata.handlerBlock? := by
  induction kinds using List.reverseRecOn with
  | nil => exact ⟨(EndpointParams.ofOutcomes_nil ..).symm, hcache⟩
  | append_singleton kinds kind ih =>
      obtain ⟨hfound, hafter⟩ := ih
      obtain ⟨hstep, hcache'⟩ := addKind_alone config hafter endpoint kind
      simp only [List.foldl_append, List.foldl_cons, List.foldl_nil]
      refine ⟨?_, hcache'⟩
      rw [hstep, hfound]
      exact (EndpointParams.ofOutcomes_append_singleton ..).symm

/-- After some endpoints, their entries are those of each alone. -/
theorem foldl_addEndpoint_alone (kinds : List TagKind) (endpoints : List Endpoint) :
    let after := endpoints.foldl
      (addEndpoint (Resolver.ofConfig config metadata.types) metadata.handlerBlock? kinds)
      ⟨[], [], []⟩
    after.found = endpoints.map (metadata.entryAlone config kinds) ∧
      after.cache.Answers metadata.handlerBlock? := by
  induction endpoints using List.reverseRecOn with
  | nil => exact ⟨rfl, BlockCache.answers_nil _⟩
  | append_singleton endpoints endpoint ih =>
      obtain ⟨hfound, hafter⟩ := ih
      simp only [List.foldl_append, List.foldl_cons, List.foldl_nil, addEndpoint]
      obtain ⟨hentry, hcache⟩ := foldl_addKind_alone config hafter endpoint kinds _
      refine ⟨?_, hcache⟩
      rw [hfound, hentry, List.map_append]
      rfl

end Extraction

/-- An extraction has the entries of the endpoints alone, in order.  So the entries for kinds asked
for together are those for the kinds asked for apart, and stay the same where other handlers are
left out. -/
theorem extractAll_eq_entries (metadata : Metadata) (config : Config) (kinds more : List TagKind)
    (keep : Text → Bool) :
    (extractAll metadata config kinds).1 =
        metadata.endpoints.map (metadata.entryAlone config kinds) ∧
      (extractAll metadata config (kinds ++ more)).1 =
        List.zipWith EndpointParams.join (extractAll metadata config kinds).1
          (extractAll metadata config more).1 ∧
      (extractAll (metadata.restrict keep) config kinds).1 =
        (metadata.restrict keep).endpoints.map (metadata.entryAlone config kinds) := by
  have hentries (metadata : Metadata) (kinds : List TagKind) :
      (extractAll metadata config kinds).1 =
        metadata.endpoints.map (metadata.entryAlone config kinds) :=
    (Extraction.foldl_addEndpoint_alone config kinds metadata.endpoints).1
  refine ⟨hentries metadata kinds, ?_, ?_⟩
  · rw [hentries, hentries, hentries, List.zipWith_map, List.zipWith_self]
    refine List.map_congr_left fun endpoint _ ↦ ?_
    exact EndpointParams.ofOutcomes_append endpoint kinds more _
  · rw [hentries]
    refine List.map_congr_left fun endpoint hmem ↦ ?_
    exact metadata.entryAlone_restrict config kinds (List.mem_filter.mp hmem).2

end EndpointDocs
