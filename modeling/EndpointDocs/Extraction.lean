import EndpointDocs.Resolution

/-!
# Extraction

The documented parameters of every endpoint of an application.  A failure stays with its endpoint.
-/

namespace EndpointDocs

/-- The documented parameters of one endpoint, for the kinds asked for, and its failures. -/
structure EndpointParams where
  route : Text
  controller : Text
  method : Text
  body : Option ParamMap
  url : Option ParamMap
  errors : List Text

namespace EndpointParams

def ofEndpoint (endpoint : Endpoint) : EndpointParams :=
  ⟨endpoint.route, endpoint.controller, endpoint.method, none, none, []⟩

def setParams (result : EndpointParams) (kind : TagKind) (params : ParamMap) : EndpointParams :=
  match kind with
  | .body => { result with body := some params }
  | .url => { result with url := some params }

/-- The JSON form: what is missing or empty is left out, except for parameters asked for. -/
def toJson (result : EndpointParams) : Json :=
  let params (name : String) (params : Option ParamMap) : List (Text × Json) :=
    params.toList.map fun params ↦ (name.toList, ParamMap.toJson params)
  .object
    ([("route".toList, .text result.route), ("controller".toList, .text result.controller),
        ("method".toList, .text result.method)] ++
      params "bodyParameters" result.body ++ params "urlParameters" result.url ++
      if result.errors.isEmpty then []
      else [("errors".toList, .array (result.errors.map .text))])

end EndpointParams

/-- An extraction under way: what it found, the cache of blocks, and its log. -/
structure Extraction (α : Type) where
  found : α
  cache : BlockCache
  log : Log

namespace Extraction

def addKind (r : Resolver) (find : Endpoint → Option DocBlock) (endpoint : Endpoint)
    (state : Extraction EndpointParams) (kind : TagKind) : Extraction EndpointParams :=
  let answer := r.resolve (BlockLookup.constant find).cached endpoint kind (state.cache, ())
  let log := state.log ++ answer.log
  match answer.outcome with
  | .ok resolved => ⟨state.found.setParams kind resolved.params, answer.blocks.1, log⟩
  | .error error =>
    let tagName := '@' :: kind.tagName
    ⟨{ state.found with
        errors := state.found.errors ++ [tagName ++ ": ".toList ++ error.message] },
      answer.blocks.1, log ++ Log.debug (tagName ++ " extraction failed: ".toList ++ error.message)⟩

def addEndpoint (r : Resolver) (find : Endpoint → Option DocBlock) (kinds : List TagKind)
    (state : Extraction (List EndpointParams)) (endpoint : Endpoint) :
    Extraction (List EndpointParams) :=
  let result := kinds.foldl (addKind r find endpoint)
    ⟨EndpointParams.ofEndpoint endpoint, state.cache, state.log⟩
  ⟨state.found ++ [result.found], result.cache, result.log⟩

end Extraction

/-- The parameters of some kinds of every endpoint, and what there is to say about them. -/
def extractAll (metadata : Metadata) (config : Config) (kinds : List TagKind) :
    List EndpointParams × Log :=
  let r := Resolver.ofConfig config metadata.types
  let result := metadata.endpoints.foldl (Extraction.addEndpoint r metadata.handlerBlock? kinds)
    ⟨[], [], []⟩
  (result.found, result.log)

end EndpointDocs
