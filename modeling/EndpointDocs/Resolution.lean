import EndpointDocs.Ancestry
import EndpointDocs.Config
import EndpointDocs.HandlerBlock
import EndpointDocs.Param.OfTag

/-!
# Where the parameters of an endpoint are documented

For an endpoint and a kind of tags, the parameters of the handler are tried in order.  One with a
known type leads to the request type of the entity convention, if the controller follows that
convention, and else to its own type, if that is a form request.  The first such type with a tag of
the kind is the source, and without one it is the block of the handler.  Sources are never merged.
-/

namespace EndpointDocs

inductive DocSource where
  | entityConvention (typeName : Text)
  | formRequest (typeName : Text)
  | handlerBlock
deriving DecidableEq, Repr

namespace DocSource

def typeName? : DocSource → Option Text
  | entityConvention name => some name
  | formRequest name => some name
  | handlerBlock => none

def label : DocSource → Text
  | entityConvention name => "entity convention (".toList ++ name ++ ")".toList
  | formRequest name => "form request (".toList ++ name ++ ")".toList
  | handlerBlock => "handler doc block".toList

end DocSource

structure Resolved where
  source : DocSource
  params : ParamMap

/-- What decides about sources: the conventions, the declared types and the naming of request
types. -/
structure Resolver where
  config : Config
  types : TypeTable
  naming : RequestNaming

namespace Resolver

def ofConfig (config : Config) (types : TypeTable) : Resolver :=
  ⟨config, types, config.naming⟩

def about (endpoint : Endpoint) (message : Text) : Text :=
  endpoint.label ++ ": ".toList ++ message

def entity? (r : Resolver) (endpoint : Endpoint) : Option Text :=
  (r.types.info? endpoint.controller).bind (·.staticText? r.config.entityProperty)

def requestNames (r : Resolver) (endpoint : Endpoint) (entity : Text) : List Text :=
  r.naming.possibleRequests (r.naming.namespaceFor entity) (TypeName.short entity)
    (r.config.actionFor endpoint.method)

/-- The request type of the entity convention: the first declared one of its possible names. -/
def entityRequest (r : Resolver) (endpoint : Endpoint) : Option Text × Log :=
  if r.types.isSubtype endpoint.controller r.config.entityController then
    match r.entity? endpoint with
    | some entity => ((r.requestNames endpoint entity).find? r.types.declares, [])
    | none =>
      (none, Log.debug (about endpoint ("entity controller without a '".toList ++
        r.config.entityProperty ++ "' property".toList)))
  else (none, [])

def isFormRequest (r : Resolver) (typeName : Text) : Bool :=
  r.config.formRequestBases.any (r.types.isSubtype typeName)

/-- The source that a parameter of the handler leads to. -/
def candidate (r : Resolver) (endpoint : Endpoint) (parameter : HandlerParam) :
    Option DocSource × Log :=
  match parameter.typeName with
  | none => (none, [])
  | some typeName =>
    if !r.types.declares typeName then
      (none, Log.debug (about endpoint (DocError.unknownType parameter.name typeName).message))
    else
      match r.entityRequest endpoint with
      | (some request, log) => (some (.entityConvention request), log)
      | (none, log) =>
        (if r.isFormRequest typeName then some (.formRequest typeName) else none, log)

/-- The parameters in the comment of a type; a type without a comment has none. -/
def readType (r : Resolver) (kind : TagKind) (typeName : Text) (s : Random.Stream) : BlockParams :=
  match r.types.docComment? typeName with
  | some comment => (DocBlock.ofComment comment).readParams kind s
  | none => ⟨[], s, []⟩

def readSource (r : Resolver) (kind : TagKind) (source : DocSource) (s : Random.Stream) :
    BlockParams :=
  match source.typeName? with
  | some typeName => r.readType kind typeName s
  | none => ⟨[], s, []⟩

/-- What came of trying the parameters of a handler. -/
structure Trial where
  /-- The first source with a tag of the kind. -/
  chosen : Option Resolved
  /-- Whether any parameter led to a source. -/
  foundCandidate : Bool
  stream : Random.Stream
  log : Log

def Trial.after (trial : Trial) (log : Log) : Trial :=
  { trial with log := log ++ trial.log }

def tryParams (r : Resolver) (endpoint : Endpoint) (kind : TagKind) :
    List HandlerParam → Random.Stream → Trial
  | [], s => ⟨none, false, s, []⟩
  | parameter :: others, s =>
    match r.candidate endpoint parameter with
    | (none, log) => (tryParams r endpoint kind others s).after log
    | (some source, log) =>
      let read := r.readSource kind source s
      let tagName := '@' :: kind.tagName
      if read.params.isEmpty then
        let trial := tryParams r endpoint kind others read.stream
        { trial with foundCandidate := true }.after (log ++ read.log ++
          Log.trace (about endpoint ("no ".toList ++ tagName ++ " tags in ".toList ++
            source.label)))
      else
        ⟨some ⟨source, read.params⟩, true, read.stream, log ++ read.log ++
          Log.debug (about endpoint (tagName ++ " tags from ".toList ++ source.label))⟩

/-- The answer to a request, what changed in the lookup of blocks, and what there is to say. -/
structure Answer (σ : Type) where
  outcome : Except DocError Resolved
  blocks : σ
  log : Log

/-- The parameters of a kind that are documented for an endpoint.  The block of the handler is
looked up only where no parameter leads to a source with a tag of the kind. -/
def resolve {σ : Type} (r : Resolver) (lookup : BlockLookup σ) (endpoint : Endpoint)
    (kind : TagKind) (blocks : σ) : Answer σ :=
  let trial := r.tryParams endpoint kind endpoint.parameters
    (Random.Stream.ofSeed r.config.exampleSeed)
  match trial.chosen with
  | some resolved => ⟨.ok resolved, blocks, trial.log⟩
  | none =>
    let (block, blocks) := lookup endpoint blocks
    match block with
    | some block =>
      let read := block.readParams kind trial.stream
      ⟨.ok ⟨.handlerBlock, read.params⟩, blocks, trial.log ++ read.log⟩
    | none =>
      if trial.foundCandidate then ⟨.ok ⟨.handlerBlock, []⟩, blocks, trial.log⟩
      else ⟨.error (.noSource endpoint.label), blocks, trial.log⟩

end Resolver

end EndpointDocs
