import EndpointDocs.Resolution

/-!
# Sessions

A run of requests against one application whose types and comments may change in between.  Blocks
are looked up in a copy of the metadata of its own, directly or through a cache that outlives the
changes.
-/

namespace EndpointDocs

structure Session where
  config : Config
  /-- The metadata in which types are looked up. -/
  metadata : Metadata
  /-- The endpoints in which blocks are looked up. -/
  documented : List Endpoint
  cache : BlockCache
  /-- How many lookups have reached the documented endpoints. -/
  calls : Nat

namespace Session

def start (config : Config) (metadata : Metadata) : Session :=
  ⟨config, metadata, metadata.endpoints, [], 0⟩

/-- The lookup of blocks as the documented endpoints are now, counting the lookups. -/
def direct (session : Session) : BlockLookup Nat :=
  BlockLookup.counted ({ session.metadata with endpoints := session.documented }).handlerBlock?

def withBlocks (session : Session) (blocks : BlockCache × Nat) : Session :=
  { session with cache := blocks.1, calls := blocks.2 }

def lookup (session : Session) (uncached : Bool) : BlockLookup (BlockCache × Nat) :=
  if uncached then
    fun endpoint (cache, calls) ↦
      let (block, calls) := session.direct endpoint calls
      (block, cache, calls)
  else session.direct.cached

def block (session : Session) (uncached : Bool) (endpoint : Endpoint) :
    Option DocBlock × Session :=
  let (block, blocks) := session.lookup uncached endpoint (session.cache, session.calls)
  (block, session.withBlocks blocks)

def resolve (session : Session) (uncached : Bool) (endpoint : Endpoint) (kind : TagKind) :
    Except DocError Resolved × Log × Session :=
  let answer := (Resolver.ofConfig session.config session.metadata.types).resolve
    (session.lookup uncached) endpoint kind (session.cache, session.calls)
  (answer.outcome, answer.log, session.withBlocks answer.blocks)

/-- Changes the comment of a handler where blocks are looked up, and says whether the handler is
there.  What the cache holds stays. -/
def setComment (session : Session) (key : Text) (comment : Option Text) : Bool × Session :=
  (session.documented.any fun endpoint ↦ endpoint.key == key,
    { session with documented := Metadata.setComment key comment session.documented })

/-- Declares a type, or takes its declaration away, and says whether there was one. -/
def setType (session : Session) (name : Text) (info : Option TypeInfo) : Bool × Session :=
  let types := session.metadata.types
  let name := TypeName.canonical name
  let changed := match info with
    | some info => types.put name info
    | none => types.erase name
  let metadata := { session.metadata with types := changed }
  ((types.get? name).isSome, { session with metadata := metadata })

def setSeed (session : Session) (seed : UInt64) : Session :=
  { session with config := { session.config with exampleSeed := seed } }

end Session

end EndpointDocs
