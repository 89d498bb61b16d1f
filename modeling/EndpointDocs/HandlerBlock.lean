import EndpointDocs.DocBlock
import EndpointDocs.Metadata

/-!
# Blocks of handlers

The documentation block of an endpoint's handler, looked up in the metadata or through a cache.  The
cache keeps the first answer for each handler, also when that answer is that there is no block.
-/

namespace EndpointDocs

/-- A way to look up the block of a handler, in which something of type `σ` may change. -/
abbrev BlockLookup (σ : Type) := Endpoint → σ → Option DocBlock × σ

/-- The block of the first endpoint with the same handler. -/
def Metadata.handlerBlock? (metadata : Metadata) (endpoint : Endpoint) : Option DocBlock :=
  ((metadata.endpoint? endpoint.key).bind (·.docComment)).map DocBlock.ofComment

def BlockLookup.constant (find : Endpoint → Option DocBlock) : BlockLookup Unit :=
  fun endpoint s ↦ (find endpoint, s)

/-- The lookup of an answer that is always the same, counting the lookups. -/
def BlockLookup.counted (find : Endpoint → Option DocBlock) : BlockLookup Nat :=
  fun endpoint count ↦ (find endpoint, count + 1)

/-- The answers kept for handlers, by key. -/
abbrev BlockCache := Table (Option DocBlock)

/-- A lookup that asks another one once for each handler. -/
def BlockLookup.cached {σ : Type} (inner : BlockLookup σ) : BlockLookup (BlockCache × σ) :=
  fun endpoint (cache, s) ↦
    match cache.get? endpoint.key with
    | some block => (block, cache, s)
    | none =>
      let (block, s) := inner endpoint s
      (block, cache.put endpoint.key block, s)

end EndpointDocs
