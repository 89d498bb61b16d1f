import EndpointDocs.Proofs.SourceRule

/-!
# Transparency of the cache

The block that metadata has for an endpoint depends on the handler alone, which is what the cache
goes by.  So requests that share a cache are answered as if each of them were the only one and the
metadata were asked directly.
-/

namespace EndpointDocs

variable {σ τ : Type}

/-- Blocks that depend on the handler of an endpoint alone. -/
def ByHandler (find : Endpoint → Option DocBlock) : Prop :=
  ∀ endpoint other : Endpoint, endpoint.key = other.key → find endpoint = find other

/-- The metadata goes by the key of an endpoint, as the cache does. -/
theorem Metadata.byHandler_handlerBlock? (metadata : Metadata) :
    ByHandler metadata.handlerBlock? := by
  intro endpoint other hkey
  rw [handlerBlock?, handlerBlock?, hkey]

/-- A lookup that gives what `find` gives, whatever has changed in it. -/
def BlockLookup.Finds (inner : BlockLookup σ) (find : Endpoint → Option DocBlock) : Prop :=
  ∀ endpoint s, (inner endpoint s).1 = find endpoint

theorem BlockLookup.finds_constant (find : Endpoint → Option DocBlock) :
    (constant find).Finds find :=
  fun _ _ ↦ rfl

/-- A cache in which nothing but the block of the handler is found. -/
def BlockCache.Answers (cache : BlockCache) (find : Endpoint → Option DocBlock) : Prop :=
  ∀ endpoint block, cache.get? endpoint.key = some block → block = find endpoint

namespace BlockCache

variable {find : Endpoint → Option DocBlock}

theorem answers_nil (find : Endpoint → Option DocBlock) : Answers [] find := by
  intro endpoint block h
  cases h

theorem Answers.put {cache : BlockCache} (hcache : cache.Answers find) (hfind : ByHandler find) (endpoint : Endpoint) :
    Answers (Table.put cache endpoint.key (find endpoint)) find := by
  intro other block h
  by_cases hkey : other.key = endpoint.key
  · rw [hkey, Table.get?_put_self] at h
    cases h
    exact hfind endpoint other hkey.symm
  · rw [Table.get?_put_of_ne _ _ hkey] at h
    exact hcache other block h

/-- A lookup through such a cache gives the block of the handler, and leaves such a cache. -/
theorem Answers.cached {cache : BlockCache} (hcache : cache.Answers find)
    {inner : BlockLookup σ} (hinner : inner.Finds find) (hfind : ByHandler find)
    (endpoint : Endpoint) (s : σ) :
    (inner.cached endpoint (cache, s)).1 = find endpoint ∧
      Answers (inner.cached endpoint (cache, s)).2.1 find := by
  cases hget : cache.get? endpoint.key with
  | some block =>
      have hblock : block = find endpoint := hcache endpoint block hget
      simpa [BlockLookup.cached, hget, hblock] using hcache
  | none =>
      have hput := hcache.put hfind endpoint
      simpa [BlockLookup.cached, hget, hinner endpoint s] using hput

end BlockCache

namespace Resolver

/-- Of a lookup only the answer for the endpoint counts. -/
theorem resolve_congr (r : Resolver) {lookup : BlockLookup σ} {other : BlockLookup τ}
    {endpoint : Endpoint} {blocks : σ} {otherBlocks : τ}
    (h : (lookup endpoint blocks).1 = (other endpoint otherBlocks).1) (kind : TagKind) :
    (r.resolve lookup endpoint kind blocks).outcome =
        (r.resolve other endpoint kind otherBlocks).outcome ∧
      (r.resolve lookup endpoint kind blocks).log =
        (r.resolve other endpoint kind otherBlocks).log := by
  unfold resolve
  -- The parameters are tried before any block is looked at, so the trial is common to both.
  generalize lookup endpoint blocks = found at h
  generalize other endpoint otherBlocks = otherFound at h
  generalize r.tryParams endpoint kind endpoint.parameters _ = trial
  obtain ⟨block?, after⟩ := found
  obtain ⟨otherBlock?, otherAfter⟩ := otherFound
  obtain rfl : block? = otherBlock? := h
  obtain ⟨chosen, foundCandidate, stream, log⟩ := trial
  cases chosen with
  | some resolved => exact ⟨rfl, rfl⟩
  | none =>
      cases block? with
      | some block => exact ⟨rfl, rfl⟩
      | none => cases foundCandidate <;> exact ⟨rfl, rfl⟩

/-- The answer to a request on its own, with the blocks of the metadata and no cache. -/
def alone (r : Resolver) (metadata : Metadata) (endpoint : Endpoint) (kind : TagKind) :
    Answer Unit :=
  r.resolve (BlockLookup.constant metadata.handlerBlock?) endpoint kind ()

/-- The answers to requests made one after the other, each with the blocks left by the one
before. -/
def answers (r : Resolver) (lookup : BlockLookup σ) :
    List (Endpoint × TagKind) → σ → List (Answer σ)
  | [], _ => []
  | (endpoint, kind) :: requests, blocks =>
    let answer := r.resolve lookup endpoint kind blocks
    answer :: answers r lookup requests answer.blocks

/-- A request through the cache is answered as the request alone, and leaves the cache fit for the
next. -/
theorem resolve_cached (r : Resolver) (metadata : Metadata) {inner : BlockLookup σ}
    (hinner : inner.Finds metadata.handlerBlock?) {cache : BlockCache}
    (hcache : cache.Answers metadata.handlerBlock?) (endpoint : Endpoint) (kind : TagKind) (s : σ) :
    let answer := r.resolve inner.cached endpoint kind (cache, s)
    answer.outcome = (r.alone metadata endpoint kind).outcome ∧
      answer.log = (r.alone metadata endpoint kind).log ∧
      answer.blocks.1.Answers metadata.handlerBlock? := by
  obtain ⟨hanswer, hafter⟩ := hcache.cached hinner metadata.byHandler_handlerBlock? endpoint s
  replace hanswer : (inner.cached endpoint (cache, s)).1 =
      (BlockLookup.constant metadata.handlerBlock? endpoint ()).1 := hanswer
  obtain ⟨houtcome, hlog⟩ := r.resolve_congr hanswer kind
  refine ⟨houtcome, hlog, ?_⟩
  rw [r.resolve_blocks]
  split
  · exact hcache
  · exact hafter

/-- From any cache that gives the right blocks, each of some requests is answered as it is alone. -/
theorem answers_cached (r : Resolver) (metadata : Metadata) {inner : BlockLookup σ}
    (hinner : inner.Finds metadata.handlerBlock?) (requests : List (Endpoint × TagKind))
    {cache : BlockCache} (hcache : cache.Answers metadata.handlerBlock?) (s : σ) :
    (r.answers inner.cached requests (cache, s)).map
        (fun answer ↦ (answer.outcome, answer.log)) =
      requests.map fun request ↦
        ((r.alone metadata request.1 request.2).outcome,
          (r.alone metadata request.1 request.2).log) := by
  induction requests generalizing cache s with
  | nil => rfl
  | cons request requests ih =>
      obtain ⟨endpoint, kind⟩ := request
      obtain ⟨houtcome, hlog, hafter⟩ := r.resolve_cached metadata hinner hcache endpoint kind s
      rw [answers, List.map_cons, List.map_cons, houtcome, hlog]
      exact congrArg _ (ih hafter _)

/-- Requests that share a cache of metadata, for any endpoints and kinds and in any order, are
answered as each of them is alone: what was asked before leaves no trace. -/
theorem answers_cached_eq_alone (r : Resolver) (metadata : Metadata)
    (requests : List (Endpoint × TagKind)) :
    (r.answers (BlockLookup.constant metadata.handlerBlock?).cached requests ([], ())).map
        (fun answer ↦ (answer.outcome, answer.log)) =
      requests.map fun request ↦
        ((r.alone metadata request.1 request.2).outcome,
          (r.alone metadata request.1 request.2).log) :=
  r.answers_cached metadata (BlockLookup.finds_constant _) requests (BlockCache.answers_nil _) ()

end Resolver

end EndpointDocs
