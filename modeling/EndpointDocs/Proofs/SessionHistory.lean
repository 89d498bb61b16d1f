import EndpointDocs.Session
import EndpointDocs.Proofs.CacheHistory
import EndpointDocs.Proofs.CacheTransparency

/-!
# The history of a session

What happens to the cache of a session is what may happen to any cache in use: the lookups and
requests that go through it, and changes of the blocks behind it for all other steps.  So what is
known of a cache in use holds of a session, and requests with no change in between are answered as
each of them alone.
-/

namespace EndpointDocs

/-- The lookup in metadata that may become other metadata, counting the lookups. -/
def BlockLookup.current : BlockLookup (Metadata × Nat) :=
  fun endpoint (metadata, calls) ↦ (metadata.handlerBlock? endpoint, metadata, calls + 1)

/-- What may be done in a session. -/
inductive SessionStep where
  | block (uncached : Bool) (endpoint : Endpoint)
  | resolve (uncached : Bool) (endpoint : Endpoint) (kind : TagKind)
  | setComment (key : Text) (comment : Option Text)
  | setType (name : Text) (info : Option TypeInfo)
  | setSeed (seed : UInt64)

/-- Whether a step goes past the cache. -/
def SessionStep.uncached : SessionStep → Bool
  | block uncached _ => uncached
  | resolve uncached _ _ => uncached
  | _ => false

namespace Session

open BlockLookup (current)

def step (session : Session) : SessionStep → Session
  | .block uncached endpoint => (session.block uncached endpoint).2
  | .resolve uncached endpoint kind => (session.resolve uncached endpoint kind).2.2
  | .setComment key comment => (session.setComment key comment).2
  | .setType name info => (session.setType name info).2
  | .setSeed seed => session.setSeed seed

def after (session : Session) (steps : List SessionStep) : Session :=
  steps.foldl step session

def handlers (session : Session) : Metadata :=
  { session.metadata with endpoints := session.documented }

def resolver (session : Session) : Resolver :=
  Resolver.ofConfig session.config session.metadata.types

/-- What a step of a session is to its cache. -/
def cacheStep (session : Session) : SessionStep → CacheStep (Metadata × Nat)
  | .block false endpoint => .lookup endpoint
  | .resolve false endpoint kind => .resolve session.resolver endpoint kind
  | s => .change ((session.step s).handlers, (session.step s).calls)

def cacheSteps (session : Session) : List SessionStep → List (CacheStep (Metadata × Nat))
  | [] => []
  | s :: steps => session.cacheStep s :: (session.step s).cacheSteps steps

/-- A session is at the place that a cache in use has come to. -/
structure Follows (session : Session) (run : CacheRun (Metadata × Nat)) : Prop where
  cache_eq : run.cache = session.cache
  blocks_eq : run.blocks = (session.handlers, session.calls)

variable {session : Session} {run : CacheRun (Metadata × Nat)}

theorem follows_start (config : Config) (metadata : Metadata) :
    (start config metadata).Follows (CacheRun.start (metadata, 0)) where
  cache_eq := rfl
  blocks_eq := rfl

theorem follows_itself (session : Session) :
    session.Follows ⟨session.cache, [], [], (session.handlers, session.calls)⟩ where
  cache_eq := rfl
  blocks_eq := rfl

/-- A lookup through the cache of a session is one through the cache in use. -/
theorem Follows.lookup (h : session.Follows run) (endpoint : Endpoint) :
    (session.withBlocks
      (session.lookup false endpoint (session.cache, session.calls)).2).Follows
        (current.watched endpoint run).2 := by
  obtain ⟨cache, visits, misses, blocks⟩ := run
  obtain ⟨hcache, hblocks⟩ := h
  obtain rfl : cache = session.cache := hcache
  obtain rfl : blocks = (session.handlers, session.calls) := hblocks
  cases hget : session.cache.get? endpoint.key with
  | some block =>
      rw [CacheRun.watched_of_get?_eq_some hget]
      constructor <;> simp [lookup, BlockLookup.cached, hget, withBlocks, handlers]
  | none =>
      rw [CacheRun.watched_of_get?_eq_none hget]
      constructor <;> simp [lookup, BlockLookup.cached, hget, withBlocks, handlers, direct,
        BlockLookup.counted, current]

/-- What goes past the cache leaves it as it is. -/
theorem Follows.change (h : session.Follows run) {other : Session}
    (hcache : other.cache = session.cache) :
    other.Follows (run.step current (.change (other.handlers, other.calls))) where
  cache_eq := h.cache_eq.trans hcache.symm
  blocks_eq := rfl

/-- A step of a session is a step of the cache in use, so the session follows it. -/
theorem Follows.step (h : session.Follows run) (s : SessionStep) :
    (session.step s).Follows (run.step current (session.cacheStep s)) := by
  cases s with
  | block uncached endpoint =>
      cases uncached with
      | true => exact h.change rfl
      | false => exact h.lookup endpoint
  | resolve uncached endpoint kind =>
      -- A request looks one block up, or none where a candidate documents the kind.
      cases uncached with
      | true =>
          apply h.change
          rw [Session.step, resolve, withBlocks]
          simp only [Resolver.resolve_blocks]
          split <;> rfl
      | false =>
          rw [cacheStep, CacheRun.step, Session.step, resolve, resolver]
          simp only [Resolver.resolve_blocks]
          split
          · exact h
          · exact h.lookup endpoint
  | setComment key comment => exact h.change rfl
  | setType name info => exact h.change rfl
  | setSeed seed => exact h.change rfl

theorem Follows.after (h : session.Follows run) (steps : List SessionStep) :
    (session.after steps).Follows
      ((session.cacheSteps steps).foldl (CacheRun.step current) run) := by
  induction steps generalizing session run with
  | nil => exact h
  | cons s steps ih => exact ih (h.step s)

/-- After any steps of a session there is a cache in use that has come to the same place, and of
which all holds that is known of such a cache. -/
theorem exists_faithful_run (config : Config) (metadata : Metadata) (steps : List SessionStep) :
    ∃ run : CacheRun (Metadata × Nat), run.Faithful current ∧
      ((start config metadata).after steps).Follows run :=
  ⟨CacheRun.after current (metadata, 0) ((start config metadata).cacheSteps steps),
    CacheRun.faithful_after .., (follows_start config metadata).after steps⟩

/-- A block that the cache of a session holds stays there, whatever is done. -/
theorem get?_cache_after {key : Text} {block : Option DocBlock}
    (h : session.cache.get? key = some block) (steps : List SessionStep) :
    (session.after steps).cache.get? key = some block := by
  rw [← (session.follows_itself.after steps).cache_eq]
  exact CacheRun.get?_foldl_step h _

/-! ## Counting the lookups -/

theorem calls_lookup (session : Session) (endpoint : Endpoint) :
    let blocks := (session.lookup false endpoint (session.cache, session.calls)).2
    blocks.2 + session.cache.length = session.calls + blocks.1.length := by
  cases hget : session.cache.get? endpoint.key with
  | some block => simp [lookup, BlockLookup.cached, hget]
  | none =>
      have hnew : endpoint.key ∉ session.cache.keys := by simp [Table.mem_keys_iff, hget]
      have hlength (cache : BlockCache) : cache.length = cache.keys.length := by simp [Table.keys]
      simp only [lookup, Bool.false_eq_true, if_false, BlockLookup.cached, hget, direct,
        BlockLookup.counted]
      rw [hlength (Table.put ..), Table.keys_put, if_neg hnew, List.length_append, ← hlength,
        List.length_singleton]
      omega

/-- Without a look past the cache, a step asks for as many blocks as it adds entries. -/
theorem calls_step (session : Session) {s : SessionStep} (h : s.uncached = false) :
    (session.step s).calls + session.cache.length =
      session.calls + (session.step s).cache.length := by
  cases s with
  | block uncached endpoint =>
      obtain rfl : uncached = false := h
      exact session.calls_lookup endpoint
  | resolve uncached endpoint kind =>
      obtain rfl : uncached = false := h
      rw [step, resolve, withBlocks]
      simp only [Resolver.resolve_blocks]
      split
      · rfl
      · exact session.calls_lookup endpoint
  | setComment key comment => rfl
  | setType name info => rfl
  | setSeed seed => rfl

/-- While nothing goes past the cache, the blocks are asked once for each handler that the cache
holds. -/
theorem calls_after (config : Config) (metadata : Metadata) {steps : List SessionStep}
    (h : ∀ s ∈ steps, s.uncached = false) :
    ((start config metadata).after steps).calls =
      ((start config metadata).after steps).cache.length := by
  induction steps using List.reverseRecOn with
  | nil => rfl
  | append_singleton steps s ih =>
      rw [List.forall_mem_append, List.forall_mem_singleton] at h
      have hstep := calls_step ((start config metadata).after steps) h.2
      have hbefore := ih h.1
      rw [after] at hstep hbefore ⊢
      rw [List.foldl_append, List.foldl_cons, List.foldl_nil]
      omega

/-! ## Requests in a row -/

/-- The answers to requests through the cache, with nothing else done in between. -/
def answers (session : Session) :
    List (Endpoint × TagKind) → List (Except DocError Resolved × Log)
  | [] => []
  | (endpoint, kind) :: requests =>
    let (outcome, log, next) := session.resolve false endpoint kind
    (outcome, log) :: answers next requests

/-- Requests in a row are those of the resolver, with the blocks as the session looks them up. -/
theorem answers_eq (session : Session) (requests : List (Endpoint × TagKind)) :
    session.answers requests =
      (session.resolver.answers session.direct.cached requests (session.cache, session.calls)).map
        fun answer ↦ (answer.outcome, answer.log) := by
  induction requests generalizing session with
  | nil => rfl
  | cons request requests ih =>
      rw [answers, Resolver.answers, List.map_cons]
      exact congrArg _ (ih _)

/-- While the cache holds the blocks of the handlers as they are, each request is answered as it is
alone. -/
theorem answers_eq_alone (hcache : session.cache.Answers session.handlers.handlerBlock?)
    (requests : List (Endpoint × TagKind)) :
    session.answers requests = requests.map fun request ↦
      ((session.resolver.alone session.handlers request.1 request.2).outcome,
        (session.resolver.alone session.handlers request.1 request.2).log) := by
  rw [answers_eq]
  exact session.resolver.answers_cached session.handlers (fun _ _ ↦ rfl) requests hcache _

/-- A new session answers requests as each of them is answered alone. -/
theorem answers_start (config : Config) (metadata : Metadata)
    (requests : List (Endpoint × TagKind)) :
    (start config metadata).answers requests = requests.map fun request ↦
      (((Resolver.ofConfig config metadata.types).alone metadata request.1 request.2).outcome,
        ((Resolver.ofConfig config metadata.types).alone metadata request.1 request.2).log) :=
  answers_eq_alone (BlockCache.answers_nil _) requests

end Session

end EndpointDocs
