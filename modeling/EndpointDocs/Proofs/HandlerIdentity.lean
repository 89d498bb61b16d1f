import EndpointDocs.Proofs.CacheHistory
import EndpointDocs.Proofs.CacheTransparency

/-!
# Handlers and their keys

Blocks are looked up by the key of a handler, the name of the controller and the method with a mark
between them.  Two handlers share a key only if the mark also stands inside a name.  Where it does
not, every endpoint has the block of its own comment, and so it does through a cache with any
history.
-/

namespace EndpointDocs

namespace Endpoint

/-- Endpoints with the same method of the same controller. -/
def SameHandler (a b : Endpoint) : Prop :=
  TypeName.canonical a.controller = TypeName.canonical b.controller ∧ a.method = b.method

instance (a b : Endpoint) : Decidable (SameHandler a b) :=
  inferInstanceAs (Decidable (_ ∧ _))

/-- The controller of one endpoint goes on where that of the other ends, with a mark, and with the
front of the other's method up to a mark. -/
def RunsInto (a b : Endpoint) : Prop :=
  ∃ middle, TypeName.canonical a.controller = TypeName.canonical b.controller ++ '@' :: middle ∧
    b.method = middle ++ '@' :: a.method

theorem not_runsInto_of_notMem {a : Endpoint} (h : '@' ∉ TypeName.canonical a.controller)
    (b : Endpoint) : ¬ a.RunsInto b := by
  rintro ⟨middle, hcontroller, -⟩
  simp [hcontroller] at h

/-- Names that run into one another have one key, although the handlers differ. -/
theorem key_eq_of_runsInto {a b : Endpoint} (h : a.RunsInto b) : a.key = b.key := by
  obtain ⟨middle, hcontroller, hmethod⟩ := h
  simp [key, hcontroller, hmethod]

/-- Endpoints share a key exactly when they share the handler or the names of one run into those of
the other. -/
theorem key_eq_iff (a b : Endpoint) :
    a.key = b.key ↔ a.SameHandler b ∨ a.RunsInto b ∨ b.RunsInto a := by
  constructor
  · intro h
    obtain ⟨middle, hcontroller, hmethod⟩ | ⟨middle, hcontroller, hmethod⟩ :=
      List.append_eq_append_iff.mp h
    · cases middle with
      | nil => exact .inl ⟨by simpa [eq_comm] using hcontroller, (List.cons.inj hmethod).2⟩
      | cons mark middle =>
          obtain ⟨rfl, hrest⟩ := List.cons.inj hmethod
          exact .inr (.inr ⟨middle, hcontroller, hrest⟩)
    · cases middle with
      | nil => exact .inl ⟨by simpa using hcontroller, (List.cons.inj hmethod).2.symm⟩
      | cons mark middle =>
          obtain ⟨rfl, hrest⟩ := List.cons.inj hmethod
          exact .inr (.inl ⟨middle, hcontroller, hrest⟩)
  · rintro (⟨hcontroller, hmethod⟩ | h | h)
    · rw [key, key, hcontroller, hmethod]
    · exact key_eq_of_runsInto h
    · exact (key_eq_of_runsInto h).symm

/-- The block of an endpoint's own comment. -/
def ownBlock? (endpoint : Endpoint) : Option DocBlock :=
  endpoint.docComment.map DocBlock.ofComment

end Endpoint

namespace Metadata

theorem endpoint?_eq_some_of_mem {metadata : Metadata} {endpoint : Endpoint}
    (hmem : endpoint ∈ metadata.endpoints)
    (hkey : ∀ other ∈ metadata.endpoints, other.key = endpoint.key → other = endpoint) :
    metadata.endpoint? endpoint.key = some endpoint := by
  cases hfound : metadata.endpoint? endpoint.key with
  | none => simpa using List.find?_eq_none.mp hfound endpoint hmem
  | some other =>
      have hother : other.key = endpoint.key := by simpa using List.find?_some hfound
      rw [hkey other (List.mem_of_find?_eq_some hfound) hother]

end Metadata

/-! ## The cache over blocks that stay the same -/

theorem BlockCache.Answers.watched {find : Endpoint → Option DocBlock} {run : CacheRun Unit}
    (hcache : run.cache.Answers find) (hfind : ByHandler find) (endpoint : Endpoint) :
    ((BlockLookup.constant find).watched endpoint run).1 = find endpoint ∧
      ((BlockLookup.constant find).watched endpoint run).2.cache.Answers find := by
  cases hget : run.cache.get? endpoint.key with
  | some block =>
      rw [CacheRun.watched_of_get?_eq_some hget]
      exact ⟨hcache endpoint block hget, hcache⟩
  | none =>
      rw [CacheRun.watched_of_get?_eq_none hget]
      exact ⟨rfl, hcache.put hfind endpoint⟩

theorem BlockCache.Answers.step {find : Endpoint → Option DocBlock} {run : CacheRun Unit}
    (hcache : run.cache.Answers find) (hfind : ByHandler find) (s : CacheStep Unit) :
    (run.step (BlockLookup.constant find) s).cache.Answers find := by
  obtain ⟨blocks, heq⟩ | ⟨endpoint, heq⟩ | heq :=
    CacheRun.step_cases (BlockLookup.constant find) run s
  · rw [heq]
    exact hcache
  · rw [heq]
    exact (hcache.watched hfind endpoint).2
  · rwa [heq]

/-- Over metadata that does not change, a cache never holds the block of another handler. -/
theorem CacheRun.answers_after {find : Endpoint → Option DocBlock} (hfind : ByHandler find)
    (steps : List (CacheStep Unit)) :
    (after (BlockLookup.constant find) () steps).cache.Answers find := by
  induction steps using List.reverseRecOn with
  | nil => exact BlockCache.answers_nil find
  | append_singleton steps s ih =>
      rw [after, List.foldl_append]
      exact ih.step hfind s

namespace Metadata

/-- Where no handler is listed twice and no names run into one another, every listed endpoint has
the block of its own comment, directly and through a cache after any lookups and requests. -/
theorem handlerBlock?_eq_ownBlock? {metadata : Metadata}
    (hhandlers : ∀ a ∈ metadata.endpoints, ∀ b ∈ metadata.endpoints, a.SameHandler b → a = b)
    (hnames : ∀ a ∈ metadata.endpoints, ∀ b ∈ metadata.endpoints, ¬ a.RunsInto b)
    {endpoint : Endpoint} (hmem : endpoint ∈ metadata.endpoints)
    (steps : List (CacheStep Unit)) :
    let blocks := BlockLookup.constant metadata.handlerBlock?
    metadata.handlerBlock? endpoint = endpoint.ownBlock? ∧
      (blocks.watched endpoint (CacheRun.after blocks () steps)).1 = endpoint.ownBlock? := by
  have hkey : ∀ other ∈ metadata.endpoints, other.key = endpoint.key → other = endpoint := by
    intro other hother hkey
    obtain hsame | hruns | hruns := (Endpoint.key_eq_iff other endpoint).mp hkey
    · exact hhandlers other hother endpoint hmem hsame
    · exact absurd hruns (hnames other hother endpoint hmem)
    · exact absurd hruns (hnames endpoint hmem other hother)
  have hown : metadata.handlerBlock? endpoint = endpoint.ownBlock? := by
    rw [handlerBlock?, endpoint?_eq_some_of_mem hmem hkey, Option.bind_some, Endpoint.ownBlock?]
  have hcached := (CacheRun.answers_after metadata.byHandler_handlerBlock? steps).watched
    metadata.byHandler_handlerBlock? endpoint
  exact ⟨hown, hcached.1.trans hown⟩

/-! ## Two posts with comments, and two handlers whose names run into one another -/

def listPosts : Endpoint :=
  ⟨"GET /posts".toList, "\\App\\Posts".toList, "list".toList, [], some "/** All. */".toList⟩

def showPost : Endpoint :=
  ⟨"GET /posts/1".toList, "App\\Posts".toList, "show".toList, [], none⟩

/-- A handler is looked up after another one of the same controller. -/
theorem handlerBlock?_eq_ownBlock?_posts :
    let blocks := BlockLookup.constant (Metadata.mk [] [listPosts, showPost]).handlerBlock?
    (∀ a ∈ [listPosts, showPost], ∀ b ∈ [listPosts, showPost], a.SameHandler b → a = b) ∧
      (∀ a ∈ [listPosts, showPost], ∀ b ∈ [listPosts, showPost], ¬ a.RunsInto b) ∧
      (Metadata.mk [] [listPosts, showPost]).handlerBlock? listPosts = listPosts.ownBlock? ∧
      (blocks.watched listPosts (CacheRun.after blocks () [.lookup showPost])).1 =
        listPosts.ownBlock? := by
  have hhandlers : ∀ a ∈ [listPosts, showPost], ∀ b ∈ [listPosts, showPost],
      a.SameHandler b → a = b := by decide +kernel
  have hmarks : ∀ a ∈ [listPosts, showPost], '@' ∉ TypeName.canonical a.controller := by
    decide +kernel
  have hnames : ∀ a ∈ [listPosts, showPost], ∀ b ∈ [listPosts, showPost], ¬ a.RunsInto b :=
    fun a ha b _ ↦ Endpoint.not_runsInto_of_notMem (hmarks a ha) b
  have hmem : listPosts ∈ (Metadata.mk [] [listPosts, showPost]).endpoints := by simp
  exact ⟨hhandlers, hnames, handlerBlock?_eq_ownBlock? hhandlers hnames hmem [.lookup showPost]⟩

def versionedList : Endpoint :=
  ⟨"GET /v2".toList, "Posts@v2".toList, "list".toList, [], some "/** One. */".toList⟩

def plainList : Endpoint :=
  ⟨"GET /v1".toList, "Posts".toList, "v2@list".toList, [], some "/** Two. */".toList⟩

/-- A handler whose name runs into another's is given the block of that one. -/
theorem handlerBlock?_plainList :
    [versionedList, plainList].Pairwise (fun a b ↦ ¬ a.SameHandler b) ∧
      (Metadata.mk [] [versionedList, plainList]).handlerBlock? plainList =
        versionedList.ownBlock? ∧
      versionedList.ownBlock? ≠ plainList.ownBlock? := by
  decide +kernel

end Metadata

end EndpointDocs
