import EndpointDocs.Proofs.SourceRule
import Mathlib.Data.Finset.Card

/-!
# The history of a cache

A cache of blocks is used for any number of lookups and requests, while the blocks behind it change
at any time.  The visits to the cache and those that go on to the blocks are written down, and after
every step the cache holds exactly the first answer for each handler that has been asked for.
-/

namespace EndpointDocs

variable {σ : Type}

/-- A lookup that has been made: the blocks as they were then, and the answer. -/
structure Visit (σ : Type) where
  endpoint : Endpoint
  blocks : σ
  answer : Option DocBlock

def Visit.firstOf? (visits : List (Visit σ)) (key : Text) : Option (Visit σ) :=
  visits.find? fun visit ↦ visit.endpoint.key == key

theorem Visit.firstOf?_append_singleton (visits : List (Visit σ)) (visit : Visit σ) (key : Text) :
    firstOf? (visits ++ [visit]) key =
      (firstOf? visits key).or (if visit.endpoint.key = key then some visit else none) := by
  by_cases h : visit.endpoint.key = key <;> simp [firstOf?, List.find?_append, h]

theorem Visit.firstOf?_eq_none_iff (visits : List (Visit σ)) (key : Text) :
    firstOf? visits key = none ↔ ¬ ∃ visit ∈ visits, visit.endpoint.key = key := by
  simp [firstOf?]

theorem Visit.key_of_firstOf? {visits : List (Visit σ)} {key : Text} {visit : Visit σ}
    (h : firstOf? visits key = some visit) : visit ∈ visits ∧ visit.endpoint.key = key :=
  ⟨List.mem_of_find?_eq_some h, by simpa using List.find?_some h⟩

/-- A lookup that writes down the visits to it, in order. -/
def BlockLookup.recorded (inner : BlockLookup σ) : BlockLookup (List (Visit σ) × σ) :=
  fun endpoint (visits, blocks) ↦
    let (block, after) := inner endpoint blocks
    (block, visits ++ [⟨endpoint, blocks, block⟩], after)

/-- A cache in use. -/
structure CacheRun (σ : Type) where
  cache : BlockCache
  /-- The lookups through the cache. -/
  visits : List (Visit σ)
  /-- The lookups that reached the blocks behind the cache. -/
  misses : List (Visit σ)
  /-- The blocks behind the cache. -/
  blocks : σ

/-- The lookup through a cache in use. -/
def BlockLookup.watched (inner : BlockLookup σ) : BlockLookup (CacheRun σ) :=
  fun endpoint run ↦
    let (block, cache, misses, after) :=
      inner.recorded.cached endpoint (run.cache, run.misses, run.blocks)
    (block, ⟨cache, run.visits ++ [⟨endpoint, run.blocks, block⟩], misses, after⟩)

/-- What may happen to a cache and the blocks behind it. -/
inductive CacheStep (σ : Type) where
  /-- The blocks become others. -/
  | change (blocks : σ)
  | lookup (endpoint : Endpoint)
  | resolve (r : Resolver) (endpoint : Endpoint) (kind : TagKind)

namespace CacheRun

def start (blocks : σ) : CacheRun σ :=
  ⟨[], [], [], blocks⟩

def step (inner : BlockLookup σ) (run : CacheRun σ) : CacheStep σ → CacheRun σ
  | .change blocks => { run with blocks := blocks }
  | .lookup endpoint => (inner.watched endpoint run).2
  | .resolve r endpoint kind => (r.resolve inner.watched endpoint kind run).blocks

def after (inner : BlockLookup σ) (blocks : σ) (steps : List (CacheStep σ)) : CacheRun σ :=
  steps.foldl (step inner) (start blocks)

/-- What holds of a cache at any time: it has an entry for each handler asked for, which is the
answer of the blocks at the first visit and of the cache at every visit, and the blocks were asked
once for each. -/
structure Faithful (inner : BlockLookup σ) (run : CacheRun σ) : Prop where
  mem_keys_iff : ∀ key, key ∈ run.cache.keys ↔ ∃ visit ∈ run.visits, visit.endpoint.key = key
  nodup_keys : run.cache.keys.Nodup
  first_answer : ∀ key visit, Visit.firstOf? run.visits key = some visit →
    run.cache.get? key = some (inner visit.endpoint visit.blocks).1
  answer_eq : ∀ visit ∈ run.visits, run.cache.get? visit.endpoint.key = some visit.answer
  misses_eq : run.misses.map (·.endpoint.key) = run.cache.keys

theorem faithful_start (inner : BlockLookup σ) (blocks : σ) : (start blocks).Faithful inner where
  mem_keys_iff key := by simp [start]
  nodup_keys := List.nodup_nil
  first_answer key visit h := by simp [start, Visit.firstOf?] at h
  answer_eq visit h := by simp [start] at h
  misses_eq := rfl

theorem watched_of_get?_eq_some {inner : BlockLookup σ} {endpoint : Endpoint} {run : CacheRun σ}
    {block : Option DocBlock} (h : run.cache.get? endpoint.key = some block) :
    inner.watched endpoint run =
      (block, { run with visits := run.visits ++ [⟨endpoint, run.blocks, block⟩] }) := by
  simp [BlockLookup.watched, BlockLookup.cached, h]

/-- A visit for a new handler goes on to the blocks, and their answer is kept. -/
theorem watched_of_get?_eq_none {inner : BlockLookup σ} {endpoint : Endpoint} {run : CacheRun σ}
    (h : run.cache.get? endpoint.key = none) :
    inner.watched endpoint run =
      let visit : Visit σ := ⟨endpoint, run.blocks, (inner endpoint run.blocks).1⟩
      (visit.answer, ⟨run.cache.put endpoint.key visit.answer, run.visits ++ [visit],
        run.misses ++ [visit], (inner endpoint run.blocks).2⟩) := by
  simp [BlockLookup.watched, BlockLookup.cached, BlockLookup.recorded, h]

theorem Faithful.exists_visit_iff {inner : BlockLookup σ} {run : CacheRun σ}
    (h : run.Faithful inner) (visit : Visit σ) (key : Text) :
    (∃ other ∈ run.visits ++ [visit], other.endpoint.key = key) ↔
      key ∈ run.cache.keys ∨ key = visit.endpoint.key := by
  rw [h.mem_keys_iff]
  simp [or_and_right, exists_or, eq_comm]

/-- A cached answer is given again, whatever the blocks have become. -/
theorem Faithful.watched_hit {inner : BlockLookup σ} {run : CacheRun σ} (h : run.Faithful inner)
    {endpoint : Endpoint} {block : Option DocBlock}
    (hhit : run.cache.get? endpoint.key = some block) :
    (inner.watched endpoint run).2.Faithful inner := by
  have hkey : endpoint.key ∈ run.cache.keys := by simp [Table.mem_keys_iff, hhit]
  rw [watched_of_get?_eq_some hhit]
  refine ⟨?_, h.nodup_keys, ?_, ?_, h.misses_eq⟩
  · intro key
    rw [h.exists_visit_iff, or_iff_left_of_imp]
    rintro rfl
    exact hkey
  · intro key visit hfirst
    rw [Visit.firstOf?_append_singleton] at hfirst
    cases hold : Visit.firstOf? run.visits key with
    | some old =>
        obtain rfl : old = visit := by simpa [hold] using hfirst
        exact h.first_answer key old hold
    | none =>
        -- The handler has an entry, so it was asked for before.
        have hnever := (Visit.firstOf?_eq_none_iff ..).mp hold
        rw [← h.mem_keys_iff] at hnever
        have hne : endpoint.key ≠ key := fun heq ↦ hnever (heq ▸ hkey)
        simp [hold, hne] at hfirst
  · intro visit hvisit
    rcases List.mem_append.mp hvisit with hold | hnew
    · exact h.answer_eq visit hold
    · obtain rfl := List.mem_singleton.mp hnew
      exact hhit

/-- A new handler gets the answer of the blocks as they are now, and the others keep theirs. -/
theorem Faithful.watched_miss {inner : BlockLookup σ} {run : CacheRun σ} (h : run.Faithful inner)
    {endpoint : Endpoint} (hmiss : run.cache.get? endpoint.key = none) :
    (inner.watched endpoint run).2.Faithful inner := by
  have hkey : endpoint.key ∉ run.cache.keys := by simp [Table.mem_keys_iff, hmiss]
  have hother {visit : Visit σ} (hvisit : visit ∈ run.visits) :
      visit.endpoint.key ≠ endpoint.key := by
    intro heq
    exact hkey ((h.mem_keys_iff _).mpr ⟨visit, hvisit, heq⟩)
  rw [watched_of_get?_eq_none hmiss]
  refine ⟨?_, Table.nodup_keys_put h.nodup_keys _ _, ?_, ?_, ?_⟩
  · intro key
    rw [h.exists_visit_iff, Table.mem_keys_put]
  · intro key visit hfirst
    rw [Visit.firstOf?_append_singleton] at hfirst
    cases hold : Visit.firstOf? run.visits key with
    | some old =>
        obtain rfl : old = visit := by simpa [hold] using hfirst
        obtain ⟨hmem, rfl⟩ := Visit.key_of_firstOf? hold
        rw [Table.get?_put_of_ne _ _ (hother hmem)]
        exact h.first_answer _ old hold
    | none =>
        obtain ⟨rfl, rfl⟩ : endpoint.key = key ∧
            (⟨endpoint, run.blocks, (inner endpoint run.blocks).1⟩ : Visit σ) = visit := by
          simpa [hold] using hfirst
        exact Table.get?_put_self ..
  · intro visit hvisit
    rcases List.mem_append.mp hvisit with hold | hnew
    · rw [Table.get?_put_of_ne _ _ (hother hold)]
      exact h.answer_eq visit hold
    · obtain rfl := List.mem_singleton.mp hnew
      exact Table.get?_put_self ..
  · rw [Table.keys_put, if_neg hkey, ← h.misses_eq]
    simp

theorem Faithful.watched {inner : BlockLookup σ} {run : CacheRun σ} (h : run.Faithful inner)
    (endpoint : Endpoint) : (inner.watched endpoint run).2.Faithful inner := by
  cases hget : run.cache.get? endpoint.key with
  | none => exact h.watched_miss hget
  | some block => exact h.watched_hit hget

/-- What a step can do: change the blocks, look one up, or nothing. -/
theorem step_cases (inner : BlockLookup σ) (run : CacheRun σ) (s : CacheStep σ) :
    (∃ blocks, run.step inner s = { run with blocks := blocks }) ∨
      (∃ endpoint, run.step inner s = (inner.watched endpoint run).2) ∨
      run.step inner s = run := by
  cases s with
  | change blocks => exact .inl ⟨blocks, rfl⟩
  | lookup endpoint => exact .inr (.inl ⟨endpoint, rfl⟩)
  | resolve r endpoint kind =>
      rw [step, r.resolve_blocks]
      split
      · exact .inr (.inr rfl)
      · exact .inr (.inl ⟨endpoint, rfl⟩)

theorem Faithful.step {inner : BlockLookup σ} {run : CacheRun σ} (h : run.Faithful inner)
    (s : CacheStep σ) : (run.step inner s).Faithful inner := by
  obtain ⟨blocks, heq⟩ | ⟨endpoint, heq⟩ | heq := step_cases inner run s
  · rw [heq]
    exact ⟨h.mem_keys_iff, h.nodup_keys, h.first_answer, h.answer_eq, h.misses_eq⟩
  · rw [heq]
    exact h.watched endpoint
  · rwa [heq]

/-- What the cache holds for a handler stays there, whatever happens next. -/
theorem get?_step {inner : BlockLookup σ} {run : CacheRun σ} {key : Text}
    {block : Option DocBlock} (h : run.cache.get? key = some block) (s : CacheStep σ) :
    (run.step inner s).cache.get? key = some block := by
  obtain ⟨blocks, heq⟩ | ⟨endpoint, heq⟩ | heq := step_cases inner run s
  · rwa [heq]
  · rw [heq]
    cases hget : run.cache.get? endpoint.key with
    | none =>
        have hne : key ≠ endpoint.key := by
          rintro rfl
          rw [hget] at h
          cases h
        rwa [watched_of_get?_eq_none hget, Table.get?_put_of_ne _ _ hne]
    | some cached => rwa [watched_of_get?_eq_some hget]
  · rwa [heq]

/-- By induction on the steps, since each of them keeps a cache faithful. -/
theorem faithful_after (inner : BlockLookup σ) (blocks : σ) (steps : List (CacheStep σ)) :
    (after inner blocks steps).Faithful inner := by
  induction steps using List.reverseRecOn with
  | nil => exact faithful_start inner blocks
  | append_singleton steps s ih =>
      rw [after, List.foldl_append]
      exact ih.step s

theorem get?_foldl_step {inner : BlockLookup σ} {run : CacheRun σ} {key : Text}
    {block : Option DocBlock} (h : run.cache.get? key = some block)
    (steps : List (CacheStep σ)) :
    (steps.foldl (step inner) run).cache.get? key = some block := by
  induction steps generalizing run with
  | nil => exact h
  | cons s steps ih => exact ih (get?_step h s)

/-- As many lookups reach the blocks as the cache has entries, one for each handler asked for. -/
theorem Faithful.length_eq {inner : BlockLookup σ} {run : CacheRun σ} (h : run.Faithful inner) :
    run.misses.length = run.cache.length ∧
      run.cache.length = (run.visits.map (·.endpoint.key)).toFinset.card := by
  have hkeys : run.cache.length = run.cache.keys.length := by simp [Table.keys]
  constructor
  · rw [hkeys, ← h.misses_eq, List.length_map]
  · have hset : (run.visits.map (·.endpoint.key)).toFinset = run.cache.keys.toFinset := by
      ext key
      simp [h.mem_keys_iff]
    rw [hkeys, hset, List.toFinset_card_of_nodup h.nodup_keys]

/-- After any steps the cache holds the first answer for each handler asked for, and goes on holding
it; the blocks have been asked once for each, and a request asks for a block at most once. -/
theorem cache_faithful_after (inner : BlockLookup σ) (blocks : σ)
    (steps more : List (CacheStep σ)) :
    (after inner blocks steps).Faithful inner ∧
      (∀ key block, (after inner blocks steps).cache.get? key = some block →
        (after inner blocks (steps ++ more)).cache.get? key = some block) ∧
      (after inner blocks steps).misses.length = (after inner blocks steps).cache.length ∧
      (after inner blocks steps).cache.length =
        ((after inner blocks steps).visits.map (·.endpoint.key)).toFinset.card ∧
      ∀ (τ : Type) (lookup : BlockLookup τ) (r : Resolver) (endpoint : Endpoint) (kind : TagKind)
        (visits : List (Visit τ)) (s : τ),
        (r.resolve lookup.recorded endpoint kind (visits, s)).blocks.1 =
          visits ++
            if (r.candidates endpoint endpoint.parameters).any (r.documents kind) then []
            else [⟨endpoint, s, (lookup endpoint s).1⟩] := by
  have hfaithful := faithful_after inner blocks steps
  refine ⟨hfaithful, ?_, hfaithful.length_eq.1, hfaithful.length_eq.2, ?_⟩
  · intro key block h
    rw [after, List.foldl_append]
    exact get?_foldl_step h more
  · intro τ lookup r endpoint kind visits s
    rw [r.resolve_blocks]
    split
    · simp
    · simp [BlockLookup.recorded]

end CacheRun

end EndpointDocs
