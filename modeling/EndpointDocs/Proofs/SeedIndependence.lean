import EndpointDocs.Proofs.SourceRule

/-!
# Seeds

The seed is looked at by nothing but the samples.  Resolvers that differ in their seeds fail alike,
choose the same source, and read records that differ at most in sampled values.
-/

namespace EndpointDocs

namespace Resolver

variable {σ : Type}

def withSeed (r : Resolver) (seed : UInt64) : Resolver :=
  { r with config := { r.config with exampleSeed := seed } }

@[simp] theorem withSeed_candidates (r : Resolver) (seed : UInt64) (endpoint : Endpoint)
    (parameters : List HandlerParam) :
    (r.withSeed seed).candidates endpoint parameters = r.candidates endpoint parameters := rfl

@[simp] theorem withSeed_sourceBlock? (r : Resolver) (seed : UInt64)
    (handler : Option DocBlock) (source : DocSource) :
    (r.withSeed seed).sourceBlock? handler source = r.sourceBlock? handler source := rfl

@[simp] theorem withSeed_firstDocumenting? (r : Resolver) (seed : UInt64) (endpoint : Endpoint)
    (kind : TagKind) (parameters : List HandlerParam) :
    (r.withSeed seed).firstDocumenting? endpoint kind parameters =
      r.firstDocumenting? endpoint kind parameters := rfl

/-- The tags of a kind in the block of a source. -/
def sourceTags (r : Resolver) (kind : TagKind) (handler : Option DocBlock) (source : DocSource) :
    List Tag :=
  (r.sourceBlock? handler source).elim [] (·.tagsOf kind)

/-- Outcomes that differ at most in sampled values. -/
inductive AgreeUpToSamples (r : Resolver) (kind : TagKind) (handler : Option DocBlock) :
    Except DocError Resolved → Except DocError Resolved → Prop
  | error (error : DocError) : AgreeUpToSamples r kind handler (.error error) (.error error)
  | ok {source : DocSource} {m n : ParamMap}
      (h : m.AgreeUpToSamples kind (r.sourceTags kind handler source) n) :
      AgreeUpToSamples r kind handler (.ok ⟨source, m⟩) (.ok ⟨source, n⟩)

theorem freshParams_eq_ofTags (r : Resolver) (kind : TagKind) (block : Option DocBlock) :
    r.freshParams kind block =
      (BlockParams.ofTags kind (block.elim [] (·.tagsOf kind)) r.freshStream).params := by
  cases block <;> rfl

/-- The parameters of a block read with two seeds differ in sampled values at most. -/
theorem freshParams_withSeed_agree (r : Resolver) (seed₁ seed₂ : UInt64) (kind : TagKind)
    (block : Option DocBlock) :
    ((r.withSeed seed₁).freshParams kind block).AgreeUpToSamples kind
      (block.elim [] (·.tagsOf kind)) ((r.withSeed seed₂).freshParams kind block) := by
  rw [freshParams_eq_ofTags, freshParams_eq_ofTags]
  exact BlockParams.ofTags_agree kind _ _ _

/-- Two seeds lead to the same error, or to the same source and to records that agree in all but
sampled values. -/
theorem resolve_withSeed_agree (r : Resolver) (seed₁ seed₂ : UInt64) (lookup : BlockLookup σ)
    (endpoint : Endpoint) (kind : TagKind) (blocks : σ) :
    r.AgreeUpToSamples kind (lookup endpoint blocks).1
        ((r.withSeed seed₁).resolve lookup endpoint kind blocks).outcome
        ((r.withSeed seed₂).resolve lookup endpoint kind blocks).outcome ∧
      ((r.withSeed seed₁).resolve lookup endpoint kind blocks).blocks =
        ((r.withSeed seed₂).resolve lookup endpoint kind blocks).blocks := by
  -- The first candidate that documents the kind is the same for both, so the cases go together.
  cases hfirst : r.firstDocumenting? endpoint kind endpoint.parameters with
  | none =>
      have hseed (seed : UInt64) := resolve_of_none_documenting
        ((r.withSeed_firstDocumenting? seed ..).trans hfirst) lookup blocks
      refine ⟨?_, (hseed seed₁).2.trans (hseed seed₂).2.symm⟩
      rw [(hseed seed₁).1, (hseed seed₂).1, withSeed_candidates, withSeed_candidates]
      split
      · exact .error _
      · exact .ok (r.freshParams_withSeed_agree seed₁ seed₂ kind _)
  | some source =>
      have hdocuments : r.documents kind source = true := List.find?_some hfirst
      have hblock := sourceBlock?_of_documents hdocuments (lookup endpoint blocks).1
      have hseed (seed : UInt64) := resolve_of_documenting
        ((r.withSeed_firstDocumenting? seed ..).trans hfirst) lookup blocks
      refine ⟨?_, (hseed seed₁).2.trans (hseed seed₂).2.symm⟩
      rw [(hseed seed₁).1, (hseed seed₂).1, withSeed_sourceBlock?, withSeed_sourceBlock?]
      refine .ok ?_
      rw [sourceTags, hblock]
      exact r.freshParams_withSeed_agree seed₁ seed₂ kind _

end Resolver

end EndpointDocs
