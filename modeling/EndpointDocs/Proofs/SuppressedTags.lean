import EndpointDocs.Proofs.TagText

/-!
# Records of tags with a marker

The name and the description of a record are pieces of its tag without markers, so they hold a
marker only where one is spelled anew by what is left.  A marker at the end of a tag takes the value
away and nothing else.
-/

namespace EndpointDocs

theorem TagFields.name_isInfix {kind : TagKind} {content : Text} {fields : TagFields}
    (h : ofContent? kind content = some fields) : fields.name <:+: content := by
  obtain ⟨rest, hname, -⟩ := ofContent?_eq_some h
  obtain ⟨blanks, hcontent, -⟩ := Text.eq_append_of_nextWord? hname
  exact ⟨blanks, rest, by simp [hcontent]⟩

namespace Param

/-- The name and the description of a record are pieces of what is left of its tag. -/
theorem isInfix_of_ofTag? {kind : TagKind} {content : Text} {s : Random.Stream} {p : Param}
    (h : (ofTag? kind content s).1 = some p) :
    p.name <:+: stripNoExample content ∧ p.description <:+: stripNoExample content := by
  cases hfields : TagFields.ofContent? kind (stripNoExample content) with
  | none =>
      rw [ofTag?_of_ofContent?_eq_none hfields] at h
      cases h
  | some fields =>
      obtain ⟨sampled, hrecord⟩ := ofFields_eq kind (suppressesExample content) fields
      have hdescription := (TagFields.ofContent?_account hfields).2.isInfix
      rw [ofTag?_of_ofContent? hfields, Option.some.injEq, hrecord] at h
      rw [← h]
      exact ⟨TagFields.name_isInfix hfields, (describe_isInfix _ _).trans hdescription⟩

end Param

/-- A tag without its markers is put together from parts that hold none.  So a marker is left, and
taking the markers out again changes the text once more, exactly where these parts spell a marker
anew; elsewhere no record of the tag shows one. -/
theorem stripNoExample_markerFree_iff (content : Text) :
    (stripNoExample content = (partsBetween content).flatten ∧
        ∀ part ∈ partsBetween content, ¬ noExample <:+: part) ∧
      (¬ noExample <:+: stripNoExample content ↔
        ¬ Text.StandsAcross noExample (partsBetween content)) ∧
      (stripNoExample (stripNoExample content) = stripNoExample content ↔
        ¬ Text.StandsAcross noExample (partsBetween content)) ∧
      (¬ Text.StandsAcross noExample (partsBetween content) →
        ∀ kind s p, (Param.ofTag? kind content s).1 = some p →
          ¬ noExample <:+: p.name ∧ ¬ noExample <:+: p.description) := by
  have hleft := not_congr (infix_stripNoExample_iff content)
  refine ⟨⟨(flatten_partsBetween content).symm, fun _ ↦ not_infix_of_mem_partsBetween⟩, hleft,
    (stripNoExample_eq_self_iff _).trans hleft, ?_⟩
  intro hapart kind s p hread
  have hfree := hleft.mpr hapart
  obtain ⟨hname, hdescription⟩ := Param.isInfix_of_ofTag? hread
  exact ⟨fun hin ↦ hfree (hin.trans hname), fun hin ↦ hfree (hin.trans hdescription)⟩

def sayNoContent : Text := "flag string Say No No-example -example".toList

/-- The marker between the two halves of another one is taken out, and the halves meet. -/
theorem stripNoExample_sayNoContent :
    noExample <:+: stripNoExample sayNoContent ∧
      stripNoExample (stripNoExample sayNoContent) ≠ stripNoExample sayNoContent ∧
      ∃ p, (Param.ofTag? .body sayNoContent (Random.Stream.ofSeed 1)).1 = some p ∧
        noExample <:+: p.description := by
  have hstrip : stripNoExample sayNoContent = "flag string Say No-example".toList := by
    decide +kernel
  have hagain : stripNoExample "flag string Say No-example".toList = "flag string Say".toList := by
    decide +kernel
  have hdescription : (Param.ofTag? .body sayNoContent (Random.Stream.ofSeed 1)).1.map
      (·.description) = some "Say No-example".toList := by decide +kernel
  obtain ⟨p, hp, hshown⟩ := Option.map_eq_some_iff.mp hdescription
  refine ⟨?_, ?_, p, hp, ?_⟩
  · rw [hstrip]
    exact ⟨"flag string Say ".toList, [], by decide +kernel⟩
  · rw [hstrip, hagain]
    decide +kernel
  · rw [hshown]
    exact ⟨"Say ".toList, [], by decide +kernel⟩

namespace Param

/-- With a marker at its end, and at most one character after that, a tag gives the record that it
gives without, but with no value, and the stream stays. -/
theorem ofTag?_closingMarker {content : Text} (hfree : ¬ noExample <:+: content) {blank : Char}
    (hblank : isBlank blank = true) {tail : Text} (htail : tail.length ≤ 1) (kind : TagKind)
    (s s' : Random.Stream) :
    ofTag? kind (content ++ blank :: (noExample ++ tail)) s =
      ((ofTag? kind content s').1.map fun p ↦ { p with value := none }, s) := by
  have hplain : Text.mentions noExample content = false := Text.mentions_eq_false_iff.mpr hfree
  have hkept : stripNoExample content = content := stripNoExample_eq_self hplain
  have hnil : stripNoExample [] = [] := stripNoExample_eq_self rfl
  have hstrip : stripNoExample (content ++ blank :: (noExample ++ tail)) = content := by
    rw [stripNoExample_append_marker hfree hblank, List.drop_eq_nil_of_le htail, hnil,
      List.append_nil]
  have hsuppressed := suppressesExample_append_marker content blank tail
  have hshown : suppressesExample content = false := hplain
  cases hfields : TagFields.ofContent? kind content with
  | none =>
      rw [ofTag?_of_ofContent?_eq_none (by rwa [hstrip]),
        ofTag?_of_ofContent?_eq_none (by rwa [hkept]), Option.map_none]
  | some fields =>
      rw [ofTag?_of_ofContent? (by rwa [hstrip]), ofTag?_of_ofContent? (by rwa [hkept]),
        hsuppressed, hshown, ofFields_suppressed kind fields s s', Option.map_some]

def ageShown : Text := "age integer required Age.  Example: 3".toList

/-- A marker behind a tab and before a full stop, in a tag with an inline example. -/
theorem ofTag?_closingMarker_ageShown :
    ¬ noExample <:+: ageShown ∧ isBlank '\t' = true ∧ ".".toList.length ≤ 1 ∧
      ofTag? .body (ageShown ++ '\t' :: (noExample ++ ".".toList)) (Random.Stream.ofSeed 1) =
        ((ofTag? .body ageShown (Random.Stream.ofSeed 2)).1.map fun p ↦ { p with value := none },
          Random.Stream.ofSeed 1) := by
  have hfree : ¬ noExample <:+: ageShown := by decide +kernel
  have hblank : isBlank '\t' = true := by decide
  have htail : ".".toList.length ≤ 1 := by decide
  exact ⟨hfree, hblank, htail, ofTag?_closingMarker hfree hblank htail .body _ _⟩

end Param

end EndpointDocs
