import EndpointDocs.Tag.Suppression
import EndpointDocs.Proofs.Occurrence
import EndpointDocs.Proofs.Words

/-!
# Taking markers out

A tag without markers is what stands between them, put together.  None of these parts holds a
marker, so one is left only where parts that meet spell it anew, and then taking the markers out
again changes the text once more.
-/

namespace EndpointDocs

theorem noExample_ne_nil : noExample ≠ [] := by decide +kernel

theorem notMem_noExample_of_isBlank {c : Char} (h : isBlank c = true) : c ∉ noExample := by
  have hletters : Text.nonBlanks noExample = noExample := by decide +kernel
  intro hmem
  rw [Text.nonBlanks_eq_self_iff.mp hletters c hmem] at h
  cases h

theorem stripNoExample_of_cutAround?_eq_none {content : Text}
    (h : Text.cutAround? noExample content = none) : stripNoExample content = content := by
  rw [stripNoExample]
  split
  · rfl
  · next hsome =>
    rw [h] at hsome
    cases hsome

theorem stripNoExample_eq_self {content : Text} (h : Text.mentions noExample content = false) :
    stripNoExample content = content :=
  stripNoExample_of_cutAround?_eq_none (by simpa [Text.mentions] using h)

theorem stripNoExample_of_cutAround? {content before after : Text}
    (h : Text.cutAround? noExample content = some (before, after)) :
    stripNoExample content = Text.dropLastBlank before ++ stripNoExample (after.drop 1) := by
  rw [stripNoExample]
  split
  · next hnone =>
    rw [h] at hnone
    cases hnone
  · next hsome =>
    rw [h] at hsome
    cases hsome
    rfl

theorem suppressesExample_append_marker (pre : Text) (blank : Char) (after : Text) :
    suppressesExample (pre ++ blank :: (noExample ++ after)) = true := by
  rw [suppressesExample, Text.mentions_iff]
  exact ⟨pre ++ [blank], after, by simp⟩

/-- The first marker is taken out of a text with the blank before it and the character after it. -/
theorem stripNoExample_append_marker {pre : Text} (hpre : ¬ noExample <:+: pre) {blank : Char}
    (hblank : isBlank blank = true) (after : Text) :
    stripNoExample (pre ++ blank :: (noExample ++ after)) =
      pre ++ stripNoExample (after.drop 1) := by
  have hcut : Text.cutAround? noExample (pre ++ blank :: (noExample ++ after)) =
      some (pre ++ [blank], after) := by
    rw [Text.cutAround?_append_cons noExample_ne_nil (notMem_noExample_of_isBlank hblank) hpre,
      Text.cutAround?_append noExample_ne_nil]
    rfl
  rw [stripNoExample_of_cutAround? hcut]
  simp [Text.dropLastBlank, hblank]

/-! ## What is left between the markers -/

/-- The parts of a tag between its markers, each without a blank at the end when a marker follows,
and but for the character after the marker before it. -/
def partsBetween (content : Text) : List Text :=
  match _hcut : Text.cutAround? noExample content with
  | none => [content]
  | some (before, after) => Text.dropLastBlank before :: partsBetween (after.drop 1)
termination_by content.length
decreasing_by
  have hshorter := Text.length_lt_of_cutAround? noExample_ne_nil _hcut
  simp only [List.length_drop]
  omega

theorem Text.dropLastBlank_isPrefix (s : Text) : dropLastBlank s <+: s := by
  unfold dropLastBlank
  split
  · split
    · exact List.dropLast_prefix s
    · exact List.prefix_rfl
  · exact List.prefix_rfl

theorem partsBetween_of_cutAround?_eq_none {content : Text}
    (h : Text.cutAround? noExample content = none) : partsBetween content = [content] := by
  rw [partsBetween]
  split
  · rfl
  · next hsome =>
    rw [h] at hsome
    cases hsome

theorem partsBetween_of_cutAround? {content before after : Text}
    (h : Text.cutAround? noExample content = some (before, after)) :
    partsBetween content = Text.dropLastBlank before :: partsBetween (after.drop 1) := by
  rw [partsBetween]
  split
  · next hnone =>
    rw [h] at hnone
    cases hnone
  · next hsome =>
    rw [h] at hsome
    cases hsome
    rfl

/-- What is left of a tag is its parts, one after the other. -/
theorem flatten_partsBetween (content : Text) :
    (partsBetween content).flatten = stripNoExample content := by
  induction content using partsBetween.induct with
  | case1 content hcut =>
      rw [partsBetween_of_cutAround?_eq_none hcut, stripNoExample_of_cutAround?_eq_none hcut]
      exact List.flatten_singleton
  | case2 content before after hcut ih =>
      rw [partsBetween_of_cutAround? hcut, stripNoExample_of_cutAround? hcut, List.flatten_cons, ih]

/-- No part holds a marker, so a marker in what is left has come up between parts. -/
theorem not_infix_of_mem_partsBetween {content part : Text} (h : part ∈ partsBetween content) :
    ¬ noExample <:+: part := by
  induction content using partsBetween.induct with
  | case1 content hcut =>
      rw [partsBetween_of_cutAround?_eq_none hcut, List.mem_singleton] at h
      rw [h]
      exact Text.cutAround?_eq_none_iff.mp hcut
  | case2 content before after hcut ih =>
      rw [partsBetween_of_cutAround? hcut] at h
      rcases List.mem_cons.mp h with rfl | hlater
      · have hbefore := (Text.cutAround?_eq_some noExample_ne_nil hcut).2
        exact fun hin ↦ hbefore (hin.trans (Text.dropLastBlank_isPrefix before).isInfix)
      · exact ih hlater

/-- A marker is left exactly where the parts around the markers taken out spell it anew. -/
theorem infix_stripNoExample_iff (content : Text) :
    noExample <:+: stripNoExample content ↔
      Text.StandsAcross noExample (partsBetween content) := by
  rw [← flatten_partsBetween]
  exact Text.infix_flatten_iff noExample_ne_nil fun _ ↦ not_infix_of_mem_partsBetween

/-! ## Taking the markers out twice -/

theorem length_stripNoExample_le (content : Text) :
    (stripNoExample content).length ≤ content.length := by
  induction content using partsBetween.induct with
  | case1 content hcut => rw [stripNoExample_of_cutAround?_eq_none hcut]
  | case2 content before after hcut ih =>
      obtain ⟨hcontent, -⟩ := Text.cutAround?_eq_some noExample_ne_nil hcut
      have hbefore := (Text.dropLastBlank_isPrefix before).length_le
      rw [stripNoExample_of_cutAround? hcut, hcontent]
      simp only [List.length_append, List.length_drop] at ih ⊢
      omega

theorem stripNoExample_eq_self_iff (content : Text) :
    stripNoExample content = content ↔ ¬ noExample <:+: content := by
  constructor
  · intro heq hin
    obtain ⟨⟨before, after⟩, hcut⟩ := Option.isSome_iff_exists.mp (Text.mentions_iff.mpr hin)
    obtain ⟨hcontent, -⟩ := Text.cutAround?_eq_some noExample_ne_nil hcut
    -- At least the marker itself is gone.
    have hbefore := (Text.dropLastBlank_isPrefix before).length_le
    have hafter := length_stripNoExample_le (after.drop 1)
    have hmarker := List.length_pos_iff.mpr noExample_ne_nil
    have hlength := congrArg List.length heq
    rw [stripNoExample_of_cutAround? hcut, hcontent] at hlength
    simp only [List.length_append, List.length_drop] at hlength hafter
    omega
  · intro h
    exact stripNoExample_eq_self (Text.mentions_eq_false_iff.mpr h)

end EndpointDocs
