import EndpointDocs.Proofs.Occurrence
import EndpointDocs.Proofs.PatternSearch
import EndpointDocs.Tag.InlineExample

/-!
# The marker of an inline example

The pattern of an inline example is searched for by trying out places and lengths.  What it finds
can be said without them: of all markers that an example can follow it takes the last one in the
first line that has one, the description from the start of that line, and the literal up to the end
of the line in which it begins.
-/

namespace EndpointDocs

namespace InlineExample

/-- What the pattern takes for the literal of a marker that stands at a place. -/
def literalAt? (edge : Place) : Option Text :=
  Pattern.wordEdge edge fun edge ↦
    Pattern.literal marker edge fun after ↦
      Pattern.many isBlank after fun _ first ↦
        Pattern.atLeastOne inLine first fun shown after ↦
          Pattern.many isBlank after fun _ _ ↦ some (first.rest.take shown)

theorem pattern_eq (place : Place) :
    pattern place = Pattern.many inLine place fun described edge ↦
      (literalAt? edge).map (place.rest.take described, ·) := by
  simp only [pattern, literalAt?, Pattern.map_wordEdge, Pattern.map_literal, Pattern.map_many,
    Pattern.map_atLeastOne, Option.map_some]

theorem inLine_of_newline_not_mem {s : Text} (h : '\n' ∉ s) : ∀ c ∈ s, inLine c = true := by
  intro c hc
  have hne : c ≠ '\n' := fun heq ↦ h (heq ▸ hc)
  simpa [inLine] using hne

theorem newline_not_mem_of_inLine {s : Text} (h : ∀ c ∈ s, inLine c = true) : '\n' ∉ s :=
  fun hmem ↦ absurd (h _ hmem) (by decide)

theorem inLine_of_not_blank {c : Char} (h : isBlank c = false) : inLine c = true := by
  have hne : c ≠ '\n' := by
    rintro rfl
    cases h
  simpa [inLine] using hne

theorem isBlank_of_not_inLine {c : Char} (h : inLine c = false) : isBlank c = true := by
  obtain rfl : c = '\n' := by simpa [inLine] using h
  rfl

/-! ## The literal -/

/-- The literal that follows a marker: from the first character that is not blank to the end of its
line, without the blanks around it. -/
def literalAfter (after : Text) : Text :=
  Text.trim ((Text.trimStart after).takeWhile inLine)

theorem eq_append_of_literalAt? {edge : Place} {literal : Text}
    (h : literalAt? edge = some literal) :
    edge.atWordEdge = true ∧
      ∃ blanks left, edge.rest = marker ++ (blanks ++ (literal ++ left)) ∧ literal ≠ [] ∧
        ∀ c ∈ literal, inLine c = true := by
  rw [literalAt?, Pattern.wordEdge] at h
  split at h
  · next hedge =>
    refine ⟨hedge, ?_⟩
    rw [Pattern.literal] at h
    cases hafter : marker.isPrefixOf? edge.rest with
    | none => simp [hafter] at h
    | some after =>
        simp only [hafter, Pattern.many_const] at h
        obtain ⟨blanks, rest, hsplit, -, hnext, -⟩ := Pattern.manyFrom_eq_some h
        obtain ⟨shown, left, hrest, hshown, htaken, -⟩ := Pattern.manyFrom_eq_some hnext
        replace hsplit : after = blanks ++ rest := hsplit
        replace hrest : rest = shown ++ left := hrest
        subst hrest
        split at htaken
        · cases htaken
        · next hlength =>
          obtain rfl : shown = literal := by simpa [Place.between] using htaken
          refine ⟨blanks, left, ?_, ?_, hshown⟩
          · rw [← Text.append_of_isPrefixOf? hafter, hsplit]
          · rintro rfl
            exact hlength rfl
  · cases h

theorem literalAt?_of_trimStart {edge : Place} (hedge : edge.atWordEdge = true) {after : Text}
    (hrest : edge.rest = marker ++ after) {c : Char} {rest : Text}
    (hstart : Text.trimStart after = c :: rest) :
    literalAt? edge = some ((c :: rest).takeWhile inLine) := by
  have hblank : isBlank c = false := Text.head_trimStart (s := after) (by rw [hstart]; rfl)
  have hc : inLine c = true := inLine_of_not_blank hblank
  rw [literalAt?, Pattern.wordEdge, if_pos hedge, Pattern.literal, hrest, Text.isPrefixOf?_append]
  simp only [Pattern.many_const]
  -- All blanks are passed over, and the whole of the line behind them is taken.
  apply Pattern.manyFrom_of_takeWhile
  rw [Pattern.atLeastOne_of_head hstart hc]
  rw [← hstart]
  exact congrArg some (List.prefix_iff_eq_take.mp (List.takeWhile_prefix inLine)).symm

theorem trim_of_literalAt? {edge : Place} {literal after : Text}
    (hrest : edge.rest = marker ++ after) (h : literalAt? edge = some literal) :
    Text.trim literal = literalAfter after := by
  obtain ⟨hedge, blanks, left, hrest', -, -⟩ := eq_append_of_literalAt? h
  have hafter : after = blanks ++ (literal ++ left) :=
    List.append_cancel_left (hrest.symm.trans hrest')
  cases hstart : Text.trimStart after with
  | nil =>
      have hblank : ∀ c ∈ literal, isBlank c = true := fun c hc ↦
        List.dropWhile_eq_nil_iff.mp hstart c (by simp [hafter, hc])
      have htrim := Text.trim_append_of_blank hblank []
      rw [List.append_nil] at htrim
      rw [htrim, literalAfter, hstart]
      rfl
  | cons c rest =>
      rw [literalAt?_of_trimStart hedge hrest hstart] at h
      rw [literalAfter, hstart, Option.some.inj h]

theorem literalAt?_ne_none {edge : Place} (hedge : edge.atWordEdge = true) {after : Text}
    (hrest : edge.rest = marker ++ after) {c : Char} (hc : c ∈ after) (hline : inLine c = true) :
    literalAt? edge ≠ none := by
  intro hnone
  rw [literalAt?, Pattern.wordEdge, if_pos hedge, Pattern.literal, hrest,
    Text.isPrefixOf?_append] at hnone
  simp only [Pattern.many_const] at hnone
  -- The blanks may have to leave one to the literal, which can start with any character of a line.
  have hsplit := List.takeWhile_append_dropWhile (p := fun d ↦ !inLine d) (l := after)
  cases hback : after.dropWhile fun d ↦ !inLine d with
  | nil => simpa [hline] using List.dropWhile_eq_nil_iff.mp hback c hc
  | cons d back =>
      have hd : inLine d = true := by
        have hhead := List.head?_dropWhile_not (fun d ↦ !inLine d) after
        simpa [hback] using hhead
      have hblank : ∀ e ∈ after.takeWhile fun d ↦ !inLine d, isBlank e = true := fun e he ↦
        isBlank_of_not_inLine (by simpa using List.mem_takeWhile_imp he)
      have hfirst := Pattern.manyFrom_eq_none hnone _ _ hsplit.symm hblank
      rw [hback] at hfirst
      have hshown := Pattern.manyFrom_eq_none hfirst [d] back rfl (by simpa using hd)
      cases hshown

/-! ## The places where an example starts -/

/-- Whether a marker with a literal stands at a place. -/
def startsAt (edge : Place) : Bool :=
  (literalAt? edge).isSome

theorem marker_eq : marker = 'E' :: "xample:".toList := by decide +kernel

theorem atWordEdge_marker (before : Option Char) (after : Text) :
    Place.atWordEdge ⟨before, marker ++ after⟩ = true ↔ before.any isWordChar = false := by
  have hE : isWordChar 'E' = true := by decide +kernel
  rw [marker_eq]
  simp [Place.atWordEdge, hE]

theorem startsAt_iff {before : Option Char} {s : Text} :
    startsAt ⟨before, s⟩ = true ↔
      before.any isWordChar = false ∧
        ∃ after, s = marker ++ after ∧ ∃ c ∈ after, inLine c = true := by
  rw [startsAt, Option.isSome_iff_ne_none]
  constructor
  · intro h
    obtain ⟨literal, hliteral⟩ := Option.ne_none_iff_exists'.mp h
    obtain ⟨hedge, blanks, left, hs, hne, hline⟩ := eq_append_of_literalAt? hliteral
    obtain rfl : s = marker ++ (blanks ++ (literal ++ left)) := hs
    obtain ⟨c, literal, rfl⟩ := List.exists_cons_of_ne_nil hne
    exact ⟨(atWordEdge_marker before _).mp hedge, _, rfl, c, by simp, hline c List.mem_cons_self⟩
  · rintro ⟨hword, after, rfl, c, hc, hline⟩
    exact literalAt?_ne_none ((atWordEdge_marker before after).mpr hword) rfl hc hline

/-! ## The marker that is chosen -/

variable {raw front after above described : Text}

/-- A marker that an example can follow: no word runs into it, and something other than line feeds
stands behind it. -/
structure IsOpening (front after raw : Text) : Prop where
  eq_append : raw = front ++ (marker ++ after)
  edge : ∀ c, front.getLast? = some c → isWordChar c = false
  followed : ∃ c ∈ after, c ≠ '\n'

/-- The last such marker in the first line that has one.  The line begins behind the text above it,
and the description is what stands between. -/
structure IsChosen (above described after raw : Text) : Prop where
  isOpening : IsOpening (above ++ described) after raw
  above_ends : ∀ c, above.getLast? = some c → c = '\n'
  in_line : '\n' ∉ described
  first_line : ∀ front later, IsOpening front later raw → above <+: front
  last_in_line : ∀ further later,
    IsOpening (above ++ further) later raw → '\n' ∉ further → further <+: described

/-- How a text is divided between the description and the literal of an example. -/
inductive Divides (raw : Text) : Text → Option Text → Prop
  | plain (h : ∀ front after, ¬ IsOpening front after raw) : Divides raw (Text.trim raw) none
  | inlined {above described after : Text} (h : IsChosen above described after raw) :
      Divides raw (Text.trim described) (some (literalAfter after))

/-- A marker with a literal stands in a text where an opening is. -/
theorem startsAt_between_iff :
    startsAt (.between none front (marker ++ after)) = true ↔
      IsOpening front after (front ++ (marker ++ after)) := by
  rw [Place.between, Option.or_none, startsAt_iff, Option.any_eq_false]
  constructor
  · rintro ⟨hedge, later, hlater, c, hc, hline⟩
    obtain rfl := List.append_cancel_left hlater
    exact ⟨rfl, by simpa using hedge, c, hc, by simpa [inLine] using hline⟩
  · rintro ⟨-, hedge, c, hc, hline⟩
    exact ⟨by simpa using hedge, after, rfl, c, hc, by simpa [inLine] using hline⟩

/-- Where the pattern fails, no marker with a literal stands in what is left of the line. -/
theorem literalAt?_of_pattern_eq_none {before : Option Char} {s : Text}
    (h : pattern ⟨before, s⟩ = none) (front back : Text) (hs : s = front ++ back)
    (hfront : '\n' ∉ front) :
    literalAt? (.between before front back) = none := by
  rw [pattern_eq] at h
  have hmiss := Pattern.manyFrom_eq_none h front back hs (inLine_of_newline_not_mem hfront)
  exact Option.map_eq_none_iff.mp hmiss

/-- Where the pattern matches, the description goes as far in the line as an example starts. -/
theorem pattern_eq_some {before : Option Char} {s shown : Text}
    (h : pattern ⟨before, s⟩ = some (described, shown)) :
    ∃ back, s = described ++ back ∧ '\n' ∉ described ∧
      literalAt? (.between before described back) = some shown ∧
      ∀ further rest, s = further ++ rest → '\n' ∉ further →
        startsAt (.between before further rest) = true → further <+: described := by
  rw [pattern_eq] at h
  obtain ⟨front, back, hs, hfront, hfound, hlonger⟩ := Pattern.manyFrom_eq_some h
  obtain rfl : s = front ++ back := hs
  obtain ⟨literal, hliteral, heq⟩ := Option.map_eq_some_iff.mp hfound
  obtain ⟨hdescribed, rfl⟩ := Prod.mk.inj heq
  obtain rfl : front = described := by simpa using hdescribed
  refine ⟨back, rfl, newline_not_mem_of_inLine hfront, hliteral, ?_⟩
  intro further rest hs hfurther hstarts
  obtain ⟨more, rfl, hback⟩ | ⟨more, rfl, -⟩ := List.append_eq_append_iff.mp hs
  · -- The repetition has given up all longer descriptions.
    have hmore : more = [] := by
      by_contra hne
      have hline : '\n' ∉ more := fun hmem ↦ hfurther (List.mem_append_right front hmem)
      have hnone := hlonger more rest hback hne (inLine_of_newline_not_mem hline)
      rw [startsAt, Option.isSome_iff_ne_none] at hstarts
      exact hstarts (Option.map_eq_none_iff.mp hnone)
    rw [hmore, List.append_nil]
  · exact List.prefix_append further more

theorem IsOpening.pattern_ne_none (h : IsOpening front after raw) :
    pattern (.between none front (marker ++ after)) ≠ none := by
  intro hfail
  have hnone := literalAt?_of_pattern_eq_none hfail [] _ rfl (by simp)
  have hstarts := startsAt_between_iff.mpr (h.eq_append ▸ h)
  rw [startsAt, Option.isSome_iff_ne_none] at hstarts
  exact hstarts hnone

theorem not_isOpening_of_first? (h : Pattern.first? pattern raw = none) (front after : Text) :
    ¬ IsOpening front after raw := fun hopening ↦
  hopening.pattern_ne_none (Pattern.firstFrom_eq_none h front _ hopening.eq_append)

/-- What the search finds is the last opening in the first line that has one. -/
theorem isChosen_of_first? {shown : Text}
    (h : Pattern.first? pattern raw = some (described, shown)) :
    ∃ above after, IsChosen above described after raw ∧ Text.trim shown = literalAfter after := by
  obtain ⟨above, line, rfl, hmatch, hbefore⟩ := Pattern.firstFrom_eq_some h
  obtain ⟨back, rfl, hin, hliteral, hlast⟩ := pattern_eq_some hmatch
  rw [← Place.between_append] at hliteral
  obtain ⟨after, rfl⟩ : ∃ after, back = marker ++ after := by
    obtain ⟨-, blanks, left, hback, -, -⟩ := eq_append_of_literalAt? hliteral
    exact ⟨_, hback⟩
  have hopening :
      IsOpening (above ++ described) after (above ++ (described ++ (marker ++ after))) := by
    rw [← List.append_assoc, ← startsAt_between_iff, startsAt, hliteral]
    rfl
  refine ⟨above, after, ⟨hopening, ?_, hin, ?_, ?_⟩, trim_of_literalAt? rfl hliteral⟩
  · -- Behind any other character the match could have started there already.
    intro c hc
    by_contra hne
    obtain ⟨higher, rfl⟩ := List.getLast?_eq_some_iff.mp hc
    have hfail := hbefore higher (c :: (described ++ (marker ++ after))) (by simp) (by simp)
    have hnone := literalAt?_of_pattern_eq_none hfail (c :: described) _ rfl
      (by simp [Ne.symm hne, hin])
    rw [← Place.between_append, List.append_cons, hliteral] at hnone
    cases hnone
  · intro other later hother
    have hprefix : other <+: above ++ (described ++ (marker ++ after)) :=
      ⟨_, hother.eq_append.symm⟩
    refine List.prefix_of_prefix_length_le (List.prefix_append _ _) hprefix ?_
    by_contra hlt
    exact hother.pattern_ne_none (hbefore other _ hother.eq_append (by omega))
  · intro further later hother hfurther
    apply hlast further (marker ++ later) ?_ hfurther
    · rw [← Place.between_append]
      exact startsAt_between_iff.mpr (hother.eq_append ▸ hother)
    · exact List.append_cancel_left (hother.eq_append.trans (List.append_assoc ..))

/-- The search for the pattern divides a text as it should be divided. -/
theorem divides_split? (raw : Text) :
    Divides raw (((split? raw).map Prod.fst).getD (Text.trim raw)) ((split? raw).map Prod.snd) := by
  rw [split?]
  cases hfirst : Pattern.first? pattern raw with
  | none => exact .plain (not_isOpening_of_first? hfirst)
  | some found =>
      obtain ⟨described, shown⟩ := found
      obtain ⟨above, after, hchosen, hliteral⟩ := isChosen_of_first? hfirst
      have hdivides := Divides.inlined hchosen
      rwa [← hliteral] at hdivides

theorem IsChosen.above_isPrefix {above' described' after' : Text}
    (h : IsChosen above described after raw) (h' : IsChosen above' described' after' raw) :
    above <+: above' := by
  obtain ⟨rest, hrest⟩ := h.first_line _ _ h'.isOpening
  obtain ⟨more, habove', -⟩ | ⟨more, habove, hdescribed'⟩ := List.append_eq_append_iff.mp hrest
  · exact ⟨more, habove'.symm⟩
  · -- What is more would be a part of the other line that ends in a line feed.
    cases hlast : more.getLast? with
    | none =>
        obtain rfl := List.getLast?_eq_none_iff.mp hlast
        rw [habove, List.append_nil]
    | some c =>
        obtain rfl : c = '\n' := h.above_ends c (by simp [habove, List.getLast?_append, hlast])
        exact absurd (by simp [hdescribed', List.mem_of_getLast? hlast]) h'.in_line

theorem IsChosen.unique {above' described' after' : Text} (h : IsChosen above described after raw)
    (h' : IsChosen above' described' after' raw) : described = described' ∧ after = after' := by
  obtain rfl : above = above' :=
    (h.above_isPrefix h').eq_of_length_le (h'.above_isPrefix h).length_le
  obtain rfl : described = described' :=
    (h'.last_in_line _ _ h.isOpening h.in_line).eq_of_length_le
      (h.last_in_line _ _ h'.isOpening h'.in_line).length_le
  refine ⟨rfl, ?_⟩
  have heq := h.isOpening.eq_append.symm.trans h'.isOpening.eq_append
  exact List.append_cancel_left (List.append_cancel_left heq)

/-- There is one way to divide a text. -/
theorem Divides.unique {description description' : Text} {literal? literal?' : Option Text}
    (h : Divides raw description literal?) (h' : Divides raw description' literal?') :
    description = description' ∧ literal? = literal?' := by
  cases h with
  | plain hnone =>
      cases h' with
      | plain _ => exact ⟨rfl, rfl⟩
      | inlined hchosen => exact absurd hchosen.isOpening (hnone _ _)
  | inlined hchosen =>
      cases h' with
      | plain hnone => exact absurd hchosen.isOpening (hnone _ _)
      | inlined hchosen' =>
          obtain ⟨rfl, rfl⟩ := hchosen.unique hchosen'
          exact ⟨rfl, rfl⟩

theorem Divides.isInfix {description : Text} {literal? : Option Text}
    (h : Divides raw description literal?) : description <:+: raw := by
  cases h with
  | plain _ => exact Text.trim_isInfix raw
  | @inlined above described after hchosen =>
      refine (Text.trim_isInfix described).trans ⟨above, marker ++ after, ?_⟩
      exact hchosen.isOpening.eq_append.symm

theorem Divides.exists_isChosen {description literal : Text}
    (h : Divides raw description (some literal)) :
    ∃ above described after, IsChosen above described after raw ∧
      description = Text.trim described ∧ literal = literalAfter after := by
  generalize hliteral : some literal = literal? at h
  cases h with
  | plain _ => cases hliteral
  | inlined hchosen => exact ⟨_, _, _, hchosen, rfl, Option.some.inj hliteral⟩

/-- In a text of one line the description is what stands before a marker, and the literal is what
stands after it. -/
theorem eq_append_of_split? {raw description literal : Text} (hline : '\n' ∉ raw)
    (h : split? raw = some (description, literal)) :
    ∃ front after, raw = front ++ (marker ++ after) ∧ description = Text.trim front ∧
      literal = Text.trim after := by
  have hdivides := divides_split? raw
  rw [h] at hdivides
  obtain ⟨above, described, after, hchosen, rfl, rfl⟩ := hdivides.exists_isChosen
  have hraw := hchosen.isOpening.eq_append
  have habove : above = [] := by
    rw [← List.getLast?_eq_none_iff, Option.eq_none_iff_forall_not_mem]
    intro c hc
    obtain rfl := hchosen.above_ends c hc
    exact hline (by simp [hraw, List.mem_of_getLast? hc])
  subst habove
  refine ⟨described, after, hraw, rfl, ?_⟩
  obtain ⟨blanks, hafter, hblanks⟩ := Text.eq_append_trimStart after
  have hrest : '\n' ∉ Text.trimStart after := fun hmem ↦
    hline (by rw [hraw, hafter]; simp [hmem])
  rw [literalAfter, List.takeWhile_eq_self_iff.mpr (inLine_of_newline_not_mem hrest)]
  conv_rhs => rw [hafter, Text.trim_append_of_blank hblanks]

end InlineExample

theorem describe_eq_split? (raw : Text) (t : ParamType) :
    describe raw t = (((InlineExample.split? raw).map Prod.fst).getD (Text.trim raw),
      ((InlineExample.split? raw).map Prod.snd).map t.cast) := by
  rw [describe]
  cases InlineExample.split? raw <;> rfl

theorem describe_isInfix (raw : Text) (t : ParamType) : (describe raw t).1 <:+: raw := by
  rw [describe_eq_split?]
  exact (InlineExample.divides_split? raw).isInfix

/-- A description is divided at the last marker of the first line in which a marker can start an
example, and not at all where there is none; the example is the literal behind that marker, cast to
the type. -/
theorem describe_eq_iff_divides (raw : Text) (t : ParamType) (description : Text)
    (value : Option Json) :
    describe raw t = (description, value) ↔
      ∃ literal?, InlineExample.Divides raw description literal? ∧ value = literal?.map t.cast := by
  rw [describe_eq_split?, Prod.mk.injEq]
  constructor
  · rintro ⟨rfl, rfl⟩
    exact ⟨_, InlineExample.divides_split? raw, rfl⟩
  · rintro ⟨literal?, hdivides, rfl⟩
    obtain ⟨hdescription, hliteral⟩ := (InlineExample.divides_split? raw).unique hdivides
    exact ⟨hdescription, by rw [hliteral]⟩

end EndpointDocs
