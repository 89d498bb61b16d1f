import EndpointDocs.ParamType
import EndpointDocs.Proofs.LetterCase
import EndpointDocs.Proofs.Occurrence
import Mathlib.Data.List.TakeWhile

/-!
# The rule of types

What a token stands for, said by the wrappers in it and the names of types, with a budget of
wrappers that may be taken off.  Reading follows this rule, so neither the case of a letter nor the
blanks around a token or around what a wrapper holds make a difference.
-/

namespace EndpointDocs

namespace ParamType

/-- A token is a wrapper around another token. -/
inductive Wraps : Text → Wrapper → Text → Prop
  | array (inner : Text) : Wraps (inner ++ "[]".toList) .arrayOf inner
  | object {head inner : Text} : '<' ∉ head →
      head.lower = "object".toList ∨ head.lower = "map".toList → Text.trim inner ≠ [] →
      Wraps (head ++ '<' :: (inner ++ ['>'])) .objectOf inner

def IsNameOf (token : Text) (t : ParamType) : Prop :=
  ∃ names, (t, names) ∈ aliases ∧ ∃ name ∈ names, token.lower = name.toList

/-- What a token stands for as a name; a token that is no name stands for a string. -/
inductive Names : Text → ParamType → Prop
  | known {token : Text} {t : ParamType} : IsNameOf token t → Names token t
  | unknown {token : Text} : (∀ t, ¬ IsNameOf token t) → Names token .string

/-- What a token stands for if at most so many wrappers are taken off it.  Blanks beside what a
wrapper holds do not belong to it. -/
inductive StandsFor : ℕ → Text → ParamType → Prop
  | spent {token : Text} {t : ParamType} : Names token t → StandsFor 0 token t
  | wrapped {n : ℕ} {token inner : Text} {wrapper : Wrapper} {t : ParamType} :
      Wraps token wrapper inner → StandsFor n (Text.trim inner) t →
      StandsFor (n + 1) token (wrapper.wrap t)
  | bare {n : ℕ} {token : Text} {t : ParamType} : (∀ wrapper inner, ¬ Wraps token wrapper inner) →
      Names token t → StandsFor (n + 1) token t

/-! ## Names and wrappers -/

theorem ofAlias?_eq_some_iff {token : Text} {t : ParamType} :
    ofAlias? token = some t ↔ IsNameOf token t := by
  constructor
  · intro h
    obtain ⟨⟨t, names⟩, hfound, rfl⟩ := Option.map_eq_some_iff.mp h
    have hany := List.find?_some hfound
    obtain ⟨name, hname, heq⟩ := List.any_eq_true.mp hany
    exact ⟨names, List.mem_of_find?_eq_some hfound, name, hname, (eq_of_beq heq).symm⟩
  · rintro ⟨names, hmem, name, hname, hlower⟩
    -- No name stands in two entries of the table, so it is found in its own.
    have hown : ∀ entry ∈ aliases, ∀ name ∈ entry.2,
        (aliases.find? fun other ↦ other.2.any fun n ↦ n.toList == name.toList).map (·.1) =
          some entry.1 := by
      decide +kernel
    rw [ofAlias?, hlower]
    exact hown (t, names) hmem name hname

theorem names_iff {token : Text} {t : ParamType} :
    Names token t ↔ (ofAlias? token).getD .string = t := by
  constructor
  · rintro (hname | hnone)
    · rw [ofAlias?_eq_some_iff.mpr hname]
      rfl
    · have halias : ofAlias? token = none := by
        rw [Option.eq_none_iff_forall_ne_some]
        exact fun t h ↦ hnone t (ofAlias?_eq_some_iff.mp h)
      rw [halias]
      rfl
  · rintro rfl
    cases halias : ofAlias? token with
    | none =>
        apply Names.unknown
        intro t hname
        rw [← ofAlias?_eq_some_iff, halias] at hname
        cases hname
    | some t => exact .known (ofAlias?_eq_some_iff.mp halias)

theorem angleArgument?_eq_some_iff {token head inner : Text} :
    angleArgument? token = some (head, inner) ↔
      token = head ++ '<' :: (inner ++ ['>']) ∧ '<' ∉ head := by
  constructor
  · intro h
    rw [angleArgument?, List.span_eq_takeWhile_dropWhile] at h
    split at h
    · cases h
    · next front c rest hspan =>
      obtain ⟨rfl, hrest⟩ := Prod.mk.inj hspan
      obtain ⟨body, hbody, heq⟩ := Option.map_eq_some_iff.mp h
      obtain ⟨rfl, rfl⟩ := Prod.mk.inj heq
      have hopen := List.head?_dropWhile_not (· != '<') token
      obtain rfl : c = '<' := by simpa [hrest] using hopen
      constructor
      · have hclose : body ++ ['>'] = rest := List.isSuffixOf?_eq_some_iff_append_eq.mp hbody
        rw [hclose, ← hrest, List.takeWhile_append_dropWhile]
      · intro hmem
        simpa using List.mem_takeWhile_imp hmem
  · rintro ⟨rfl, hhead⟩
    have hall : ∀ c ∈ head, (c != '<') = true := by
      intro c hc
      exact bne_iff_ne.mpr fun heq ↦ hhead (heq ▸ hc)
    have hspan : (head ++ '<' :: (inner ++ ['>'])).span (· != '<') =
        (head, '<' :: (inner ++ ['>'])) := by
      rw [List.span_eq_takeWhile_dropWhile, List.takeWhile_append_of_pos hall,
        List.dropWhile_append_of_pos hall]
      simp
    have hclose : ">".toList.isSuffixOf? (inner ++ ['>']) = some inner :=
      Text.isSuffixOf?_append ">".toList inner
    rw [angleArgument?, hspan]
    simp only [hclose, Option.map_some]

theorem objectArgument?_eq_some_iff {token inner : Text} :
    objectArgument? token = some inner ↔ Wraps token .objectOf inner := by
  constructor
  · intro h
    rw [objectArgument?] at h
    split at h
    · cases h
    · next head body hargument =>
      obtain ⟨rfl, hhead⟩ := angleArgument?_eq_some_iff.mp hargument
      split at h
      · next hopens =>
        cases h
        simp only [Bool.and_eq_true, Bool.or_eq_true, beq_iff_eq, Bool.not_eq_true',
          List.isEmpty_eq_false_iff] at hopens
        exact .object hhead hopens.1 hopens.2
      · cases h
  · rintro (_ | ⟨hhead, hopens, hinner⟩)
    rw [objectArgument?, angleArgument?_eq_some_iff.mpr ⟨rfl, hhead⟩]
    rcases hopens with hopens | hopens
    · simp [hopens, hinner]
    · simp [hopens, hinner]

theorem Wraps.not_brackets_of_object {token inner : Text} (h : Wraps token .objectOf inner) :
    "[]".toList.isSuffixOf? token = none := by
  obtain _ | ⟨-, -, -⟩ := h
  rw [Text.isSuffixOf?_eq_none_iff]
  rintro ⟨front, heq⟩
  have hlast := congrArg (List.head? ∘ List.reverse) heq
  simp at hlast

/-- A wrapper is taken off exactly where the rule has one, and brackets come before angles. -/
theorem unwrapOnce?_eq_some_iff {token core : Text} {wrapper : Wrapper} :
    unwrapOnce? token = some (wrapper, core) ↔
      ∃ inner, Wraps token wrapper inner ∧ Text.trim inner = core := by
  constructor
  · intro h
    rw [unwrapOnce?] at h
    split at h
    · next inner hsuffix =>
      cases h
      rw [← List.isSuffixOf?_eq_some_iff_append_eq.mp hsuffix]
      exact ⟨inner, .array inner, rfl⟩
    · obtain ⟨inner, hobject, heq⟩ := Option.map_eq_some_iff.mp h
      cases heq
      exact ⟨inner, objectArgument?_eq_some_iff.mp hobject, rfl⟩
  · rintro ⟨inner, hwraps, rfl⟩
    cases wrapper with
    | arrayOf =>
        cases hwraps
        rw [unwrapOnce?, Text.isSuffixOf?_append]
    | objectOf =>
        rw [unwrapOnce?, hwraps.not_brackets_of_object, objectArgument?_eq_some_iff.mpr hwraps]
        rfl

theorem unwrapOnce?_eq_none_iff {token : Text} :
    unwrapOnce? token = none ↔ ∀ wrapper inner, ¬ Wraps token wrapper inner := by
  rw [Option.eq_none_iff_forall_ne_some]
  constructor
  · intro h wrapper inner hwraps
    exact h (wrapper, Text.trim inner) (unwrapOnce?_eq_some_iff.mpr ⟨inner, hwraps, rfl⟩)
  · rintro h ⟨wrapper, core⟩ hcore
    obtain ⟨inner, hwraps, -⟩ := unwrapOnce?_eq_some_iff.mp hcore
    exact h wrapper inner hwraps

/-! ## Reading with a budget -/

/-- The type of a token off which at most `n` wrappers are taken. -/
def ofTokenWithin (n : ℕ) (token : Text) : ParamType :=
  (unwrap n token).1.foldr Wrapper.wrap ((ofAlias? (unwrap n token).2).getD string)

theorem ofToken_eq (token : Text) :
    ofToken token = ofTokenWithin nestingLimit (Text.trim token) := rfl

theorem ofTokenWithin_zero (token : Text) :
    ofTokenWithin 0 token = (ofAlias? token).getD string := rfl

theorem ofTokenWithin_of_none {token : Text} (h : unwrapOnce? token = none) (n : ℕ) :
    ofTokenWithin (n + 1) token = (ofAlias? token).getD string := by
  rw [ofTokenWithin, unwrap, h]
  rfl

theorem ofTokenWithin_of_some {token core : Text} {wrapper : Wrapper}
    (h : unwrapOnce? token = some (wrapper, core)) (n : ℕ) :
    ofTokenWithin (n + 1) token = wrapper.wrap (ofTokenWithin n core) := by
  rw [ofTokenWithin, unwrap, h]
  rfl

/-- The recursive rule and the reading within a budget agree, for every budget. -/
theorem standsFor_iff {n : ℕ} {token : Text} {t : ParamType} :
    StandsFor n token t ↔ ofTokenWithin n token = t := by
  constructor
  · intro h
    induction h with
    | spent hnames => exact names_iff.mp hnames
    | wrapped hwraps _ ih =>
        rw [ofTokenWithin_of_some (unwrapOnce?_eq_some_iff.mpr ⟨_, hwraps, rfl⟩), ih]
    | bare hbare hnames =>
        rw [ofTokenWithin_of_none (unwrapOnce?_eq_none_iff.mpr hbare)]
        exact names_iff.mp hnames
  · rintro rfl
    induction n generalizing token with
    | zero => exact .spent (names_iff.mpr rfl)
    | succ n ih =>
        cases honce : unwrapOnce? token with
        | none =>
            rw [ofTokenWithin_of_none honce]
            exact .bare (unwrapOnce?_eq_none_iff.mp honce) (names_iff.mpr rfl)
        | some found =>
            obtain ⟨inner, hwraps, hcore⟩ := unwrapOnce?_eq_some_iff.mp honce
            rw [ofTokenWithin_of_some honce, ← hcore]
            exact .wrapped hwraps ih

/-! ## Blanks -/

/-- Two tokens have the same wrappers and differ only in the blanks around them and around what
their outermost `n` wrappers hold. -/
inductive SameButBlanks : ℕ → Text → Text → Prop
  | around {n : ℕ} {token other : Text} : Text.trim token = Text.trim other →
      SameButBlanks n token other
  | inside {n : ℕ} {token other inner core : Text} {wrapper : Wrapper} :
      Wraps (Text.trim token) wrapper inner → Wraps (Text.trim other) wrapper core →
      SameButBlanks n inner core → SameButBlanks (n + 1) token other

/-- Blanks around what the wrappers hold make no difference, down to the depth that is read. -/
theorem SameButBlanks.ofTokenWithin_eq {n : ℕ} {token other : Text}
    (h : SameButBlanks n token other) :
    ofTokenWithin n (Text.trim token) = ofTokenWithin n (Text.trim other) := by
  induction h with
  | around htrim => rw [htrim]
  | inside htoken hother _ ih =>
      rw [ofTokenWithin_of_some (unwrapOnce?_eq_some_iff.mpr ⟨_, htoken, rfl⟩),
        ofTokenWithin_of_some (unwrapOnce?_eq_some_iff.mpr ⟨_, hother, rfl⟩), ih]

/-! ## Case -/

theorem angleArgument?_map_toLower (token : Text) : angleArgument? (token.map Char.toLower) =
    (angleArgument? token).map (Prod.map (List.map Char.toLower) (List.map Char.toLower)) := by
  have hmark : '<'.isAlpha = false := by decide
  have hopen : (· != '<') ∘ Char.toLower = (· != '<') := by
    funext c
    rw [Bool.eq_iff_iff]
    simp only [Function.comp_apply, bne_iff_ne, ne_eq, toLower_eq_iff hmark]
  rw [angleArgument?, angleArgument?, List.span_eq_takeWhile_dropWhile, List.takeWhile_map,
    List.dropWhile_map, hopen, List.span_eq_takeWhile_dropWhile]
  cases token.dropWhile (· != '<') with
  | nil => rfl
  | cons c rest =>
      simp only [List.map_cons]
      rw [Text.isSuffixOf?_map_toLower (by simp), Option.map_map, Option.map_map]
      rfl

theorem objectArgument?_map_toLower (token : Text) : objectArgument? (token.map Char.toLower) =
    (objectArgument? token).map (List.map Char.toLower) := by
  rw [objectArgument?, objectArgument?, angleArgument?_map_toLower]
  cases angleArgument? token with
  | none => rfl
  | some parts =>
      obtain ⟨head, inner⟩ := parts
      simp only [Option.map_some, Prod.map_apply, Text.lower_map_toLower, Text.trim_map_toLower,
        List.isEmpty_map]
      split <;> rfl

theorem unwrapOnce?_map_toLower (token : Text) : unwrapOnce? (token.map Char.toLower) =
    (unwrapOnce? token).map (Prod.map id (List.map Char.toLower)) := by
  rw [unwrapOnce?, unwrapOnce?, Text.isSuffixOf?_map_toLower (by simp),
    objectArgument?_map_toLower]
  cases "[]".toList.isSuffixOf? token with
  | some inner => simp [Text.trim_map_toLower]
  | none =>
      cases objectArgument? token with
      | some inner => simp [Text.trim_map_toLower]
      | none => rfl

theorem ofAlias?_map_toLower (token : Text) :
    ofAlias? (token.map Char.toLower) = ofAlias? token := by
  rw [ofAlias?, ofAlias?, Text.lower_map_toLower]

theorem ofTokenWithin_map_toLower (n : ℕ) (token : Text) :
    ofTokenWithin n (token.map Char.toLower) = ofTokenWithin n token := by
  induction n generalizing token with
  | zero => rw [ofTokenWithin_zero, ofTokenWithin_zero, ofAlias?_map_toLower]
  | succ n ih =>
      have honce := unwrapOnce?_map_toLower token
      cases hfound : unwrapOnce? token with
      | none =>
          rw [hfound] at honce
          rw [ofTokenWithin_of_none honce, ofTokenWithin_of_none hfound, ofAlias?_map_toLower]
      | some found =>
          rw [hfound] at honce
          rw [ofTokenWithin_of_some honce, ofTokenWithin_of_some hfound, ih]
          rfl

/-- The case of the letters makes no difference. -/
theorem ofToken_map_toLower (token : Text) : ofToken (token.map Char.toLower) = ofToken token := by
  rw [ofToken_eq, ofToken_eq, Text.trim_map_toLower, ofTokenWithin_map_toLower]

/-- A token stands for the type that the rule gives with all the wrappers that may be taken off.  So
it stands for the same type whatever blanks are around it or around what these wrappers hold, and in
whatever case its letters of ASCII are. -/
theorem ofToken_eq_iff_standsFor :
    (∀ token t, ofToken token = t ↔ StandsFor nestingLimit (Text.trim token) t) ∧
      (∀ token other, SameButBlanks nestingLimit token other → ofToken token = ofToken other) ∧
      ∀ token other : Text, token.map Char.toLower = other.map Char.toLower →
        ofToken token = ofToken other := by
  refine ⟨?_, ?_, ?_⟩
  · intro token t
    rw [ofToken_eq, standsFor_iff]
  · intro token other h
    exact h.ofTokenWithin_eq
  · intro token other h
    rw [← ofToken_map_toLower token, h, ofToken_map_toLower]

/-! ## A token with blanks in it -/

def looseToken : Text := " Map< int [] > ".toList

def closeToken : Text := "Map<int[]>".toList

theorem sameButBlanks_looseToken : SameButBlanks nestingLimit looseToken closeToken := by
  have hloose : Wraps (Text.trim looseToken) .objectOf " int [] ".toList :=
    objectArgument?_eq_some_iff.mp (by decide +kernel)
  have hclose : Wraps (Text.trim closeToken) .objectOf "int[]".toList :=
    objectArgument?_eq_some_iff.mp (by decide +kernel)
  have htrim : Text.trim " int [] ".toList = "int ".toList ++ "[]".toList := by decide +kernel
  have hcloseTrim : Text.trim "int[]".toList = "int".toList ++ "[]".toList := by decide +kernel
  have hitem : Wraps (Text.trim " int [] ".toList) .arrayOf "int ".toList := htrim ▸ .array _
  have hcloseItem : Wraps (Text.trim "int[]".toList) .arrayOf "int".toList := hcloseTrim ▸ .array _
  have hname : Text.trim "int ".toList = Text.trim "int".toList := by decide +kernel
  exact .inside hloose hclose (.inside hitem hcloseItem (.around hname))

/-- A token with blanks at every level, the same one without them, and one in other letters. -/
theorem ofToken_eq_iff_standsFor_looseToken :
    StandsFor nestingLimit (Text.trim looseToken) (.objectOf (.arrayOf .integer)) ∧
      SameButBlanks nestingLimit looseToken closeToken ∧
      ofToken looseToken = ofToken closeToken ∧
      ofToken "MAP<Int[]>".toList = ofToken closeToken := by
  obtain ⟨hrule, hblanks, hcase⟩ := ofToken_eq_iff_standsFor
  refine ⟨(hrule _ _).mp (by decide +kernel), sameButBlanks_looseToken,
    hblanks _ _ sameButBlanks_looseToken, hcase _ _ (by decide +kernel)⟩

end ParamType

end EndpointDocs
