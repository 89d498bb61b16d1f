import EndpointDocs.Proofs.Words
import EndpointDocs.Text.Pattern

/-!
# The search for a pattern

A repetition ends at the last place from which the rest of the pattern succeeds, and a search begins
at the first place from which the pattern does.
-/

namespace EndpointDocs

variable {α β : Type}

/-- The place between the front part of a text and what follows it. -/
def Place.between (before : Option Char) (front back : Text) : Place :=
  ⟨front.getLast?.or before, back⟩

namespace Place

@[simp] theorem between_nil (before : Option Char) (back : Text) :
    between before [] back = ⟨before, back⟩ := rfl

@[simp] theorem between_cons (before : Option Char) (c : Char) (front back : Text) :
    between before (c :: front) back = between (some c) front back := by
  cases front <;> simp [between, List.getLast?_cons]

theorem between_append (before : Option Char) (front middle back : Text) :
    between before (front ++ middle) back = between (front.getLast?.or before) middle back := by
  simp [between, List.getLast?_append, Option.or_assoc]

end Place

namespace Pattern

theorem add_length_cons (taken : Nat) (c : Char) (front : Text) :
    taken + (c :: front).length = taken + 1 + front.length := by
  rw [List.length_cons]
  omega

/-- A repetition fails only if the rest of the pattern fails wherever it could end. -/
theorem manyFrom_eq_none {p : Char → Bool} {next : Nat → Place → Option α} {taken : Nat}
    {before : Option Char} {s : Text} (h : manyFrom p next taken before s = none)
    (front back : Text) (hs : s = front ++ back) (hfront : ∀ c ∈ front, p c = true) :
    next (taken + front.length) (.between before front back) = none := by
  induction s generalizing taken before front with
  | nil =>
      obtain ⟨rfl, rfl⟩ := List.nil_eq_append_iff.mp hs
      exact h
  | cons c s ih =>
      rw [manyFrom] at h
      cases front with
      | nil =>
          obtain rfl : c :: s = back := hs
          split at h
          · split at h
            · cases h
            · exact h
          · exact h
      | cons d front =>
          obtain ⟨rfl, rfl⟩ : c = d ∧ s = front ++ back := List.cons.inj hs
          rw [if_pos (hfront c List.mem_cons_self)] at h
          cases hlonger : manyFrom p next (taken + 1) (some c) (front ++ back) with
          | some found => simp [hlonger] at h
          | none =>
              rw [add_length_cons, Place.between_cons]
              exact ih hlonger front rfl fun c hc ↦ hfront c (List.mem_cons_of_mem _ hc)

/-- A repetition takes a front part of the class from which the rest of the pattern succeeds, and
none that is longer. -/
theorem manyFrom_eq_some {p : Char → Bool} {next : Nat → Place → Option α} {taken : Nat}
    {before : Option Char} {s : Text} {found : α}
    (h : manyFrom p next taken before s = some found) :
    ∃ front back, s = front ++ back ∧ (∀ c ∈ front, p c = true) ∧
      next (taken + front.length) (.between before front back) = some found ∧
      ∀ more rest, back = more ++ rest → more ≠ [] → (∀ c ∈ more, p c = true) →
        next (taken + (front ++ more).length) (.between before (front ++ more) rest) = none := by
  induction s generalizing taken before with
  | nil =>
      refine ⟨[], [], rfl, by simp, h, ?_⟩
      intro more rest hmore hne
      exact absurd (List.nil_eq_append_iff.mp hmore).1 hne
  | cons c s ih =>
      rw [manyFrom] at h
      by_cases hc : p c = true
      · rw [if_pos hc] at h
        cases hlonger : manyFrom p next (taken + 1) (some c) s with
        | some later =>
            obtain rfl : later = found := by simpa [hlonger] using h
            obtain ⟨front, back, rfl, hfront, hnext, hmax⟩ := ih hlonger
            refine ⟨c :: front, back, rfl, by simpa [hc] using hfront, ?_, ?_⟩
            · rwa [add_length_cons, Place.between_cons]
            · intro more rest hmore hne hall
              rw [List.cons_append, add_length_cons, Place.between_cons]
              exact hmax more rest hmore hne hall
        | none =>
            -- Nothing is taken here because every longer front part fails.
            refine ⟨[], c :: s, rfl, by simp, by simpa [hlonger] using h, ?_⟩
            intro more rest hmore hne hall
            obtain ⟨d, more, rfl⟩ := List.exists_cons_of_ne_nil hne
            obtain ⟨rfl, htail⟩ := List.cons.inj hmore
            rw [List.nil_append, add_length_cons, Place.between_cons]
            apply manyFrom_eq_none hlonger more rest htail
            exact fun c hc ↦ hall c (List.mem_cons_of_mem _ hc)
      · rw [if_neg hc] at h
        refine ⟨[], c :: s, rfl, by simp, h, ?_⟩
        intro more rest hmore hne hall
        obtain ⟨d, more, rfl⟩ := List.exists_cons_of_ne_nil hne
        obtain ⟨rfl, -⟩ := List.cons.inj hmore
        exact absurd (hall c List.mem_cons_self) hc

/-- A repetition takes all that belongs to the class if the rest of the pattern succeeds there. -/
theorem manyFrom_of_takeWhile {p : Char → Bool} {next : Nat → Place → Option α} {taken : Nat}
    {before : Option Char} {s : Text} {found : α}
    (h : next (taken + (s.takeWhile p).length)
      (.between before (s.takeWhile p) (s.dropWhile p)) = some found) :
    manyFrom p next taken before s = some found := by
  induction s generalizing taken before with
  | nil => exact h
  | cons c s ih =>
      rw [manyFrom]
      by_cases hc : p c = true
      · rw [List.takeWhile_cons_of_pos hc, List.dropWhile_cons_of_pos hc, add_length_cons,
          Place.between_cons] at h
        rw [if_pos hc, ih h]
      · rw [List.takeWhile_cons_of_neg hc, List.dropWhile_cons_of_neg hc] at h
        rwa [if_neg hc]

theorem atLeastOne_of_head {p : Char → Bool} {place : Place} {c : Char} {s : Text}
    (hrest : place.rest = c :: s) (hc : p c = true) (f : Nat → α) :
    atLeastOne p place (fun taken _ ↦ some (f taken)) =
      some (f (place.rest.takeWhile p).length) := by
  apply manyFrom_of_takeWhile
  rw [hrest, List.takeWhile_cons_of_pos hc, Nat.zero_add, if_neg (by simp)]

theorem many_const (p : Char → Bool) (place : Place) (found : α) :
    many p place (fun _ _ ↦ some found) = some found := by
  obtain ⟨before, s⟩ := place
  rw [many]
  generalize 0 = taken
  induction s generalizing taken before with
  | nil => rfl
  | cons c s ih =>
      rw [manyFrom]
      split
      · rw [ih]
      · rfl

/-- A search fails only if the pattern fails at every place. -/
theorem firstFrom_eq_none {pattern : Place → Option α} {before : Option Char} {s : Text}
    (h : firstFrom pattern before s = none) (front back : Text) (hs : s = front ++ back) :
    pattern (.between before front back) = none := by
  induction s generalizing before front with
  | nil =>
      obtain ⟨rfl, rfl⟩ := List.nil_eq_append_iff.mp hs
      exact h
  | cons c s ih =>
      rw [firstFrom] at h
      cases hhere : pattern ⟨before, c :: s⟩ with
      | some found => simp [hhere] at h
      | none =>
          cases front with
          | nil =>
              obtain rfl : c :: s = back := hs
              exact hhere
          | cons d front =>
              obtain ⟨rfl, htail⟩ := List.cons.inj hs
              rw [Place.between_cons]
              exact ih (by simpa [hhere] using h) front htail

/-- A search finds the pattern at a place, and not at any place before. -/
theorem firstFrom_eq_some {pattern : Place → Option α} {before : Option Char} {s : Text}
    {found : α} (h : firstFrom pattern before s = some found) :
    ∃ front back, s = front ++ back ∧ pattern (.between before front back) = some found ∧
      ∀ shorter rest, s = shorter ++ rest → shorter.length < front.length →
        pattern (.between before shorter rest) = none := by
  induction s generalizing before with
  | nil => exact ⟨[], [], rfl, h, by simp⟩
  | cons c s ih =>
      rw [firstFrom] at h
      cases hhere : pattern ⟨before, c :: s⟩ with
      | some first =>
          obtain rfl : first = found := by simpa [hhere] using h
          exact ⟨[], c :: s, rfl, hhere, by simp⟩
      | none =>
          obtain ⟨front, back, rfl, hfound, hnone⟩ := ih (by simpa [hhere] using h)
          refine ⟨c :: front, back, rfl, by rwa [Place.between_cons], ?_⟩
          intro shorter rest hs hlt
          cases shorter with
          | nil =>
              obtain rfl : c :: (front ++ back) = rest := hs
              exact hhere
          | cons d shorter =>
              obtain ⟨rfl, htail⟩ := List.cons.inj hs
              rw [Place.between_cons]
              exact hnone shorter rest htail (by simpa using hlt)

/-! ## What the rest of a pattern gives may be changed afterwards -/

/-- What is made of a match can be made before or after the search for it. -/
theorem map_manyFrom (f : α → β) (p : Char → Bool) (next : Nat → Place → Option α) (taken : Nat)
    (before : Option Char) (s : Text) :
    (manyFrom p next taken before s).map f =
      manyFrom p (fun n place ↦ (next n place).map f) taken before s := by
  induction s generalizing taken before with
  | nil => rfl
  | cons c s ih =>
      rw [manyFrom, manyFrom, ← ih]
      split
      · cases manyFrom p next (taken + 1) (some c) s <;> rfl
      · rfl

theorem map_many (f : α → β) (p : Char → Bool) (place : Place) (next : Nat → Place → Option α) :
    (many p place next).map f = many p place fun n place ↦ (next n place).map f :=
  map_manyFrom ..

theorem map_atLeastOne (f : α → β) (p : Char → Bool) (place : Place)
    (next : Nat → Place → Option α) :
    (atLeastOne p place next).map f = atLeastOne p place fun n place ↦ (next n place).map f := by
  rw [atLeastOne, atLeastOne, map_many]
  congr 1
  funext n place
  split <;> rfl

theorem map_firstFrom (f : α → β) (pattern : Place → Option α) (before : Option Char) (s : Text) :
    (firstFrom pattern before s).map f =
      firstFrom (fun place ↦ (pattern place).map f) before s := by
  induction s generalizing before with
  | nil => rfl
  | cons c s ih =>
      rw [firstFrom, firstFrom, ← ih]
      cases pattern ⟨before, c :: s⟩ <;> rfl

theorem map_wordEdge (f : α → β) (place : Place) (next : Place → Option α) :
    (wordEdge place next).map f = wordEdge place fun place ↦ (next place).map f := by
  rw [wordEdge, wordEdge]
  split <;> rfl

theorem map_literal (f : α → β) (s : Text) (place : Place) (next : Place → Option α) :
    (literal s place next).map f = literal s place fun place ↦ (next place).map f := by
  rw [literal, literal]
  cases s.isPrefixOf? place.rest <;> rfl

end Pattern

end EndpointDocs
