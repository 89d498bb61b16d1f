import EndpointDocs.Proofs.NumberSpelling

/-!
# Numbers at the front of a literal

A literal is cast to a number by the longest text of the grammar that it begins with after its
blanks, however the text goes on behind it.  The texts that are read as a double are not closed
under taking a front part, so the search for the longest one is a search backwards.
-/

namespace EndpointDocs

/-- Among the things that are written as `text` says, `x` is one that `s` begins with, and `s`
begins with none that is longer. -/
structure IsLongestFront {α : Type} (text : α → Text) (s : Text) (x : α) : Prop where
  front : text x <+: s
  longest : ∀ y, text y <+: s → (text y).length ≤ (text x).length

namespace IsLongestFront

variable {α : Type} {text : α → Text} {s s' : Text} {x y : α}

theorem text_eq (hx : IsLongestFront text s x) (hy : IsLongestFront text s y) :
    text x = text y := by
  have hlength := le_antisymm (hy.longest x hx.front) (hx.longest y hy.front)
  have hprefix := List.prefix_of_prefix_length_le hx.front hy.front hlength.le
  exact hprefix.eq_of_length hlength

theorem congr (h : IsLongestFront text s x) (hsame : ∀ y, text y <+: s ↔ text y <+: s') :
    IsLongestFront text s' x where
  front := (hsame x).mp h.front
  longest y hy := h.longest y ((hsame y).mpr hy)

end IsLongestFront

/-! ## Integers -/

/-- The integer that the signed digits at the front of a text denote, zero where there is no digit
or the integer does not fit. -/
inductive FrontInteger (s : Text) : ℤ → Prop
  | fits {w : SignedDigits} (longest : IsLongestFront SignedDigits.text s w)
      (hasDigit : w.digits ≠ []) (fits : IsInt64 w.value) : FrontInteger s w.value
  | zero {w : SignedDigits} (longest : IsLongestFront SignedDigits.text s w)
      (unfit : ¬ (w.digits ≠ [] ∧ IsInt64 w.value)) : FrontInteger s 0

/-- The scan for a sign and digits takes the longest front of that form. -/
theorem exists_isLongestFront_integerFront (s : Text) :
    ∃ w : SignedDigits, w.text = integerFront s ∧ IsLongestFront SignedDigits.text s w := by
  obtain ⟨hfront, w, hw⟩ := SignedDigits.exists_text_eq_integerFront s
  refine ⟨w, hw, hw ▸ hfront, fun y hy ↦ ?_⟩
  rw [hw]
  exact (y.text_prefix_integerFront hy).length_le

/-- There is one front integer, and it is what the scanned front is read as. -/
theorem frontInteger_iff {s : Text} {n : ℤ} :
    FrontInteger s n ↔ n = (wordInteger? (integerFront s)).getD 0 := by
  obtain ⟨w, hw, hlongest⟩ := exists_isLongestFront_integerFront s
  constructor
  · intro h
    cases h with
    | @fits v hv hdigit hfits =>
        rw [← hw, hlongest.text_eq hv, v.wordInteger?_eq_some_iff.mpr ⟨hdigit, hfits, rfl⟩]
        rfl
    | @zero v hv hunfit =>
        rw [← hw, hlongest.text_eq hv]
        cases hread : wordInteger? v.text with
        | none => rfl
        | some m =>
            obtain ⟨hdigit, hfits, -⟩ := v.wordInteger?_eq_some_iff.mp hread
            exact absurd ⟨hdigit, hfits⟩ hunfit
  · rintro rfl
    rw [← hw]
    cases hread : wordInteger? w.text with
    | none =>
        refine .zero hlongest fun ⟨hdigit, hfits⟩ ↦ ?_
        cases hread.symm.trans (w.wordInteger?_eq_some_iff.mpr ⟨hdigit, hfits, rfl⟩)
    | some m =>
        obtain ⟨hdigit, hfits, rfl⟩ := w.wordInteger?_eq_some_iff.mp hread
        exact .fits hlongest hdigit hfits

/-- A literal is cast to the integer at its front.  The text of an integer is cast to the integer
whatever follows it, if that is no digit. -/
theorem ParamType.cast_integer_eq_frontInteger :
    (∀ literal : Text, ∃ n : ℤ, ParamType.integer.cast literal = .int n ∧
      ∀ k, FrontInteger (Text.trimStart literal) k ↔ k = n) ∧
    ∀ (n : ℤ) (rest : Text), IsInt64 n → Text.EndsDigits rest →
      ParamType.integer.cast (Text.ofInt n ++ rest) = .int n := by
  constructor
  · exact fun literal ↦ ⟨leadingInteger literal, rfl, fun _ ↦ frontInteger_iff⟩
  · intro n rest hfits hrest
    obtain ⟨w, hw, hdigit, rfl⟩ := SignedDigits.exists_text_eq_ofInt n
    have hne : w.text ≠ [] := by simp [SignedDigits.text, hdigit]
    have hfront : integerFront (Text.trimStart (w.text ++ rest)) = w.text := by
      rw [w.trimStart_append hdigit, w.integerFront_append hne, hrest.takeWhile_eq_nil,
        List.append_nil]
    rw [← hw, cast, leadingInteger, hfront,
      w.wordInteger?_eq_some_iff.mpr ⟨hdigit, hfits, rfl⟩]
    rfl

/-- The least integer of 64 bits, with a unit after it. -/
theorem ParamType.cast_integer_least :
    IsInt64 (-0x8000000000000000) ∧ Text.EndsDigits " kg".toList ∧
      ParamType.integer.cast (Text.ofInt (-0x8000000000000000) ++ " kg".toList) =
        .int (-0x8000000000000000) := by
  have hfits : IsInt64 (-0x8000000000000000) := ⟨le_rfl, by decide⟩
  have hrest : Text.EndsDigits " kg".toList := by
    rintro _ ⟨⟩
    rfl
  exact ⟨hfits, hrest, cast_integer_eq_frontInteger.2 _ _ hfits hrest⟩

/-! ## Doubles -/

namespace Decimal

/-- A spelling denotes what it is read as, and nothing else. -/
theorem Spelling.denotes_iff (t : Spelling) {x : Option Binary64} :
    t.Denotes x ↔ (read? t.text).map Reading.finite? = some x := by
  obtain ⟨r, hread, hr⟩ := read?_text t
  rw [hread, Option.map_some, Option.some_inj]
  constructor
  · intro hx
    cases t with
    | numeral n => exact Binary64.RoundsTo.unique hr hx
    | word sign name named => exact hr.trans hx.symm
  · rintro rfl
    exact hr

/-- What the front of a text denotes: what the longest spelling at the front does, none where there
is no spelling. -/
inductive FrontDenotes (s : Text) : Option Binary64 → Prop
  | spelled {t : Spelling} {x : Option Binary64} (longest : IsLongestFront Spelling.text s t)
      (denotes : t.Denotes x) : FrontDenotes s x
  | absent (unspelled : ∀ t : Spelling, ¬ t.text <+: s) : FrontDenotes s none

namespace FrontDenotes

variable {s s' : Text} {x y : Option Binary64}

theorem unique (hx : FrontDenotes s x) (hy : FrontDenotes s y) : x = y := by
  cases hx with
  | spelled ht hx =>
      cases hy with
      | spelled hu hy =>
          rw [Spelling.denotes_iff] at hx hy
          rw [ht.text_eq hu, hy] at hx
          exact (Option.some.inj hx).symm
      | absent hnone => exact absurd ht.front (hnone _)
  | absent hnone =>
      cases hy with
      | spelled hu _ => exact absurd hu.front (hnone _)
      | absent _ => rfl

theorem congr (h : FrontDenotes s x) (hsame : ∀ t : Spelling, t.text <+: s ↔ t.text <+: s') :
    FrontDenotes s' x := by
  cases h with
  | spelled ht hx => exact .spelled (ht.congr hsame) hx
  | absent hnone => exact .absent fun t ht ↦ hnone t ((hsame t).mpr ht)

end FrontDenotes

end Decimal

open Decimal

theorem exists_read?_take {s : Text} {t : Spelling} (h : t.text <+: s) :
    ∃ r, read? (s.take t.text.length) = some r := by
  obtain ⟨r, hread, -⟩ := read?_text t
  exact ⟨r, (List.prefix_iff_eq_take.mp h) ▸ hread⟩

/-- The search backwards finds what the front of the text denotes. -/
theorem frontDenotes_longestReading? (s : Text) :
    FrontDenotes s ((longestReading? s s.length).bind Reading.finite?) := by
  cases hsearch : longestReading? s s.length with
  | none =>
      refine .absent fun t ht ↦ ?_
      obtain ⟨r, hread⟩ := exists_read?_take ht
      cases hread.symm.trans (longestReading?_eq_none hsearch _ ht.length_le)
  | some r =>
      obtain ⟨m, hread, hlonger⟩ := longestReading?_eq_some hsearch
      obtain ⟨t, ht⟩ := exists_spelling_of_read? hread
      refine .spelled (t := t) ⟨ht ▸ List.take_prefix m s, fun y hy ↦ ?_⟩ ?_
      · -- A longer spelling would have been read before the search came down to this one.
        by_contra hlong
        obtain ⟨r', hread'⟩ := exists_read?_take hy
        have hm : m < y.text.length := by
          have hlength := hy.length_le
          rw [ht, List.length_take] at hlong
          omega
        cases hread'.symm.trans (hlonger _ hm hy.length_le)
      · rw [t.denotes_iff, ht, hread]
        rfl

theorem frontDenotes_iff {s : Text} {x : Option Binary64} :
    FrontDenotes s x ↔ x = (longestReading? s s.length).bind Reading.finite? := by
  constructor
  · exact fun h ↦ h.unique (frontDenotes_longestReading? s)
  · rintro rfl
    exact frontDenotes_longestReading? s

theorem Text.trimStart_prefix_append (s more : Text) :
    Text.trimStart s <+: Text.trimStart (s ++ more) := by
  rw [Text.trimStart, Text.trimStart, List.dropWhile_append]
  split
  · next hblank =>
    rw [List.isEmpty_iff.mp hblank]
    exact List.nil_prefix
  · exact List.prefix_append _ _

/-- A literal is cast to the double that its front denotes, or to zero.  More text makes no
difference unless there is a spelling that goes on into it. -/
theorem ParamType.cast_number_eq_frontDenotes (literal : Text) :
    (∃ x : Option Binary64, (∀ y, FrontDenotes (Text.trimStart literal) y ↔ y = x) ∧
      ParamType.number.cast literal = .float (x.getD (Binary64.zero false)) ∧
      (x.getD (Binary64.zero false)).IsDouble) ∧
    ∀ more : Text,
      (∀ t : Spelling, t.text <+: Text.trimStart (literal ++ more) →
        t.text <+: Text.trimStart literal) →
      ParamType.number.cast (literal ++ more) = ParamType.number.cast literal := by
  constructor
  · exact ⟨_, fun _ ↦ frontDenotes_iff, rfl, isDouble_leadingNumber literal⟩
  · intro more hmore
    have hsame (t : Spelling) :
        t.text <+: Text.trimStart literal ↔ t.text <+: Text.trimStart (literal ++ more) :=
      ⟨fun ht ↦ ht.trans (Text.trimStart_prefix_append literal more), hmore t⟩
    have hdenotes := (frontDenotes_longestReading? (Text.trimStart literal)).congr hsame
    rw [cast, cast, leadingNumber, leadingNumber, frontDenotes_iff.mp hdenotes]

/-- An exponent without digits is no part of the number, and a sign does not complete it. -/
theorem ParamType.cast_number_openExponent :
    (∀ t : Spelling, t.text <+: Text.trimStart (" -1.5e".toList ++ "+x".toList) →
      t.text <+: Text.trimStart " -1.5e".toList) ∧
    ParamType.number.cast (" -1.5e".toList ++ "+x".toList) =
      .float ⟨true, 6755399441055744, -52⟩ := by
  have hunread : ∀ k < 8, 5 < k → read? ("-1.5e+x".toList.take k) = none := by decide +kernel
  have hmore : ∀ t : Spelling, t.text <+: "-1.5e+x".toList → t.text <+: "-1.5e".toList := by
    intro t ht
    obtain ⟨r, hread⟩ := exists_read?_take ht
    have hshort : t.text.length ≤ 5 := by
      by_contra hlong
      cases hread.symm.trans (hunread _ (Nat.lt_succ_of_le ht.length_le) (not_le.mp hlong))
    exact List.prefix_of_prefix_length_le ht ⟨"+x".toList, rfl⟩ hshort
  have hvalue : leadingNumber " -1.5e".toList = ⟨true, 6755399441055744, -52⟩ := by
    decide +kernel
  refine ⟨hmore, ?_⟩
  rw [(cast_number_eq_frontDenotes " -1.5e".toList).2 "+x".toList hmore, cast, hvalue]

end EndpointDocs
