import EndpointDocs.Decimal.Reading
import EndpointDocs.Random.Draw
import Mathlib.Algebra.Order.Field.Power
import Mathlib.Algebra.Order.Field.Rat
import Mathlib.Data.Nat.Cast.Order.Field
import Mathlib.Tactic.FieldSimp
import Mathlib.Tactic.Positivity
import Mathlib.Tactic.Ring

/-!
# Nearest doubles are doubles

Rounding a quotient takes its exponent first, and then a mantissa of at most 53 bits is left.  So
what is rounded, read from a decimal spelling or drawn is always a finite number of the format.
-/

namespace EndpointDocs

theorem twoPow_pos (k : Nat) : 0 < twoPow k := Nat.two_pow_pos k

theorem tenPow_pos (k : Nat) : 0 < tenPow k := Nat.pow_pos (by decide)

/-- A power of two with an exponent of either sign, by natural numbers. -/
theorem two_zpow_eq (k : ℤ) : (2 : ℚ) ^ k = twoPow k.toNat / twoPow (-k).toNat := by
  obtain ⟨n, rfl | rfl⟩ := k.eq_nat_or_neg
  · simp [twoPow]
  · simp [twoPow]

theorem scaled_lt_iff {num den : Nat} (hden : 0 < den) (m : Nat) (k : ℤ) :
    num * twoPow (-k).toNat < m * (den * twoPow k.toNat) ↔ (num / den : ℚ) < m * 2 ^ k := by
  have hden' : (0 : ℚ) < den := by exact_mod_cast hden
  have hscale : (0 : ℚ) < twoPow (-k).toNat := by exact_mod_cast twoPow_pos _
  rw [two_zpow_eq, div_lt_iff₀ hden', ← mul_div_assoc, div_mul_eq_mul_div, lt_div_iff₀ hscale]
  have hcast : (num * twoPow (-k).toNat < m * (den * twoPow k.toNat)) ↔
      ((num : ℚ) * twoPow (-k).toNat < m * (den * twoPow k.toNat)) := by exact_mod_cast Iff.rfl
  rw [hcast, mul_right_comm, mul_assoc (m : ℚ)]

theorem le_scaled_iff {num den : Nat} (hden : 0 < den) (m : Nat) (k : ℤ) :
    m * (den * twoPow k.toNat) ≤ num * twoPow (-k).toNat ↔ (m * 2 ^ k : ℚ) ≤ num / den := by
  rw [← not_lt, scaled_lt_iff hden, not_lt]

theorem roundDiv_le {num den m : Nat} (h : num < m * den) : roundDiv num den ≤ m := by
  have hquotient : num / den < m := Nat.div_lt_of_lt_mul (by rwa [Nat.mul_comm])
  simp only [roundDiv]
  split_ifs <;> omega

theorem le_roundDiv {num den m : Nat} (hden : 0 < den) (h : m * den ≤ num) :
    m ≤ roundDiv num den := by
  have hquotient : m ≤ num / den := (Nat.le_div_iff_mul_le hden).mpr h
  simp only [roundDiv]
  split_ifs <;> omega

/-- The quotient lies between the power of its exponent and the next one. -/
theorem binaryExponent_bounds {num den : Nat} (hnum : 0 < num) (hden : 0 < den) :
    (2 : ℚ) ^ binaryExponent num den ≤ num / den ∧
      (num / den : ℚ) < 2 ^ (binaryExponent num den + 1) := by
  have hden' : (0 : ℚ) < den := by exact_mod_cast hden
  have hnumLow : (2 : ℚ) ^ num.log2 ≤ num := by exact_mod_cast Nat.log2_self_le hnum.ne'
  have hnumHigh : (num : ℚ) < 2 ^ (num.log2 + 1) := by exact_mod_cast Nat.lt_log2_self
  have hdenLow : (2 : ℚ) ^ den.log2 ≤ den := by exact_mod_cast Nat.log2_self_le hden.ne'
  have hdenHigh : (den : ℚ) < 2 ^ (den.log2 + 1) := by exact_mod_cast Nat.lt_log2_self
  set k : ℤ := (num.log2 : ℤ) - den.log2 with hk
  -- The logarithms of the two parts leave the quotient a factor of two on either side.
  have hlow : (2 : ℚ) ^ (k - 1) ≤ num / den := by
    rw [le_div_iff₀ hden']
    calc (2 : ℚ) ^ (k - 1) * den ≤ 2 ^ (k - 1) * 2 ^ (den.log2 + 1) := by gcongr
      _ = 2 ^ num.log2 := by
          rw [← zpow_natCast, ← zpow_natCast, ← zpow_add₀ two_ne_zero]
          congr 1
          push_cast
          omega
      _ ≤ num := hnumLow
  have hhigh : (num / den : ℚ) < 2 ^ (k + 1) := by
    rw [div_lt_iff₀ hden']
    calc (num : ℚ) < 2 ^ (num.log2 + 1) := hnumHigh
      _ = 2 ^ (k + 1) * 2 ^ den.log2 := by
          rw [← zpow_natCast, ← zpow_natCast, ← zpow_add₀ two_ne_zero]
          congr 1
          push_cast
          omega
      _ ≤ 2 ^ (k + 1) * den := by gcongr
  have htest : num * twoPow (-k).toNat < den * twoPow k.toNat ↔ (num / den : ℚ) < 2 ^ k := by
    simpa using scaled_lt_iff hden 1 k
  unfold binaryExponent
  simp only [← hk]
  split
  · next hless => exact ⟨hlow, by simpa using htest.mp hless⟩
  · next hless => exact ⟨not_lt.mp fun h ↦ hless (htest.mpr h), hhigh⟩

namespace Binary64

/-- The numbers of the format: a mantissa of at most 53 bits, an exponent within its bounds, and a
leading bit unless the exponent is the least. -/
structure IsDouble (x : Binary64) : Prop where
  mantissa_lt : x.mantissa < 0x20000000000000
  least_le : leastExponent ≤ x.exponent
  le_greatest : x.exponent ≤ greatestExponent
  normal : x.exponent = leastExponent ∨ 0x10000000000000 ≤ x.mantissa

theorem isDouble_zero (negative : Bool) : (zero negative).IsDouble where
  mantissa_lt := by simp [zero]
  least_le := le_rfl
  le_greatest := by
    change leastExponent ≤ greatestExponent
    decide
  normal := .inl rfl

/-- The exponent of a rounded quotient leaves a mantissa of 53 bits, or of less if it is the least
exponent; rounding may carry to the next power of two. -/
theorem mantissa_bounds {num den : Nat} (hnum : 0 < num) (hden : 0 < den) :
    let e := max (binaryExponent num den - 52) leastExponent
    let m := roundDiv (num * twoPow (-e).toNat) (den * twoPow e.toNat)
    m ≤ 0x20000000000000 ∧ (e = leastExponent ∨ 0x10000000000000 ≤ m) := by
  intro e m
  obtain ⟨hlow, hhigh⟩ := binaryExponent_bounds hnum hden
  set k := binaryExponent num den
  have hk : k - 52 ≤ e := le_max_left ..
  constructor
  · apply roundDiv_le
    rw [scaled_lt_iff hden]
    calc (num / den : ℚ) < 2 ^ (k + 1) := hhigh
      _ ≤ 2 ^ (53 + e) := zpow_le_zpow_right₀ one_le_two (by omega)
      _ = ((0x20000000000000 : Nat) : ℚ) * 2 ^ e := by
          rw [zpow_add₀ two_ne_zero]
          norm_num
  · rcases max_choice (k - 52) leastExponent with hmax | hmax
    · have hek : 52 + e = k := by
        change 52 + max (k - 52) leastExponent = k
        omega
      right
      apply le_roundDiv (Nat.mul_pos hden (twoPow_pos _))
      rw [le_scaled_iff hden]
      calc ((0x10000000000000 : Nat) : ℚ) * 2 ^ e = 2 ^ (52 + e) := by
            rw [zpow_add₀ two_ne_zero]
            norm_num
        _ = 2 ^ k := by rw [hek]
        _ ≤ num / den := hlow
    · exact .inl hmax

/-- What rounding gives is a number of the format. -/
theorem isDouble_of_nearest? {negative : Bool} {num den : Nat} {x : Binary64} (hden : 0 < den)
    (h : nearest? negative num den = some x) : x.IsDouble := by
  unfold nearest? at h
  split at h
  · cases h
    exact isDouble_zero negative
  next hnum =>
  obtain ⟨hle, hge⟩ := mantissa_bounds (Nat.pos_of_ne_zero hnum) hden
  have hleast : leastExponent ≤ max (binaryExponent num den - 52) leastExponent := le_max_right ..
  simp only at h
  generalize max (binaryExponent num den - 52) leastExponent = e at *
  generalize roundDiv (num * twoPow (-e).toNat) (den * twoPow e.toNat) = m at *
  split at h
  · split at h
    · next hgreatest =>
      cases h
      exact ⟨by simp, Int.le_add_one hleast, hgreatest, .inr le_rfl⟩
    · cases h
  · next hcarry =>
    split at h
    · next hgreatest =>
      cases h
      exact ⟨Nat.lt_of_le_of_ne hle hcarry, hleast, hgreatest, hge⟩
    · cases h

theorem isDouble_getD_nearest? (negative : Bool) (num : Nat) {den : Nat} (hden : 0 < den) :
    ((nearest? negative num den).getD (zero false)).IsDouble := by
  cases h : nearest? negative num den with
  | none => exact isDouble_zero false
  | some x => exact isDouble_of_nearest? hden h

theorem isDouble_of_ofDecimal? {negative : Bool} {digits : Nat} {exponent : Int} {x : Binary64}
    (h : ofDecimal? negative digits exponent = some x) : x.IsDouble := by
  unfold ofDecimal? at h
  split at h
  · cases h
    exact isDouble_zero negative
  · simp only at h
    split at h
    · cases h
    · split at h
      · cases h
        exact isDouble_zero negative
      · exact isDouble_of_nearest? (tenPow_pos _) h

end Binary64

/-- What is read is a number of the format. -/
theorem Decimal.isDouble_of_read? {s : Text} {x : Binary64} (h : read? s = some (.finite x)) :
    x.IsDouble := by
  unfold read? at h
  simp only at h
  split at h
  · cases h
  · split at h
    · cases h
    · obtain ⟨exponent, -, hvalue⟩ := Option.map_eq_some_iff.mp h
      split at hvalue
      · next value hdecimal =>
        cases hvalue
        exact Binary64.isDouble_of_ofDecimal? hdecimal
      · cases hvalue

theorem Random.isDouble_cents (s : Stream) : (cents s).1.IsDouble :=
  Binary64.isDouble_getD_nearest? false _ (by decide)

end EndpointDocs
