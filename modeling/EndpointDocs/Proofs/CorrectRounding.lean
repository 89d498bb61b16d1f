import EndpointDocs.Proofs.NearestDouble
import Mathlib.Tactic.Linarith

/-!
# Correct rounding

Every double is a multiple of a power of two, so a quotient that is rounded to a multiple of the
right power is rounded to the nearest double, and on a tie to the one whose mantissa is even.  These
two conditions leave one double for a value, and no double is the outcome exactly from half-way
between the greatest double and the next power of two on.
-/

namespace EndpointDocs

/-- A rounded quotient is off by at most one half, and by one half only if it is even. -/
theorem roundDiv_half (num : ℕ) {den : ℕ} (hden : 0 < den) :
    |(roundDiv num den : ℚ) - num / den| ≤ 1 / 2 ∧
      (|(roundDiv num den : ℚ) - num / den| = 1 / 2 → roundDiv num den % 2 = 0) := by
  have hden' : (0 : ℚ) < den := by exact_mod_cast hden
  have hsplit : (num / den : ℚ) = (num / den : ℕ) + (num % den : ℕ) / den := by
    have hdiv : ((den * (num / den) + num % den : ℕ) : ℚ) = num := by rw [Nat.div_add_mod]
    rw [← hdiv]
    push_cast
    field_simp
  have hlow : (0 : ℚ) ≤ (num % den : ℕ) / den := by positivity
  have hhigh : ((num % den : ℕ) : ℚ) / den < 1 := by
    rw [div_lt_one hden']
    exact_mod_cast Nat.mod_lt num hden
  have hbelow : 2 * (num % den) < den ↔ ((num % den : ℕ) : ℚ) / den < 1 / 2 := by
    rw [div_lt_div_iff₀ hden' two_pos, one_mul, mul_comm]
    exact_mod_cast Iff.rfl
  have habove : den < 2 * (num % den) ↔ 1 / 2 < ((num % den : ℕ) : ℚ) / den := by
    rw [div_lt_div_iff₀ two_pos hden', one_mul, mul_comm _ (2 : ℚ)]
    exact_mod_cast Iff.rfl
  rw [hsplit]
  unfold roundDiv
  simp only [hbelow, habove]
  generalize ((num % den : ℕ) : ℚ) / den = part at *
  generalize num / den = whole
  split_ifs with h h' heven
  · rw [sub_add_cancel_left, abs_neg, abs_of_nonneg hlow]
    exact ⟨h.le, fun htie ↦ absurd htie h.ne⟩
  · push_cast
    rw [add_sub_add_left_eq_sub, abs_of_pos (by linarith)]
    exact ⟨by linarith, fun htie ↦ absurd htie (by linarith)⟩
  · rw [sub_add_cancel_left, abs_neg, abs_of_nonneg hlow]
    exact ⟨not_lt.mp h', fun _ ↦ heven⟩
  · push_cast
    rw [add_sub_add_left_eq_sub, abs_of_pos (by linarith)]
    exact ⟨by linarith, fun _ ↦ by omega⟩

namespace Binary64

/-- The number that a double stands for, apart from its sign. -/
def magnitude (x : Binary64) : ℚ := x.mantissa * 2 ^ x.exponent

/-- No double is nearer to a value than `x`, and one as near only where the mantissa of `x` is
even. -/
structure IsNearest (x : Binary64) (v : ℚ) : Prop where
  isDouble : x.IsDouble
  le : ∀ y : Binary64, y.IsDouble → |x.magnitude - v| ≤ |y.magnitude - v|
  even : ∀ y : Binary64, y.IsDouble → |y.magnitude - v| = |x.magnitude - v| →
    y.magnitude = x.magnitude ∨ x.mantissa % 2 = 0

/-- The value half-way between the greatest double and the power of two after it. -/
def overflow : ℚ := (2 ^ 53 - 1 / 2) * 2 ^ greatestExponent

/-- The outcome of rounding: the nearest double of the sign below `overflow`, and none from there
on. -/
inductive RoundsTo (negative : Bool) (v : ℚ) : Option Binary64 → Prop
  | finite {x : Binary64} : v < overflow → x.negative = negative → x.IsNearest v →
      RoundsTo negative v (some x)
  | infinite : overflow ≤ v → RoundsTo negative v none

/-! ## Doubles on a grid -/

theorem two_zpow_pos (e : ℤ) : (0 : ℚ) < 2 ^ e := zpow_pos two_pos e

theorem IsDouble.magnitude_lt {x : Binary64} (hx : x.IsDouble) :
    x.magnitude < 2 ^ 53 * 2 ^ x.exponent := by
  have hmantissa : (x.mantissa : ℚ) < 2 ^ 53 := by exact_mod_cast hx.mantissa_lt
  exact mul_lt_mul_of_pos_right hmantissa (two_zpow_pos _)

theorem IsDouble.magnitude_lt_of_exponent_lt {x : Binary64} (hx : x.IsDouble) {e : ℤ}
    (h : x.exponent < e) : x.magnitude < 2 ^ 52 * 2 ^ e :=
  calc x.magnitude < 2 ^ 53 * 2 ^ x.exponent := hx.magnitude_lt
    _ = 2 ^ 52 * 2 ^ (x.exponent + 1) := by
        rw [zpow_add₀ two_ne_zero]
        ring
    _ ≤ 2 ^ 52 * 2 ^ e := by
        gcongr
        · norm_num
        · omega

theorem IsDouble.lt_of_exponent_lt {x y : Binary64} (hx : x.IsDouble) (hy : y.IsDouble)
    (h : x.exponent < y.exponent) : x.magnitude < y.magnitude := by
  have hnormal : 0x10000000000000 ≤ y.mantissa := by
    rcases hy.normal with hleast | hnormal
    · exact absurd hx.least_le (by omega)
    · exact hnormal
  have hnormal' : (2 : ℚ) ^ 52 ≤ y.mantissa := by exact_mod_cast hnormal
  calc x.magnitude < 2 ^ 52 * 2 ^ y.exponent := hx.magnitude_lt_of_exponent_lt h
    _ ≤ y.magnitude := mul_le_mul_of_nonneg_right hnormal' (two_zpow_pos _).le

/-- A double is a multiple of every power of two up to that of its exponent. -/
theorem magnitude_eq_grid (x : Binary64) {e : ℤ} (h : e ≤ x.exponent) :
    x.magnitude = (x.mantissa * 2 ^ (x.exponent - e).toNat : ℕ) * 2 ^ e := by
  have hexponent : x.exponent = (x.exponent - e).toNat + e := by omega
  rw [magnitude]
  nth_rewrite 1 [hexponent]
  rw [zpow_add₀ two_ne_zero, zpow_natCast]
  push_cast
  ring

/-! ## Rounding to a grid -/

/-- The whole number `m` is what is left of a value that is rounded to a multiple of `2 ^ e`, where
`2 ^ e` is the unit of the doubles next to the value. -/
structure RoundsAt (v : ℚ) (e : ℤ) (m : ℕ) : Prop where
  half : |m * 2 ^ e - v| ≤ 1 / 2 * 2 ^ e
  tie : |m * 2 ^ e - v| = 1 / 2 * 2 ^ e → m % 2 = 0
  normal : e = leastExponent ∨ 2 ^ 52 * 2 ^ e ≤ v
  lt : v < 2 ^ 53 * 2 ^ e

namespace RoundsAt

variable {v : ℚ} {e : ℤ} {m : ℕ}

/-- Another multiple is a unit or more away, so it is no nearer. -/
theorem nearest_multiple (h : RoundsAt v e m) (k : ℕ) :
    |m * 2 ^ e - v| ≤ |k * 2 ^ e - v| ∧
      (|k * 2 ^ e - v| = |m * 2 ^ e - v| → k = m ∨ m % 2 = 0) := by
  by_cases hk : k = m
  · subst hk
    exact ⟨le_rfl, fun _ ↦ .inl rfl⟩
  have happart : (1 : ℚ) ≤ |(k : ℚ) - m| := by
    have hint : (1 : ℤ) ≤ |(k : ℤ) - m| := Int.one_le_abs (by omega)
    exact_mod_cast hint
  have hunit : (2 : ℚ) ^ e ≤ |(k : ℚ) * 2 ^ e - m * 2 ^ e| := by
    rw [← sub_mul, abs_mul, abs_of_pos (two_zpow_pos e)]
    exact le_mul_of_one_le_left (two_zpow_pos e).le happart
  have htriangle := abs_sub_le ((k : ℚ) * 2 ^ e) v (m * 2 ^ e)
  rw [abs_sub_comm v] at htriangle
  have hhalf := h.half
  refine ⟨by linarith, fun htie ↦ .inr (h.tie ?_)⟩
  linarith

/-- A double off the grid is below all of the binade of the value, whose least number is on it. -/
theorem nearest_double (h : RoundsAt v e m) {y : Binary64} (hy : y.IsDouble) :
    |m * 2 ^ e - v| ≤ |y.magnitude - v| ∧
      (|y.magnitude - v| = |m * 2 ^ e - v| → y.magnitude = m * 2 ^ e ∨ m % 2 = 0) := by
  rcases le_or_gt e y.exponent with hgrid | hbelow
  · rw [y.magnitude_eq_grid hgrid]
    obtain ⟨hle, htie⟩ := h.nearest_multiple (y.mantissa * 2 ^ (y.exponent - e).toNat)
    exact ⟨hle, fun heq ↦ (htie heq).imp_left fun hk ↦ by rw [hk]⟩
  · have hnormal : 2 ^ 52 * 2 ^ e ≤ v := by
      rcases h.normal with hleast | hnormal
      · exact absurd hy.least_le (by omega)
      · exact hnormal
    have hy := hy.magnitude_lt_of_exponent_lt hbelow
    have hle := (h.nearest_multiple (2 ^ 52)).1
    rw [Nat.cast_pow, Nat.cast_ofNat, abs_of_nonpos (sub_nonpos.mpr hnormal)] at hle
    rw [abs_of_neg (a := y.magnitude - v) (by linarith)]
    exact ⟨by linarith, fun htie ↦ absurd htie (by linarith)⟩

/-- A double with the value that a number rounds to is the nearest one. -/
theorem isNearest (h : RoundsAt v e m) {x : Binary64} (hx : x.IsDouble)
    (hmagnitude : x.magnitude = m * 2 ^ e) (heven : m % 2 = 0 → x.mantissa % 2 = 0) :
    x.IsNearest v where
  isDouble := hx
  le y hy := by
    rw [hmagnitude]
    exact (h.nearest_double hy).1
  even y hy htie := by
    rw [hmagnitude] at htie ⊢
    exact ((h.nearest_double hy).2 htie).imp_right heven

end RoundsAt

/-- The rounded quotient is what is left of a quotient at the exponent that its size asks for. -/
theorem roundsAt_roundDiv {num den : ℕ} (hnum : 0 < num) (hden : 0 < den) :
    let e := max (binaryExponent num den - 52) leastExponent
    RoundsAt (num / den) e (roundDiv (num * twoPow (-e).toNat) (den * twoPow e.toNat)) := by
  intro e
  obtain ⟨hlow, hhigh⟩ := binaryExponent_bounds hnum hden
  have hscale : ((num * twoPow (-e).toNat : ℕ) / (den * twoPow e.toNat : ℕ) : ℚ) * 2 ^ e =
      num / den := by
    have hden' : (den : ℚ) ≠ 0 := by exact_mod_cast hden.ne'
    have hup : (twoPow e.toNat : ℚ) ≠ 0 := by exact_mod_cast (twoPow_pos _).ne'
    have hdown : (twoPow (-e).toNat : ℚ) ≠ 0 := by exact_mod_cast (twoPow_pos _).ne'
    rw [two_zpow_eq]
    push_cast
    field_simp
  obtain ⟨hhalf, htie⟩ := roundDiv_half (num * twoPow (-e).toNat)
    (Nat.mul_pos hden (twoPow_pos e.toNat))
  generalize roundDiv (num * twoPow (-e).toNat) (den * twoPow e.toNat) = m at *
  have hoff : |m * 2 ^ e - (num / den : ℚ)| =
      |(m : ℚ) - (num * twoPow (-e).toNat : ℕ) / (den * twoPow e.toNat : ℕ)| * 2 ^ e := by
    rw [← hscale, ← sub_mul, abs_mul, abs_of_pos (two_zpow_pos e)]
  refine ⟨?_, ?_, ?_, ?_⟩
  · rw [hoff]
    exact mul_le_mul_of_nonneg_right hhalf (two_zpow_pos e).le
  · rw [hoff]
    exact fun heq ↦ htie (mul_right_cancel₀ (two_zpow_pos e).ne' heq)
  · rcases max_choice (binaryExponent num den - 52) leastExponent with hmax | hmax
    · right
      calc (2 : ℚ) ^ 52 * 2 ^ e = 2 ^ binaryExponent num den := by
            rw [← zpow_natCast, ← zpow_add₀ two_ne_zero]
            congr 1
            push_cast
            omega
        _ ≤ num / den := hlow
    · exact .inl hmax
  · calc (num / den : ℚ) < 2 ^ (binaryExponent num den + 1) := hhigh
      _ ≤ 2 ^ (53 + e) := zpow_le_zpow_right₀ one_le_two (by omega)
      _ = 2 ^ 53 * 2 ^ e := by rw [zpow_add₀ two_ne_zero]; rfl

/-! ## The range of the format -/

theorem RoundsAt.overflow_le {v : ℚ} {e : ℤ} {m : ℕ} (h : RoundsAt v e m)
    (he : greatestExponent < e ∨ greatestExponent = e ∧ 2 ^ 53 ≤ m) : overflow ≤ v := by
  rcases he with he | ⟨rfl, hm⟩
  · have hnormal : 2 ^ 52 * 2 ^ e ≤ v := by
      rcases h.normal with rfl | hnormal
      · exact absurd he (by decide)
      · exact hnormal
    calc overflow ≤ 2 ^ 53 * 2 ^ greatestExponent :=
          mul_le_mul_of_nonneg_right (by norm_num) (two_zpow_pos _).le
      _ = 2 ^ 52 * 2 ^ (greatestExponent + 1) := by
          rw [zpow_add₀ two_ne_zero]
          ring
      _ ≤ 2 ^ 52 * 2 ^ e := by
          gcongr
          · norm_num
          · omega
      _ ≤ v := hnormal
  · have hm' : (2 : ℚ) ^ 53 ≤ m := by exact_mod_cast hm
    have hoff := (abs_le.mp h.half).2
    calc overflow ≤ (m - 1 / 2) * 2 ^ greatestExponent :=
          mul_le_mul_of_nonneg_right (by linarith) (two_zpow_pos _).le
      _ ≤ v := by linarith

/-- The greatest mantissa is odd, so a value half a unit above it is rounded away from it. -/
theorem RoundsAt.lt_overflow {v : ℚ} {e : ℤ} {m : ℕ} (h : RoundsAt v e m)
    (he : e < greatestExponent ∨ e = greatestExponent ∧ m < 2 ^ 53) : v < overflow := by
  rcases he with he | ⟨rfl, hm⟩
  · calc v < 2 ^ 53 * 2 ^ e := h.lt
      _ = 2 ^ 52 * 2 ^ (e + 1) := by
          rw [zpow_add₀ two_ne_zero]
          ring
      _ ≤ 2 ^ 52 * 2 ^ greatestExponent := by
          gcongr
          · norm_num
          · omega
      _ ≤ overflow := mul_le_mul_of_nonneg_right (by norm_num) (two_zpow_pos _).le
  · have hoff := neg_le_of_abs_le h.half
    have hpos := two_zpow_pos greatestExponent
    rcases h.half.lt_or_eq with hless | htie
    · have hm' : (m : ℚ) ≤ 2 ^ 53 - 1 := by
        have : m + 1 ≤ 2 ^ 53 := hm
        have : (m : ℚ) + 1 ≤ 2 ^ 53 := by exact_mod_cast this
        linarith
      have hoff := (abs_lt.mp hless).1
      calc v < (m + 1 / 2) * 2 ^ greatestExponent := by linarith
        _ ≤ overflow := mul_le_mul_of_nonneg_right (by linarith) hpos.le
    · have heven := h.tie htie
      have hm' : (m : ℚ) + 2 ≤ 2 ^ 53 := by
        have : m + 2 ≤ 2 ^ 53 := by omega
        exact_mod_cast this
      calc v ≤ (m + 1 / 2) * 2 ^ greatestExponent := by linarith
        _ < overflow := mul_lt_mul_of_pos_right (by linarith) hpos

theorem magnitude_zero (negative : Bool) : (zero negative).magnitude = 0 := by
  simp [zero, magnitude]

/-- Below half of the least double, zero is nearest. -/
theorem isNearest_zero (negative : Bool) {v : ℚ} (hv : 0 ≤ v) (hsmall : 2 * v < 2 ^ leastExponent) :
    (zero negative).IsNearest v where
  isDouble := isDouble_zero negative
  le y hy := by
    rw [magnitude_zero, zero_sub, abs_neg, abs_of_nonneg hv]
    by_cases hzero : y.mantissa = 0
    · rw [magnitude, hzero, Nat.cast_zero, zero_mul, zero_sub, abs_neg]
      exact le_abs_self v
    · have hone : (1 : ℚ) ≤ y.mantissa := by exact_mod_cast Nat.pos_of_ne_zero hzero
      have hleast : (2 : ℚ) ^ leastExponent ≤ y.magnitude :=
        calc (2 : ℚ) ^ leastExponent ≤ 2 ^ y.exponent :=
              zpow_le_zpow_right₀ one_le_two hy.least_le
          _ ≤ y.magnitude := le_mul_of_one_le_left (two_zpow_pos _).le hone
      exact le_trans (by linarith) (le_abs_self _)
  even _ _ _ := .inr rfl

theorem two_zpow_le_overflow {e : ℤ} (he : e ≤ greatestExponent) : (2 : ℚ) ^ e ≤ overflow :=
  calc (2 : ℚ) ^ e ≤ 2 ^ greatestExponent := zpow_le_zpow_right₀ one_le_two he
    _ ≤ overflow := le_mul_of_one_le_left (two_zpow_pos _).le (by norm_num)

theorem roundsTo_zero (negative : Bool) {v : ℚ} (hv : 0 ≤ v) (hsmall : 2 * v < 2 ^ leastExponent) :
    RoundsTo negative v (some (zero negative)) := by
  have hover : (2 : ℚ) ^ leastExponent ≤ overflow := two_zpow_le_overflow (by decide)
  exact .finite (by linarith) rfl (isNearest_zero negative hv hsmall)

/-- A quotient of natural numbers is rounded correctly. -/
theorem roundsTo_nearest? (negative : Bool) (num : ℕ) {den : ℕ} (hden : 0 < den) :
    RoundsTo negative (num / den) (nearest? negative num den) := by
  by_cases hnum : num = 0
  · subst hnum
    simpa [nearest?] using roundsTo_zero negative le_rfl (by simpa using two_zpow_pos _)
  have hrounds := roundsAt_roundDiv (Nat.pos_of_ne_zero hnum) hden
  obtain ⟨hle, -⟩ := mantissa_bounds (Nat.pos_of_ne_zero hnum) hden
  have hdouble : ∀ x, nearest? negative num den = some x → x.IsDouble :=
    fun x ↦ isDouble_of_nearest? hden
  rw [nearest?, if_neg hnum] at hdouble ⊢
  simp only at hrounds hdouble ⊢
  generalize max (binaryExponent num den - 52) leastExponent = e at *
  generalize roundDiv (num * twoPow (-e).toNat) (den * twoPow e.toNat) = m at *
  split_ifs at hdouble ⊢ with hcarry hgreatest hgreatest
  · refine .finite (hrounds.lt_overflow (.inl (by omega))) rfl
      (hrounds.isNearest (hdouble _ rfl) ?_ fun _ ↦ by norm_num)
    rw [magnitude, hcarry, zpow_add₀ two_ne_zero]
    norm_num
    ring
  · exact .infinite (hrounds.overflow_le (by omega))
  · exact .finite (hrounds.lt_overflow (by omega)) rfl
      (hrounds.isNearest (hdouble _ rfl) rfl id)
  · exact .infinite (hrounds.overflow_le (by omega))

theorem ten_zpow_eq (k : ℤ) : (10 : ℚ) ^ k = tenPow k.toNat / tenPow (-k).toNat := by
  obtain ⟨n, rfl | rfl⟩ := k.eq_nat_or_neg
  · simp [tenPow]
  · simp [tenPow]

/-- A positive number lies between the powers of ten that the count of its digits gives. -/
theorem toDigits_length_bounds {n : ℕ} (hn : 0 < n) :
    (10 : ℚ) ^ (((Nat.toDigits 10 n).length : ℤ) - 1) ≤ n ∧
      (n : ℚ) < 10 ^ ((Nat.toDigits 10 n).length : ℤ) := by
  have hpos : 0 < (Nat.toDigits 10 n).length := Nat.length_toDigits_pos
  have hhigh := (Nat.length_toDigits_le_iff (n := n) (b := 10) (by decide) hpos).mp le_rfl
  have hlow : 10 ^ ((Nat.toDigits 10 n).length - 1) ≤ n := by
    by_cases hone : (Nat.toDigits 10 n).length = 1
    · simpa [hone] using Nat.succ_le_of_lt hn
    · by_contra hless
      have hle := (Nat.length_toDigits_le_iff (n := n) (b := 10)
        (k := (Nat.toDigits 10 n).length - 1) (by decide) (by omega)).mpr (by omega)
      omega
  constructor
  · have hcast : ((Nat.toDigits 10 n).length : ℤ) - 1 = ((Nat.toDigits 10 n).length - 1 : ℕ) := by
      omega
    rw [hcast, zpow_natCast]
    exact_mod_cast hlow
  · rw [zpow_natCast]
    exact_mod_cast hhigh

theorem two_zpow_le_ten_zpow (n : ℕ) : (2 : ℚ) ^ ((3 * n : ℕ) : ℤ) ≤ 10 ^ (n : ℤ) := by
  rw [zpow_natCast, zpow_natCast, pow_mul]
  exact pow_le_pow_left₀ (by norm_num) (by norm_num) n

theorem overflow_le_ten_zpow : overflow ≤ 10 ^ (400 : ℤ) :=
  calc overflow ≤ 2 ^ 53 * 2 ^ greatestExponent :=
        mul_le_mul_of_nonneg_right (by norm_num) (two_zpow_pos _).le
    _ = 2 ^ (53 + greatestExponent) := by rw [zpow_add₀ two_ne_zero]; rfl
    _ ≤ 2 ^ ((3 * 400 : ℕ) : ℤ) := zpow_le_zpow_right₀ one_le_two (by decide)
    _ ≤ 10 ^ (400 : ℤ) := two_zpow_le_ten_zpow 400

theorem two_mul_lt_least {v : ℚ} (hv : v < 10 ^ (-400 : ℤ)) : 2 * v < 2 ^ leastExponent := by
  have hten : ((10 : ℚ) ^ (400 : ℤ))⁻¹ ≤ (2 ^ (1200 : ℤ))⁻¹ :=
    inv_anti₀ (two_zpow_pos _) (two_zpow_le_ten_zpow 400)
  rw [← zpow_neg, ← zpow_neg] at hten
  calc 2 * v < 2 ^ (1 : ℤ) * 2 ^ (-1200 : ℤ) := by linarith
    _ = 2 ^ (-1199 : ℤ) := by rw [← zpow_add₀ two_ne_zero]; rfl
    _ ≤ 2 ^ leastExponent := zpow_le_zpow_right₀ one_le_two (by decide)

/-- A decimal is rounded correctly, also where its size alone settles the outcome. -/
theorem roundsTo_ofDecimal? (negative : Bool) (digits : ℕ) (exponent : ℤ) :
    RoundsTo negative (digits * 10 ^ exponent) (ofDecimal? negative digits exponent) := by
  unfold ofDecimal?
  by_cases hzero : digits = 0
  · simpa [hzero] using roundsTo_zero negative le_rfl (by simpa using two_zpow_pos _)
  obtain ⟨hlow, hhigh⟩ := toDigits_length_bounds (Nat.pos_of_ne_zero hzero)
  rw [if_neg hzero]
  simp only
  generalize ((Nat.toDigits 10 digits).length : ℤ) = length at *
  have hten : (10 : ℚ) ≠ 0 := by norm_num
  have hpos : (0 : ℚ) < 10 ^ exponent := zpow_pos (by norm_num) _
  split_ifs with hlarge hsmall
  · refine .infinite ?_
    calc overflow ≤ 10 ^ (400 : ℤ) := overflow_le_ten_zpow
      _ ≤ 10 ^ (length - 1 + exponent) := zpow_le_zpow_right₀ (by norm_num) (by omega)
      _ = 10 ^ (length - 1) * 10 ^ exponent := zpow_add₀ hten _ _
      _ ≤ digits * 10 ^ exponent := mul_le_mul_of_nonneg_right hlow hpos.le
  · have hless : (digits : ℚ) * 10 ^ exponent < 10 ^ (-400 : ℤ) :=
      calc (digits : ℚ) * 10 ^ exponent < 10 ^ length * 10 ^ exponent :=
            mul_lt_mul_of_pos_right hhigh hpos
        _ = 10 ^ (length + exponent) := (zpow_add₀ hten _ _).symm
        _ ≤ 10 ^ (-400 : ℤ) := zpow_le_zpow_right₀ (by norm_num) (by omega)
    exact roundsTo_zero negative (by positivity) (two_mul_lt_least hless)
  · have hscale : ((digits * tenPow exponent.toNat : ℕ) / (tenPow (-exponent).toNat : ℕ) : ℚ) =
        digits * 10 ^ exponent := by
      rw [ten_zpow_eq]
      push_cast
      ring
    rw [← hscale]
    exact roundsTo_nearest? negative _ (tenPow_pos _)

/-! ## One double for a value -/

theorem ext_fields {x y : Binary64} (hnegative : x.negative = y.negative)
    (hmantissa : x.mantissa = y.mantissa) (hexponent : x.exponent = y.exponent) : x = y := by
  cases x
  cases y
  simp_all

theorem IsDouble.eq_of_magnitude_eq {x y : Binary64} (hx : x.IsDouble) (hy : y.IsDouble)
    (h : x.magnitude = y.magnitude) : x.mantissa = y.mantissa ∧ x.exponent = y.exponent := by
  have hexponent : x.exponent = y.exponent := by
    rcases lt_trichotomy x.exponent y.exponent with hlt | heq | hgt
    · exact absurd h (hx.lt_of_exponent_lt hy hlt).ne
    · exact heq
    · exact absurd h (hy.lt_of_exponent_lt hx hgt).ne'
  refine ⟨?_, hexponent⟩
  rw [magnitude, magnitude, hexponent] at h
  exact_mod_cast mul_right_cancel₀ (two_zpow_pos _).ne' h

/-- Two doubles with even mantissas are not neighbours. -/
theorem IsDouble.exists_between {x y : Binary64} (hx : x.IsDouble) (hy : y.IsDouble)
    (hxeven : x.mantissa % 2 = 0) (hyeven : y.mantissa % 2 = 0) (h : x.magnitude < y.magnitude) :
    ∃ z : Binary64, z.IsDouble ∧ x.magnitude < z.magnitude ∧ z.magnitude < y.magnitude := by
  have hexponent : x.exponent ≤ y.exponent := by
    by_contra hgt
    exact absurd h (hy.lt_of_exponent_lt hx (by omega)).asymm
  have hpos := two_zpow_pos x.exponent
  have hbound := hx.mantissa_lt
  -- As a multiple of the unit of `x`, `y` is even as well, so it is at least two units away.
  have hgrid := y.magnitude_eq_grid hexponent
  set k := y.mantissa * 2 ^ (y.exponent - x.exponent).toNat with hk
  have hkeven : k % 2 = 0 := by rw [hk, Nat.mul_mod, hyeven, zero_mul, Nat.zero_mod]
  have hless : x.mantissa < k := by
    rw [hgrid, magnitude] at h
    exact_mod_cast lt_of_mul_lt_mul_right h hpos.le
  refine ⟨⟨x.negative, x.mantissa + 1, x.exponent⟩, ⟨?_, hx.least_le, hx.le_greatest, ?_⟩, ?_, ?_⟩
  · change x.mantissa + 1 < _
    omega
  · exact hx.normal.imp_right fun hnormal ↦ Nat.le_succ_of_le hnormal
  · refine mul_lt_mul_of_pos_right ?_ hpos
    push_cast
    linarith
  · rw [hgrid]
    refine mul_lt_mul_of_pos_right ?_ hpos
    exact_mod_cast (by omega : x.mantissa + 1 < k)

/-- The nearest double of a value is one number. -/
theorem IsNearest.magnitude_eq {x y : Binary64} {v : ℚ} (hx : x.IsNearest v) (hy : y.IsNearest v) :
    x.magnitude = y.magnitude := by
  have hnear : ∀ {x y : Binary64}, x.IsNearest v → y.IsNearest v →
      ¬ x.magnitude < y.magnitude := by
    intro x y hx hy hlt
    have hdist := le_antisymm (hx.le y hy.isDouble) (hy.le x hx.isDouble)
    have hxeven := (hx.even y hy.isDouble hdist.symm).resolve_left hlt.ne'
    have hyeven := (hy.even x hx.isDouble hdist).resolve_left hlt.ne
    obtain ⟨z, hz, hxz, hzy⟩ := hx.isDouble.exists_between hy.isDouble hxeven hyeven hlt
    have hnearer : |z.magnitude - v| < |x.magnitude - v| := by
      have hlow := neg_abs_le (x.magnitude - v)
      have hhigh := le_abs_self (y.magnitude - v)
      exact abs_lt.mpr ⟨by linarith, by linarith⟩
    exact absurd (hx.le z hz) (not_le.mpr hnearer)
  exact le_antisymm (not_lt.mp (hnear hy hx)) (not_lt.mp (hnear hx hy))

/-- Two outcomes of rounding one value to one sign are the same. -/
theorem RoundsTo.unique {negative : Bool} {v : ℚ} {x y : Option Binary64}
    (hx : RoundsTo negative v x) (hy : RoundsTo negative v y) : x = y := by
  cases hx with
  | finite hv hsign hx =>
      cases hy with
      | finite _ hsign' hy =>
          obtain ⟨hmantissa, hexponent⟩ :=
            hx.isDouble.eq_of_magnitude_eq hy.isDouble (hx.magnitude_eq hy)
          exact congrArg some (ext_fields (hsign.trans hsign'.symm) hmantissa hexponent)
      | infinite hover => exact absurd hv (not_lt.mpr hover)
  | infinite hover =>
      cases hy with
      | finite hv => exact absurd hv (not_lt.mpr hover)
      | infinite => rfl

end Binary64

end EndpointDocs
