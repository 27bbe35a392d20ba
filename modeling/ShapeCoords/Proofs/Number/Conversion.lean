import Mathlib.Data.Int.Log
import ShapeCoords.Proofs.Number.Reading
import ShapeCoords.Proofs.Number.Rounding

/-!
Every decimal becomes the binary64 number nearest to it, or an infinity if it is too large.
-/

namespace ShapeCoords.Number

/-- The halfway point between the largest finite number and the power of two that comes next. -/
def overflowThreshold : ℚ :=
  (2 ^ 54 - 1) * 2 ^ (970 : Int)

/-- What a number `x`, which is not negative, becomes with a sign. From the overflow threshold on it
is infinite, and otherwise the nearest number, where a tie goes to the even one. -/
inductive IsRounded (negative : Bool) (x : ℚ) : Value → Prop where
  | finite {m : Nat} {q : Int} (h : IsBinary64 m q) (hx : IsNearest m q x) :
      IsRounded negative x (.finite negative m q)
  | infinite (hx : overflowThreshold ≤ x) : IsRounded negative x (.infinite negative)

theorem overflowThreshold_lt : overflowThreshold < 2 ^ (1024 : Int) := by
  have hpower : (2 : ℚ) ^ (1024 : Int) = 2 ^ 54 * 2 ^ (970 : Int) := by
    rw [← zpow_natCast, ← zpow_add₀ (by norm_num)]
    rfl
  rw [overflowThreshold, hpower]
  exact mul_lt_mul_of_pos_right (by norm_num) (zpow_pos (by norm_num) _)

theorem overflowThreshold_eq : overflowThreshold = (2 ^ 53 - 1 / 2) * 2 ^ (971 : Int) := by
  have hpower : (2 : ℚ) ^ (971 : Int) = 2 * 2 ^ (970 : Int) := by
    rw [← zpow_one_add₀ (by norm_num)]
    rfl
  rw [overflowThreshold, hpower]
  ring

theorem le_overflowThreshold : 2 ^ (1023 : Int) ≤ overflowThreshold := by
  have hpower : (2 : ℚ) ^ (1023 : Int) = 2 ^ 53 * 2 ^ (970 : Int) := by
    rw [← zpow_natCast, ← zpow_add₀ (by norm_num)]
    rfl
  rw [overflowThreshold, hpower]
  exact mul_le_mul_of_nonneg_right (by norm_num) (zpow_pos (by norm_num) _).le

/-! Numbers in units of the last place -/

theorem exists_roundEven {y : ℚ} (hy : 0 ≤ y) :
    ∃ n : Nat, (n : ℚ) - 1 / 2 ≤ y ∧ y ≤ n + 1 / 2 ∧
      (n % 2 = 1 → (n : ℚ) - 1 / 2 < y ∧ y < n + 1 / 2) := by
  have hfloor := Nat.floor_le hy
  have hnext := Nat.lt_floor_add_one y
  generalize ⌊y⌋₊ = k at hfloor hnext
  rcases lt_trichotomy y (k + 1 / 2) with hlt | heq | hgt
  · exact ⟨k, by linarith, hlt.le, fun _ => ⟨by linarith, hlt⟩⟩
  · -- of the two integers that are equally near one is even
    rcases Nat.mod_two_eq_zero_or_one k with heven | hodd
    · exact ⟨k, by linarith, heq.le, fun h => by omega⟩
    · refine ⟨k + 1, ?_, ?_, fun h => by omega⟩ <;> push_cast <;> linarith
  · refine ⟨k + 1, ?_, ?_, fun _ => ⟨?_, ?_⟩⟩ <;> push_cast <;> linarith

/-- In units of `2 ^ q`, the exponent that binary64 takes for it, `x` is rounded to `n`, ties to
even. -/
structure IsScaled (x : ℚ) (n : Nat) (q : Int) : Prop where
  least : -1074 ≤ q
  low : ((n : ℚ) - 1 / 2) * 2 ^ q ≤ x
  high : x ≤ (n + 1 / 2) * 2 ^ q
  odd : n % 2 = 1 → ((n : ℚ) - 1 / 2) * 2 ^ q < x ∧ x < (n + 1 / 2) * 2 ^ q
  below : x < 2 ^ 53 * 2 ^ q
  leading : q = -1074 ∨ 2 ^ 52 * 2 ^ q ≤ x

theorem exists_isScaled {x : ℚ} {k : Int} (hlow : 2 ^ k ≤ x) (hhigh : x < 2 ^ (k + 1)) :
    ∃ n, IsScaled x n (max (k - 52) (-1074)) := by
  obtain ⟨q, hq⟩ : ∃ q, max (k - 52) (-1074) = q := ⟨_, rfl⟩
  have hx : 0 < x := lt_of_lt_of_le (zpow_pos (by norm_num) k) hlow
  have hpos : (0 : ℚ) < 2 ^ q := zpow_pos (by norm_num) q
  obtain ⟨n, hn⟩ := exists_roundEven (div_pos hx hpos).le
  rw [le_div_iff₀ hpos, div_le_iff₀ hpos, lt_div_iff₀ hpos, div_lt_iff₀ hpos] at hn
  have hpower (j : Nat) : (2 : ℚ) ^ j * 2 ^ q = 2 ^ (j + q) := by
    rw [← zpow_natCast, ← zpow_add₀ (by norm_num)]
  rw [hq]
  refine ⟨n, by omega, hn.1, hn.2.1, hn.2.2, ?_, ?_⟩
  · rw [hpower]
    exact lt_of_lt_of_le hhigh (zpow_le_zpow_right₀ (by norm_num) (by push_cast; omega))
  · rw [hpower]
    by_cases hsubnormal : q = -1074
    · exact .inl hsubnormal
    · exact .inr (le_trans (zpow_le_zpow_right₀ (by norm_num) (by push_cast; omega)) hlow)

/-- A number within half a unit of the last place lies in the rounding interval, except just below a
power of two. -/
theorem roundsTo_of_within {m : Nat} {q : Int} {x : ℚ} (hm : 0 < m)
    (hlow : ((m : ℚ) - 1 / 2) * 2 ^ q ≤ x) (hhigh : x ≤ (m + 1 / 2) * 2 ^ q)
    (hodd : m % 2 = 1 → ((m : ℚ) - 1 / 2) * 2 ^ q < x ∧ x < (m + 1 / 2) * 2 ^ q)
    (hpower : m = twoTo 52 → -1074 < q → (m : ℚ) * 2 ^ q ≤ x) : RoundsTo m q x := by
  have hunit : (0 : ℚ) < 2 ^ (q - 2) := zpow_pos (by norm_num) _
  rw [zpow_eq_spacing q] at hlow hhigh hodd hpower
  rcases gapBelow_cases hm q with ⟨hone, hmantissa, hq⟩ | ⟨htwo, -⟩
  · have hleast := hpower hmantissa hq
    refine ⟨?_, ?_, fun h => ?_⟩
    · rw [cast_low_roundingInterval hm, hone]
      push_cast
      linarith
    · rw [cast_high_roundingInterval]
      linarith
    · rw [hmantissa] at h
      exact absurd h (by decide)
  · refine ⟨?_, ?_, fun h => ⟨?_, ?_⟩⟩
    · rw [cast_low_roundingInterval hm, htwo]
      push_cast
      linarith
    · rw [cast_high_roundingInterval]
      linarith
    · rw [cast_low_roundingInterval hm, htwo]
      push_cast
      linarith [(hodd h).1]
    · rw [cast_high_roundingInterval]
      linarith [(hodd h).2]

namespace IsScaled

variable {x : ℚ} {n : Nat} {q : Int}

theorem unit_pos (_ : IsScaled x n q) : (0 : ℚ) < 2 ^ q :=
  zpow_pos (by norm_num) q

theorem le (h : IsScaled x n q) : n ≤ 2 ^ 53 := by
  have hlt : (n : ℚ) - 1 / 2 < 2 ^ 53 :=
    lt_of_mul_lt_mul_right (lt_of_le_of_lt h.low h.below) h.unit_pos.le
  have hcast : (n : ℚ) < ((2 ^ 53 + 1 : Nat) : ℚ) := by
    push_cast
    linarith
  exact Nat.le_of_lt_succ (by exact_mod_cast hcast)

/-- A normal number fills the mantissa. -/
theorem mantissa_le (h : IsScaled x n q) : q = -1074 ∨ 2 ^ 52 ≤ n := by
  refine h.leading.imp_right fun hleading => ?_
  have hle : (2 : ℚ) ^ 52 ≤ n + 1 / 2 := le_of_mul_le_mul_right (hleading.trans h.high) h.unit_pos
  have hcast : ((2 ^ 52 : Nat) : ℚ) < ((n + 1 : Nat) : ℚ) := by
    push_cast
    linarith
  exact Nat.le_of_lt_succ (by exact_mod_cast hcast)

theorem exponent_le (h : IsScaled x n q) (hx : x < overflowThreshold) : q ≤ 971 := by
  rcases h.leading with hq | hleading
  · omega
  · have hlt : (2 : ℚ) ^ (52 + q) < 2 ^ (1024 : Int) := by
      rw [zpow_add₀ (by norm_num)]
      exact lt_of_le_of_lt hleading (hx.trans overflowThreshold_lt)
    have := exponent_lt_of_zpow_lt hlt
    omega

theorem roundsTo (h : IsScaled x n q) (hn : 0 < n) (hlt : n < 2 ^ 53) (hq : q ≤ 971) :
    IsBinary64 n q ∧ RoundsTo n q x := by
  refine ⟨⟨h.least, hq, by rw [twoTo_53]; exact hlt, ?_⟩,
    roundsTo_of_within hn h.low h.high h.odd fun hpower hnormal => ?_⟩
  · rw [twoTo_52]
    exact h.mantissa_le
  · rw [hpower, cast_twoTo]
    exact h.leading.resolve_left (by omega)

/-- What is rounded up to `2 ^ 53` units is a power of two with the next exponent. -/
theorem roundsTo_carry (h : IsScaled x (2 ^ 53) q) (hq : q ≤ 970) :
    IsBinary64 (2 ^ 52) (q + 1) ∧ RoundsTo (2 ^ 52) (q + 1) x := by
  have hleast := h.least
  have hlow := h.low
  have hbelow := h.below
  have hunit : (0 : ℚ) < 2 ^ (q + 1 - 2) := zpow_pos (by norm_num) _
  have hspacing : (2 : ℚ) ^ q = 2 * 2 ^ (q + 1 - 2) := by
    have := zpow_sub_one_eq_spacing (q + 1)
    rwa [add_sub_cancel_right] at this
  rw [hspacing] at hlow hbelow
  push_cast at hlow
  refine ⟨⟨by omega, by omega, by decide, .inr (by decide)⟩, ?_, ?_, fun h => absurd h (by decide)⟩
  · rw [roundingInterval, if_pos ⟨by decide, by omega⟩]
    push_cast
    linarith
  · rw [cast_high_roundingInterval]
    push_cast
    linarith

/-- What rounds to zero. -/
theorem eq_zero_iff (h : IsScaled x n q) : n = 0 ↔ x ≤ 2 ^ (-1075 : Int) := by
  have hhalf : (2 : ℚ) ^ (-1074 : Int) = 2 * 2 ^ (-1075 : Int) := by
    rw [← zpow_one_add₀ (by norm_num)]
    rfl
  have hunit : (0 : ℚ) < 2 ^ (-1075 : Int) := zpow_pos (by norm_num) _
  constructor
  · intro hn
    have hq : q = -1074 := h.mantissa_le.resolve_right (by omega)
    have hhigh := h.high
    rw [hn, hq, hhalf, Nat.cast_zero] at hhigh
    linarith
  · intro hx
    have hq : q = -1074 := by
      refine h.leading.resolve_right fun hleading => ?_
      have hle : (2 : ℚ) ^ (52 + q) ≤ 2 ^ (-1075 : Int) := by
        rw [zpow_add₀ (by norm_num)]
        exact hleading.trans hx
      have := (zpow_le_zpow_iff_right₀ (by norm_num : (1 : ℚ) < 2)).1 hle
      have := h.least
      omega
    have hlow := h.low
    have hodd := h.odd
    rw [hq, hhalf] at hlow hodd
    -- one unit would be even at the tie
    have hlt : (n : ℚ) < 2 := by
      by_contra hge
      have := mul_le_mul_of_nonneg_right (not_lt.1 hge) hunit.le
      linarith
    have hn : n < 2 := by exact_mod_cast hlt
    by_contra hne
    have hone : n = 1 := by omega
    have hstrict := (hodd (by omega)).1
    rw [hone, Nat.cast_one] at hstrict
    linarith

end IsScaled

/-! The three ranges of a number -/

/-- Between underflow and overflow each number rounds to one of binary64. -/
theorem exists_roundsTo {x : ℚ} (hleast : 2 ^ (-1075 : Int) < x) (hmost : x < overflowThreshold) :
    ∃ m q, IsBinary64 m q ∧ 0 < m ∧ RoundsTo m q x := by
  have hx : 0 < x := lt_trans (zpow_pos (by norm_num) _) hleast
  have hlow : (2 : ℚ) ^ Int.log 2 x ≤ x := by exact_mod_cast Int.zpow_log_le_self (by norm_num) hx
  have hhigh : x < (2 : ℚ) ^ (Int.log 2 x + 1) := by
    exact_mod_cast Int.lt_zpow_succ_log_self (by norm_num) x
  obtain ⟨n, hn⟩ := exists_isScaled hlow hhigh
  generalize max (Int.log 2 x - 52) (-1074) = q at hn
  have hpos : 0 < n := Nat.pos_of_ne_zero fun hzero => not_lt.2 (hn.eq_zero_iff.1 hzero) hleast
  rcases Nat.lt_or_eq_of_le hn.le with hlt | rfl
  · obtain ⟨hbinary, hrounds⟩ := hn.roundsTo hpos hlt (hn.exponent_le hmost)
    exact ⟨n, q, hbinary, hpos, hrounds⟩
  · have hq : q ≤ 970 := by
      have hle := hn.exponent_le hmost
      by_contra hlarge
      obtain rfl : q = 971 := by omega
      have hlow := hn.low
      rw [Nat.cast_pow, Nat.cast_ofNat, ← overflowThreshold_eq] at hlow
      exact not_lt.2 hlow hmost
    obtain ⟨hbinary, hrounds⟩ := hn.roundsTo_carry hq
    exact ⟨2 ^ 52, q + 1, hbinary, by decide, hrounds⟩

/-- The bit pattern that is computed comes from the number in units of its last place. -/
theorem exists_nearestBits_eq {num den : Nat} (hnum : 0 < num) (hden : 0 < den) :
    ∃ n q, IsScaled (num / den) n q ∧
      nearestBits num den = min ((q + 1074).toNat * twoTo 52 + n) (2047 * twoTo 52) := by
  obtain ⟨hlow, hhigh⟩ := floorLog2_spec hnum hden
  obtain ⟨n, hn⟩ := exists_isScaled hlow hhigh
  refine ⟨n, _, hn, ?_⟩
  rw [nearestBits_eq, if_neg hnum.ne', scaledRound_eq hden hn.low hn.high hn.odd]

theorem nearestBits_eq_zero {num den : Nat} (hnum : 0 < num) (hden : 0 < den)
    (hx : (num : ℚ) / den ≤ 2 ^ (-1075 : Int)) : nearestBits num den = 0 := by
  obtain ⟨n, q, hn, hbits⟩ := exists_nearestBits_eq hnum hden
  have hzero := hn.eq_zero_iff.2 hx
  have hq : q = -1074 := hn.mantissa_le.resolve_right (by omega)
  rw [hbits, hzero, hq]
  rfl

theorem nearestBits_eq_infinity {num den : Nat} (hnum : 0 < num) (hden : 0 < den)
    (hx : overflowThreshold ≤ (num : ℚ) / den) : nearestBits num den = 2047 * twoTo 52 := by
  obtain ⟨n, q, hn, hbits⟩ := exists_nearestBits_eq hnum hden
  have hexponent : 971 ≤ q := by
    have hlt : (2 : ℚ) ^ (1023 : Int) < 2 ^ (53 + q) := by
      rw [zpow_add₀ (by norm_num)]
      exact lt_of_le_of_lt (le_overflowThreshold.trans hx) hn.below
    have := exponent_lt_of_zpow_lt hlt
    omega
  have hmantissa : 2 ^ 52 ≤ n := hn.mantissa_le.resolve_left (by omega)
  -- in units of `2 ^ 971` the threshold is a tie, which the largest finite number loses
  have hcarry : q = 971 → n = 2 ^ 53 := by
    rintro rfl
    have hle := hn.le
    have hunit := hn.unit_pos
    rw [overflowThreshold_eq] at hx
    have hge : (2 : ℚ) ^ 53 - 1 / 2 ≤ n + 1 / 2 :=
      le_of_mul_le_mul_right (hx.trans hn.high) hunit
    have hcast : ((2 ^ 53 : Nat) : ℚ) ≤ ((n + 1 : Nat) : ℚ) := by
      push_cast
      linarith
    have hnext : 2 ^ 53 ≤ n + 1 := by exact_mod_cast hcast
    by_contra hne
    have hlast : n = 2 ^ 53 - 1 := by omega
    have hstrict := (hn.odd (by omega)).2
    have : (n : ℚ) + 1 / 2 = 2 ^ 53 - 1 / 2 := by
      rw [hlast]
      norm_num
    rw [this] at hstrict
    exact not_lt.2 hx hstrict
  rw [hbits]
  refine Nat.min_eq_right ?_
  rw [twoTo_52]
  rcases eq_or_lt_of_le hexponent with heq | hlt
  · rw [hcarry heq.symm, ← heq]
    decide
  · omega

/-! Decimals -/

section Decimals

variable {d : Decimal}

/-- The number that a decimal stands for, without its sign. -/
def Decimal.magnitude (d : Decimal) : ℚ :=
  d.digits * 10 ^ d.exponent

theorem Decimal.magnitude_nonneg (d : Decimal) : 0 ≤ d.magnitude :=
  mul_nonneg (Nat.cast_nonneg _) (zpow_pos (by norm_num) _).le

theorem Decimal.magnitude_eq_zero (h : d.digits = 0) : d.magnitude = 0 := by
  rw [magnitude, h, Nat.cast_zero, zero_mul]

/-- The exponents that are answered without a computation are beyond overflow. -/
theorem overflowThreshold_le_of_exponent (hdigits : d.digits ≠ 0) (he : 400 < d.exponent) :
    overflowThreshold ≤ d.magnitude := by
  have hone : (1 : ℚ) ≤ d.digits := by exact_mod_cast Nat.pos_of_ne_zero hdigits
  calc
    overflowThreshold ≤ 2 ^ (1024 : Int) := overflowThreshold_lt.le
    _ ≤ 2 ^ (3 * d.exponent) := zpow_le_zpow_right₀ (by norm_num) (by omega)
    _ ≤ 10 ^ d.exponent := two_zpow_le_ten_zpow (by omega)
    _ ≤ d.digits * 10 ^ d.exponent := le_mul_of_one_le_left (zpow_pos (by norm_num) _).le hone

/-- Or they are below underflow. -/
theorem magnitude_le_of_exponent (he : d.exponent < -1100 - (d.digits.log2 : Int)) :
    d.magnitude ≤ 2 ^ (-1075 : Int) := by
  have hpower : (10 : ℚ) ^ d.exponent ≤ 2 ^ (-1077 - (d.digits.log2 : Int)) :=
    ten_zpow_le_of_nonpos (by omega) (by omega)
  calc
    (d.digits : ℚ) * 10 ^ d.exponent ≤
        2 ^ ((d.digits.log2 : Int) + 1) * 2 ^ (-1077 - (d.digits.log2 : Int)) :=
      mul_le_mul (lt_zpow_log2 _).le hpower (zpow_pos (by norm_num) _).le
        (zpow_pos (by norm_num) _).le
    _ = 2 ^ (-1076 : Int) := by
      rw [← zpow_add₀ (by norm_num : (2 : ℚ) ≠ 0)]
      congr 1
      omega
    _ ≤ 2 ^ (-1075 : Int) := zpow_le_zpow_right₀ (by norm_num) (by norm_num)

theorem underflow_lt_overflow : (2 : ℚ) ^ (-1075 : Int) < overflowThreshold :=
  lt_of_lt_of_le (zpow_lt_zpow_right₀ (by norm_num) (by norm_num)) le_overflowThreshold

theorem toFloat_of_underflow (hx : d.magnitude ≤ 2 ^ (-1075 : Int)) :
    d.toFloat = ofMagnitude d.negative 0 := by
  by_cases hdigits : d.digits = 0
  · rw [Decimal.toFloat, if_pos hdigits]
  have hle : ¬400 < d.exponent := fun he =>
    not_lt.2 ((overflowThreshold_le_of_exponent hdigits he).trans hx) underflow_lt_overflow
  by_cases hge : d.exponent < -1100 - (d.digits.log2 : Int)
  · rw [Decimal.toFloat, if_neg hdigits, if_neg hle, if_pos hge]
  obtain ⟨num, den, hnum, hden, hvalue, hfloat⟩ :=
    exists_quotient (Nat.pos_of_ne_zero hdigits) (not_lt.1 hle) (not_lt.1 hge)
  rw [Decimal.magnitude, ← hvalue] at hx
  rw [hfloat, nearestBits_eq_zero hnum hden hx]

theorem toFloat_of_overflow (hx : overflowThreshold ≤ d.magnitude) :
    d.toFloat = infinity d.negative := by
  have hpos := lt_of_lt_of_le underflow_lt_overflow hx
  have hdigits : d.digits ≠ 0 := fun h => by
    rw [Decimal.magnitude_eq_zero h] at hpos
    exact not_lt.2 (zpow_pos (by norm_num) _).le hpos
  by_cases hle : 400 < d.exponent
  · rw [Decimal.toFloat, if_neg hdigits, if_pos hle]
  have hge : ¬d.exponent < -1100 - (d.digits.log2 : Int) := fun he =>
    not_lt.2 (magnitude_le_of_exponent he) hpos
  obtain ⟨num, den, hnum, hden, hvalue, hfloat⟩ :=
    exists_quotient (Nat.pos_of_ne_zero hdigits) (not_lt.1 hle) (not_lt.1 hge)
  rw [Decimal.magnitude, ← hvalue] at hx
  rw [hfloat, nearestBits_eq_infinity hnum hden hx, infinity]

/-! Floats -/

theorem isNearest_zero_iff {x : ℚ} (hx : 0 ≤ x) :
    IsNearest 0 (-1074) x ↔ x ≤ 2 ^ (-1075 : Int) := by
  have hhalf : (2 : ℚ) ^ (-1074 : Int) = 2 * 2 ^ (-1075 : Int) := by
    rw [← zpow_one_add₀ (by norm_num)]
    rfl
  have hunit : (0 : ℚ) < 2 ^ (-1075 : Int) := zpow_pos (by norm_num) _
  constructor
  · intro h
    have hone := h.nearest 1 (-1074) ⟨le_refl _, by decide⟩
    rw [Nat.cast_zero, zero_mul, Nat.cast_one, one_mul, hhalf] at hone
    linarith [two_mul_le_of_nearer (by linarith) hone]
  · intro hle
    refine ⟨fun n p hn => ?_, fun _ _ _ _ _ => rfl⟩
    obtain ⟨k, hk⟩ := exists_mul_zpow n hn.least
    rw [hk, Nat.cast_zero, zero_mul, sub_zero, abs_of_nonneg hx, hhalf]
    rcases Nat.eq_zero_or_pos k with rfl | hpos
    · rw [Nat.cast_zero, zero_mul, sub_zero, abs_of_nonneg hx]
    · have hone : (1 : ℚ) ≤ k := by exact_mod_cast hpos
      have hscaled := mul_le_mul_of_nonneg_right hone (mul_pos two_pos hunit).le
      rw [abs_of_nonpos (by linarith)]
      linarith

/-- Bits that are none of the undefined number are kept. -/
theorem toBits_ofBits {bits : UInt64}
    (h : bits.toNat / 2 ^ 52 % 2048 = 2047 → bits.toNat % 2 ^ 52 = 0) :
    (Float.ofBits bits).toBits = bits := by
  have hvalid : Float.Model.Format.binary64.Valid bits.toBitVec := by
    refine ⟨fun hexponent hmantissa => absurd (BitVec.eq_of_toNat_eq ?_) hmantissa⟩
    have hfull := congrArg BitVec.toNat hexponent
    simp only [Float.Model.UnpackedFloat.unpackExponent, Float.Model.UnpackedFloat.unpackMantissa,
      BitVec.toNat_cast, BitVec.extractLsb_toNat, Nat.shiftRight_eq_div_pow] at hfull ⊢
    simpa using h hfull
  exact congrArg Float.toBits (Float.ofBits_toBits (Float.ofModel ⟨bits, hvalid⟩))

/-- The bits of a number with its sign. -/
def signedBits (negative : Bool) (bits : Nat) : Nat :=
  if negative then bits + twoTo 63 else bits

theorem value_ofMagnitude {bits : Nat} (hbits : bits ≤ 2047 * twoTo 52) (negative : Bool) :
    value (ofMagnitude negative bits) = valueOfBits (signedBits negative bits) := by
  rw [twoTo_52] at hbits
  have hsigned : signedBits negative bits < 2 ^ 64 ∧
      signedBits negative bits % 2 ^ 63 = bits := by
    rw [signedBits, twoTo_63]
    split <;> omega
  have hnat : (UInt64.ofNat (signedBits negative bits)).toNat = signedBits negative bits :=
    UInt64.toNat_ofNat_of_lt' hsigned.1
  have hkept : (Float.ofBits (UInt64.ofNat (signedBits negative bits))).toBits =
      UInt64.ofNat (signedBits negative bits) := by
    refine toBits_ofBits ?_
    rw [hnat]
    omega
  change valueOfBits (Float.ofBits (UInt64.ofNat (signedBits negative bits))).toBits.toNat = _
  rw [hkept, hnat]

theorem valueOfBits_pattern {m : Nat} {q : Int} (h : IsBinary64 m q) (negative : Bool) :
    valueOfBits (signedBits negative (pattern m q)) = .finite negative m q := by
  have hpattern := pattern_lt h
  obtain ⟨hleast, hmost, hmantissa, hleading⟩ := h
  rw [twoTo_52] at hleading hpattern
  rw [twoTo_53] at hmantissa
  obtain ⟨n, hn⟩ : ∃ n, signedBits negative (pattern m q) = n := ⟨_, rfl⟩
  rw [pattern, twoTo_52] at hpattern
  rw [signedBits, pattern, twoTo_52, twoTo_63] at hn
  have hsign : (n / 9223372036854775808 % 2 == 1) = negative := by
    cases negative with
    | true =>
        rw [if_pos rfl] at hn
        rw [beq_iff_eq]
        omega
    | false =>
        rw [if_neg Bool.false_ne_true] at hn
        rw [beq_eq_false_iff_ne]
        omega
  have hmagnitude : n % 9223372036854775808 = (q + 1074).toNat * 4503599627370496 + m := by
    split at hn <;> omega
  rw [signedBits, pattern, twoTo_52, twoTo_63, hn, valueOfBits]
  simp only [twoTo_52, twoTo_63, hsign]
  rw [if_neg (by omega)]
  split
  · rw [show n % 4503599627370496 = m by omega, show q = -1074 by omega]
  · rw [show n % 4503599627370496 + 4503599627370496 = m by omega,
      show ((n / 4503599627370496 % 2048 : Nat) : Int) - 1075 = q by omega]

theorem value_infinity (negative : Bool) : value (infinity negative) = .infinite negative := by
  cases negative <;> rfl

theorem eq_infinity_of_value {v : Float} {negative : Bool} (h : value v = .infinite negative) :
    v = infinity negative := by
  have hbits := v.toBits.toNat_lt
  rw [value, valueOfBits] at h
  simp only [twoTo_52, twoTo_63] at h
  split at h
  · split at h
    · next hexponent hfraction =>
      injection h with hsign
      have hmagnitude : v.toBits.toNat % twoTo 63 = 2047 * twoTo 52 := by
        rw [twoTo_52, twoTo_63]
        omega
      rw [← twoTo_63] at hsign
      have heq := bits_eq_of_sign hbits hsign
      rw [hmagnitude] at heq
      rw [infinity, ofMagnitude, ← heq, UInt64.ofNat_toNat, Float.ofBits_toBits]
    · cases h
  · split at h <;> cases h

/-- The float of a decimal is the one to which it is rounded. -/
theorem isRounded_iff {v : Float} :
    IsRounded d.negative d.magnitude (value v) ↔ d.toFloat = v := by
  constructor
  · intro h
    generalize hv : value v = w at h
    cases h with
    | finite hbinary hx =>
        obtain ⟨-, rfl⟩ := eq_ofMagnitude_of_value hv
        rename_i m q
        rcases Nat.eq_zero_or_pos m with rfl | hm
        · obtain rfl : q = -1074 := hbinary.leading.resolve_right (by decide)
          exact toFloat_of_underflow ((isNearest_zero_iff d.magnitude_nonneg).1 hx)
        · exact toFloat_of_roundsTo hbinary hm (roundsTo_of_isNearest hbinary hm hx)
    | infinite hx =>
        rw [eq_infinity_of_value hv]
        exact toFloat_of_overflow hx
  · rintro rfl
    rcases lt_or_ge ((2 : ℚ) ^ (-1075 : Int)) d.magnitude with hleast | hle
    · rcases lt_or_ge d.magnitude overflowThreshold with hmost | hge
      · obtain ⟨m, q, hbinary, hm, hrounds⟩ := exists_roundsTo hleast hmost
        rw [toFloat_of_roundsTo hbinary hm hrounds, value_ofMagnitude (pattern_lt hbinary).le,
          valueOfBits_pattern hbinary]
        exact .finite hbinary (isNearest_of_roundsTo hbinary hm hrounds)
      · rw [toFloat_of_overflow hge, value_infinity]
        exact .infinite hge
    · have hzero : IsBinary64 0 (-1074) := ⟨le_refl _, by decide, by decide, .inl rfl⟩
      rw [toFloat_of_underflow hle]
      have hvalue : value (ofMagnitude d.negative 0) = .finite d.negative 0 (-1074) := by
        cases d.negative <;> rfl
      rw [hvalue]
      exact .finite hzero ((isNearest_zero_iff d.magnitude_nonneg).2 hle)

end Decimals

end ShapeCoords.Number
