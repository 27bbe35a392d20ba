import ShapeCoords.Proofs.Number.Scaling

/-!
The binary64 number nearest to a quotient: every quotient in the rounding interval of a number has
the bit pattern of that number.
-/

namespace ShapeCoords.Number

/-- The number `m * 2 ^ q` is one of binary64, with the exponent it has there. -/
structure IsBinary64 (m : Nat) (q : Int) : Prop where
  least : -1074 ≤ q
  most : q ≤ 971
  mantissa : m < twoTo 53
  leading : q = -1074 ∨ twoTo 52 ≤ m

/-- The bit pattern of `m * 2 ^ q`, without sign. -/
def pattern (m : Nat) (q : Int) : Nat :=
  (q + 1074).toNat * twoTo 52 + m

/-- `x` lies in the rounding interval of `m * 2 ^ q`. -/
structure RoundsTo (m : Nat) (q : Int) (x : ℚ) : Prop where
  low : ((roundingInterval m q).low : ℚ) * 2 ^ (q - 2) ≤ x
  high : x ≤ ((roundingInterval m q).high : ℚ) * 2 ^ (q - 2)
  inside : m % 2 = 1 → ((roundingInterval m q).low : ℚ) * 2 ^ (q - 2) < x ∧
    x < ((roundingInterval m q).high : ℚ) * 2 ^ (q - 2)

/-! Binary exponents -/

theorem zpow_log2_le {n : Nat} (hn : 0 < n) : (2 : ℚ) ^ (n.log2 : Int) ≤ n := by
  rw [zpow_natCast]
  exact_mod_cast Nat.log2_self_le hn.ne'

theorem lt_zpow_log2 (n : Nat) : (n : ℚ) < 2 ^ ((n.log2 : Int) + 1) := by
  have : n < 2 ^ (n.log2 + 1) := Nat.lt_log2_self
  exact_mod_cast this

/-- The difference of the logarithms is at most one too large. -/
theorem zpow_log2_sub_le_div {num den : Nat} (hnum : 0 < num) (hden : 0 < den) :
    (2 : ℚ) ^ ((num.log2 : Int) - den.log2 - 1) ≤ (num : ℚ) / den := by
  have hden' : (0 : ℚ) < den := by exact_mod_cast hden
  rw [le_div_iff₀ hden']
  calc
    (2 : ℚ) ^ ((num.log2 : Int) - den.log2 - 1) * den ≤
        2 ^ ((num.log2 : Int) - den.log2 - 1) * 2 ^ ((den.log2 : Int) + 1) :=
      mul_le_mul_of_nonneg_left (lt_zpow_log2 den).le (zpow_pos (by norm_num) _).le
    _ = 2 ^ (num.log2 : Int) := by
      rw [← zpow_add₀ (by norm_num : (2 : ℚ) ≠ 0)]
      congr 1
      omega
    _ ≤ num := zpow_log2_le hnum

/-- And never too small. -/
theorem div_lt_zpow_log2_sub (num : Nat) {den : Nat} (hden : 0 < den) :
    (num : ℚ) / den < 2 ^ ((num.log2 : Int) - den.log2 + 1) := by
  have hden' : (0 : ℚ) < den := by exact_mod_cast hden
  rw [div_lt_iff₀ hden']
  calc
    (num : ℚ) < 2 ^ ((num.log2 : Int) + 1) := lt_zpow_log2 num
    _ = 2 ^ ((num.log2 : Int) - den.log2 + 1) * 2 ^ (den.log2 : Int) := by
      rw [← zpow_add₀ (by norm_num : (2 : ℚ) ≠ 0)]
      congr 1
      omega
    _ ≤ 2 ^ ((num.log2 : Int) - den.log2 + 1) * den :=
      mul_le_mul_of_nonneg_left (zpow_log2_le hden) (zpow_pos (by norm_num) _).le

/-- The comparison by which the logarithm of a quotient is decided. -/
theorem reached_iff (num : Nat) {den : Nat} (hden : 0 < den) (k : Int) :
    (if 0 ≤ k then den * twoTo k.toNat ≤ num else den ≤ num * twoTo (-k).toNat) ↔
      (2 : ℚ) ^ k ≤ (num : ℚ) / den := by
  have hden' : (0 : ℚ) < den := by exact_mod_cast hden
  rw [le_div_iff₀ hden']
  split
  · next hk =>
    obtain ⟨n, rfl⟩ := Int.eq_ofNat_of_zero_le hk
    rw [Int.toNat_natCast, zpow_natCast, ← Nat.cast_le (α := ℚ), Nat.cast_mul, cast_twoTo, mul_comm]
  · next hk =>
    obtain ⟨n, rfl⟩ : ∃ n : Nat, k = -n := ⟨(-k).toNat, by omega⟩
    rw [neg_neg, Int.toNat_natCast, zpow_neg, zpow_natCast, inv_mul_le_iff₀ (by positivity),
      ← Nat.cast_le (α := ℚ), Nat.cast_mul, cast_twoTo, mul_comm]

theorem floorLog2_spec {num den : Nat} (hnum : 0 < num) (hden : 0 < den) :
    (2 : ℚ) ^ floorLog2 num den ≤ (num : ℚ) / den ∧
      (num : ℚ) / den < 2 ^ (floorLog2 num den + 1) := by
  have hreached := reached_iff num hden ((num.log2 : Int) - den.log2)
  rw [floorLog2]
  by_cases hk : (2 : ℚ) ^ ((num.log2 : Int) - den.log2) ≤ (num : ℚ) / den
  · rw [if_pos (hreached.2 hk)]
    exact ⟨hk, div_lt_zpow_log2_sub num hden⟩
  · rw [if_neg (mt hreached.1 hk), sub_add_cancel]
    exact ⟨zpow_log2_sub_le_div hnum hden, not_le.1 hk⟩

/-! Rounding to an integer -/

theorem roundHalfEven_eq_of_nat {a b n : Nat} (hb : 0 < b) (hlow : 2 * (n * b) ≤ 2 * a + b)
    (hhigh : 2 * a ≤ 2 * (n * b) + b)
    (hodd : n % 2 = 1 → 2 * (n * b) < 2 * a + b ∧ 2 * a < 2 * (n * b) + b) :
    roundHalfEven a b = n := by
  have ha : b * (a / b) + a % b = a := Nat.div_add_mod a b
  have hr : a % b < b := Nat.mod_lt a hb
  have hle : a / b ≤ n := by
    refine Nat.le_of_lt_succ (Nat.lt_of_mul_lt_mul_left (a := b) ?_)
    rw [Nat.mul_succ, Nat.mul_comm b n]
    omega
  have hge : n ≤ a / b + 1 := by
    refine Nat.le_of_lt_succ (Nat.lt_of_mul_lt_mul_left (a := b) ?_)
    rw [Nat.mul_succ, Nat.mul_succ, Nat.mul_comm b n]
    omega
  rw [roundHalfEven]
  -- the quotient is `n` or one less
  rcases Nat.eq_or_lt_of_le hle with hk | hk
  · have hproduct : n * b = b * (a / b) := by rw [hk, Nat.mul_comm]
    rw [hproduct] at hlow hhigh hodd
    split
    · exact hk
    · split
      · omega
      · split <;> omega
  · have hn : n = a / b + 1 := by omega
    have hproduct : n * b = b * (a / b) + b := by rw [hn, Nat.succ_mul, Nat.mul_comm]
    rw [hproduct] at hlow hhigh hodd
    split
    · omega
    · split
      · exact hn.symm
      · split <;> omega

/-- A quotient within a half of an integer is rounded to it, ties to an even one. -/
theorem roundHalfEven_eq {a b n : Nat} (hb : 0 < b) (hlow : (n : ℚ) - 1 / 2 ≤ a / b)
    (hhigh : (a : ℚ) / b ≤ n + 1 / 2)
    (hodd : n % 2 = 1 → (n : ℚ) - 1 / 2 < a / b ∧ (a : ℚ) / b < n + 1 / 2) :
    roundHalfEven a b = n := by
  have hb' : (0 : ℚ) < b := by exact_mod_cast hb
  have hle : (n : ℚ) - 1 / 2 ≤ a / b ↔ 2 * (n * b) ≤ 2 * a + b := by
    rw [le_div_iff₀ hb', ← Nat.cast_le (α := ℚ)]
    push_cast
    constructor <;> intro h <;> linarith
  have hge : (a : ℚ) / b ≤ n + 1 / 2 ↔ 2 * a ≤ 2 * (n * b) + b := by
    rw [div_le_iff₀ hb', ← Nat.cast_le (α := ℚ)]
    push_cast
    constructor <;> intro h <;> linarith
  have hlt : (n : ℚ) - 1 / 2 < a / b ↔ 2 * (n * b) < 2 * a + b := by
    rw [lt_div_iff₀ hb', ← Nat.cast_lt (α := ℚ)]
    push_cast
    constructor <;> intro h <;> linarith
  have hgt : (a : ℚ) / b < n + 1 / 2 ↔ 2 * a < 2 * (n * b) + b := by
    rw [div_lt_iff₀ hb', ← Nat.cast_lt (α := ℚ)]
    push_cast
    constructor <;> intro h <;> linarith
  refine roundHalfEven_eq_of_nat hb (hle.1 hlow) (hge.1 hhigh) fun h => ?_
  exact ⟨hlt.1 (hodd h).1, hgt.1 (hodd h).2⟩

/-- The mantissa that is computed for an exponent. -/
def scaledRound (num den : Nat) (q : Int) : Nat :=
  if 0 ≤ q then roundHalfEven num (den * twoTo q.toNat)
  else roundHalfEven (num * twoTo (-q).toNat) den

theorem scaledRound_eq {num den n : Nat} {q : Int} (hden : 0 < den)
    (hlow : ((n : ℚ) - 1 / 2) * 2 ^ q ≤ num / den) (hhigh : (num : ℚ) / den ≤ (n + 1 / 2) * 2 ^ q)
    (hodd : n % 2 = 1 →
      ((n : ℚ) - 1 / 2) * 2 ^ q < num / den ∧ (num : ℚ) / den < (n + 1 / 2) * 2 ^ q) :
    scaledRound num den q = n := by
  have hpos : (0 : ℚ) < 2 ^ q := zpow_pos (by norm_num) q
  rw [← le_div_iff₀ hpos] at hlow
  rw [← div_le_iff₀ hpos] at hhigh
  rw [← lt_div_iff₀ hpos, ← div_lt_iff₀ hpos] at hodd
  rw [scaledRound]
  split
  · next hq =>
    obtain ⟨k, rfl⟩ := Int.eq_ofNat_of_zero_le hq
    have hquotient : (num : ℚ) / den / 2 ^ (k : Int) = num / (den * twoTo k : Nat) := by
      push_cast [cast_twoTo]
      rw [div_div, zpow_natCast]
    rw [hquotient] at hlow hhigh hodd
    exact roundHalfEven_eq (Nat.mul_pos hden (twoTo_pos k)) hlow hhigh hodd
  · next hq =>
    obtain ⟨k, rfl⟩ : ∃ k : Nat, q = -k := ⟨(-q).toNat, by omega⟩
    have hquotient : (num : ℚ) / den / 2 ^ (-(k : Int)) = (num * twoTo k : Nat) / den := by
      push_cast [cast_twoTo]
      rw [zpow_neg, zpow_natCast, div_inv_eq_mul, div_mul_eq_mul_div]
    rw [hquotient] at hlow hhigh hodd
    rw [neg_neg, Int.toNat_natCast]
    exact roundHalfEven_eq hden hlow hhigh hodd

/-! The bit pattern -/

theorem nearestBits_eq (num den : Nat) :
    nearestBits num den =
      if num = 0 then 0
      else
        min ((max (floorLog2 num den - 52) (-1074) + 1074).toNat * twoTo 52 +
          scaledRound num den (max (floorLog2 num den - 52) (-1074))) (2047 * twoTo 52) := rfl

theorem twoTo_52 : twoTo 52 = 4503599627370496 := by decide

theorem twoTo_53 : twoTo 53 = 9007199254740992 := by decide

theorem pattern_lt {m : Nat} {q : Int} (h : IsBinary64 m q) : pattern m q < 2047 * twoTo 52 := by
  obtain ⟨hleast, hmost, hmantissa, -⟩ := h
  rw [twoTo_53] at hmantissa
  rw [pattern, twoTo_52]
  omega

/-- Powers of two from the spacing of a rounding interval. -/
theorem zpow_add_spacing (q : Int) (k : Nat) : (2 : ℚ) ^ (q + k) = 2 ^ (k + 2) * 2 ^ (q - 2) := by
  rw [← zpow_natCast, ← zpow_add₀ (by norm_num : (2 : ℚ) ≠ 0)]
  congr 1
  push_cast
  omega

theorem zpow_eq_spacing (q : Int) : (2 : ℚ) ^ q = 4 * 2 ^ (q - 2) := by
  have hspacing := zpow_add_spacing q 0
  rw [Nat.cast_zero, add_zero] at hspacing
  rw [hspacing]
  norm_num

theorem zpow_sub_one_eq_spacing (q : Int) : (2 : ℚ) ^ (q - 1) = 2 * 2 ^ (q - 2) := by
  rw [← zpow_one_add₀ (by norm_num : (2 : ℚ) ≠ 0)]
  congr 1
  omega

theorem exponent_lt_of_zpow_lt {k l : Int} (h : (2 : ℚ) ^ k < 2 ^ l) : k < l :=
  (zpow_lt_zpow_iff_right₀ (by norm_num : (1 : ℚ) < 2)).1 h

theorem low_roundingInterval (m : Nat) (q : Int) : 4 * m ≤ (roundingInterval m q).low + 2 := by
  simp only [roundingInterval]
  split <;> omega

theorem low_roundingInterval_lt {m : Nat} (hm : 0 < m) (q : Int) :
    (roundingInterval m q).low + 1 ≤ 4 * m := by
  simp only [roundingInterval]
  split <;> omega

theorem RoundsTo.zpow_le {m : Nat} {q : Int} {x : ℚ} (hx : RoundsTo m q x) (hm : 0 < m) :
    (2 : ℚ) ^ (q - 1) ≤ x := by
  have hlow : 2 ≤ (roundingInterval m q).low := by
    have := low_roundingInterval m q
    omega
  have hlow' : (2 : ℚ) ≤ (roundingInterval m q).low := by exact_mod_cast hlow
  calc
    (2 : ℚ) ^ (q - 1) = 2 * 2 ^ (q - 2) := zpow_sub_one_eq_spacing q
    _ ≤ (roundingInterval m q).low * 2 ^ (q - 2) :=
      mul_le_mul_of_nonneg_right hlow' (zpow_pos (by norm_num) _).le
    _ ≤ x := hx.low

theorem RoundsTo.lt_zpow {m : Nat} {q : Int} {x : ℚ} (hx : RoundsTo m q x)
    (h : IsBinary64 m q) : x < 2 ^ (q + 53) := by
  have hhigh : (roundingInterval m q).high < 2 ^ 55 := by
    have hmantissa := h.mantissa
    rw [twoTo_53] at hmantissa
    simp only [roundingInterval]
    omega
  have hhigh' : ((roundingInterval m q).high : ℚ) < 2 ^ 55 := by exact_mod_cast hhigh
  calc
    x ≤ (roundingInterval m q).high * 2 ^ (q - 2) := hx.high
    _ < 2 ^ 55 * 2 ^ (q - 2) := mul_lt_mul_of_pos_right hhigh' (zpow_pos (by norm_num) _)
    _ = 2 ^ (q + 53) := (zpow_add_spacing q 53).symm

theorem RoundsTo.pos {m : Nat} {q : Int} {x : ℚ} (hx : RoundsTo m q x) (hm : 0 < m) : 0 < x :=
  lt_of_lt_of_le (zpow_pos (by norm_num) _) (hx.zpow_le hm)

theorem RoundsTo.pos_of_mul {m n : Nat} {q : Int} {y : ℚ} (hx : RoundsTo m q (n * y))
    (hm : 0 < m) : 0 < n := by
  refine Nat.pos_of_ne_zero fun hzero => ?_
  have hpos := hx.pos hm
  rw [hzero, Nat.cast_zero, zero_mul] at hpos
  exact lt_irrefl _ hpos

/-- A number in the rounding interval is no farther away than half a unit of the last place. -/
theorem RoundsTo.within {m : Nat} {q : Int} {x : ℚ} (hx : RoundsTo m q x) :
    ((m : ℚ) - 1 / 2) * 2 ^ q ≤ x ∧ x ≤ (m + 1 / 2) * 2 ^ q ∧
      (m % 2 = 1 → ((m : ℚ) - 1 / 2) * 2 ^ q < x ∧ x < (m + 1 / 2) * 2 ^ q) := by
  have hlow : ((m : ℚ) - 1 / 2) * 2 ^ q ≤ (roundingInterval m q).low * 2 ^ (q - 2) := by
    have hcast : (4 * m : ℚ) ≤ (roundingInterval m q).low + 2 := by
      exact_mod_cast low_roundingInterval m q
    rw [zpow_eq_spacing q, ← mul_assoc]
    refine mul_le_mul_of_nonneg_right ?_ (zpow_pos (by norm_num) _).le
    linarith
  have hhigh : ((roundingInterval m q).high : ℚ) * 2 ^ (q - 2) = (m + 1 / 2) * 2 ^ q := by
    rw [zpow_eq_spacing q, roundingInterval]
    push_cast
    ring
  rw [← hhigh]
  exact ⟨hlow.trans hx.low, hx.high, fun hodd =>
    ⟨lt_of_le_of_lt hlow (hx.inside hodd).1, (hx.inside hodd).2⟩⟩

/-- The exponent that is computed is that of the number, or for numbers just below a power of two
the next smaller one. -/
theorem exponent_of_roundsTo {m num den : Nat} {q : Int} (h : IsBinary64 m q) (hnum : 0 < num)
    (hden : 0 < den) (hx : RoundsTo m q (num / den)) :
    max (floorLog2 num den - 52) (-1074) = q ∨
      m = twoTo 52 ∧ -1074 < q ∧ (num : ℚ) / den < 2 ^ (q + 52) ∧
        max (floorLog2 num den - 52) (-1074) = q - 1 := by
  obtain ⟨hfloor, hnext⟩ := floorLog2_spec hnum hden
  have hu : (0 : ℚ) < 2 ^ (q - 2) := zpow_pos (by norm_num) _
  have h51 : (2 : ℚ) ^ (q + 51) = 2 ^ 53 * 2 ^ (q - 2) := zpow_add_spacing q 51
  have h52 : (2 : ℚ) ^ (q + 52) = 2 ^ 54 * 2 ^ (q - 2) := zpow_add_spacing q 52
  have hbelow := exponent_lt_of_zpow_lt (lt_of_le_of_lt hfloor (hx.lt_zpow h))
  obtain ⟨hleast, -, -, hleading⟩ := h
  -- below `2 ^ (q + 52)` there is only the lower half of the interval of a power of two
  rcases le_or_gt ((2 : ℚ) ^ (q + 52)) (num / den) with hle | hlt
  · have habove := exponent_lt_of_zpow_lt (lt_of_le_of_lt hle hnext)
    left
    omega
  · have hbelow' := exponent_lt_of_zpow_lt (lt_of_le_of_lt hfloor hlt)
    by_cases hq : q = -1074
    · left
      omega
    have hlow : (roundingInterval m q).low < 2 ^ 54 := by
      rw [h52] at hlt
      have := lt_of_mul_lt_mul_right (lt_of_le_of_lt hx.low hlt) hu.le
      exact_mod_cast this
    have hm : m = twoTo 52 := by
      by_contra hne
      rw [twoTo_52] at hleading hne
      have := low_roundingInterval m q
      omega
    have habove : (2 : ℚ) ^ (q + 51) ≤ num / den := by
      have hlow' : (2 : ℚ) ^ 53 ≤ (roundingInterval m q).low := by
        have : 2 ^ 53 ≤ (roundingInterval m q).low := by
          rw [roundingInterval, if_pos ⟨hm, by omega⟩, hm, twoTo_52]
          decide
        exact_mod_cast this
      rw [h51]
      exact (mul_le_mul_of_nonneg_right hlow' hu.le).trans hx.low
    have habove' := exponent_lt_of_zpow_lt (lt_of_le_of_lt habove hnext)
    right
    refine ⟨hm, ?_, hlt, ?_⟩ <;> omega

/-- A quotient in the rounding interval of a number has the bit pattern of that number. -/
theorem nearestBits_eq_pattern {m num den : Nat} {q : Int} (h : IsBinary64 m q) (hm : 0 < m)
    (hden : 0 < den) (hx : RoundsTo m q (num / den)) : nearestBits num den = pattern m q := by
  have hu : (0 : ℚ) < 2 ^ (q - 2) := zpow_pos (by norm_num) _
  have hnum : 0 < num := by
    rw [div_eq_mul_inv] at hx
    exact hx.pos_of_mul hm
  have hmin : min (pattern m q) (2047 * twoTo 52) = pattern m q :=
    Nat.min_eq_left (pattern_lt h).le
  rw [nearestBits_eq, if_neg hnum.ne']
  rcases exponent_of_roundsTo h hnum hden hx with hq | ⟨hpower, hleast, hlt, hq⟩
  · have hround : scaledRound num den q = m :=
      scaledRound_eq hden hx.within.1 hx.within.2.1 hx.within.2.2
    rw [hq, hround]
    exact hmin
  · -- with the smaller exponent the mantissa is rounded up, and the carry makes up for it
    have hround : scaledRound num den (q - 1) = twoTo 53 := by
      have hunit := zpow_sub_one_eq_spacing q
      have hnext : (2 : ℚ) ^ (q + 52) = 2 ^ 53 * 2 ^ (q - 1) := by
        have hspacing : (2 : ℚ) ^ (q + 52) = 2 ^ 54 * 2 ^ (q - 2) := zpow_add_spacing q 52
        rw [hspacing, hunit]
        ring
      refine scaledRound_eq hden ?_ ?_ fun hodd => ?_
      · have hlow := hx.low
        rw [roundingInterval, if_pos ⟨hpower, hleast⟩, hpower, twoTo_52] at hlow
        rw [cast_twoTo, hunit]
        norm_num at hlow ⊢
        linarith
      · have hpos : (0 : ℚ) < 2 ^ (q - 1) := zpow_pos (by norm_num) _
        rw [cast_twoTo, add_mul, ← hnext]
        linarith
      · exact absurd hodd (by decide)
    have hcarry : (q - 1 + 1074).toNat * twoTo 52 + twoTo 53 = pattern m q := by
      rw [pattern, hpower, twoTo_52, twoTo_53]
      omega
    rw [hq, hround, hcarry, hmin]

end ShapeCoords.Number
