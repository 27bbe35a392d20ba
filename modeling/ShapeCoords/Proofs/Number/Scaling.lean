import Mathlib.Algebra.Order.Field.Power
import Mathlib.Algebra.Order.Field.Rat
import Mathlib.Data.Rat.Cast.Order
import Mathlib.Tactic.FieldSimp
import Mathlib.Tactic.Linarith
import Mathlib.Tactic.Positivity
import Mathlib.Tactic.Ring
import ShapeCoords.Number.Shortest

/-!
What the comparisons and divisions of natural numbers say about the numbers `d * 10 ^ g` and
`x * 2 ^ p` that they stand for.
-/

namespace ShapeCoords.Number

theorem cast_twoTo (k : Nat) : (twoTo k : ℚ) = 2 ^ k := by
  simp [twoTo]

theorem cast_tenTo (k : Nat) : (tenTo k : ℚ) = 10 ^ k := by
  simp [tenTo]

theorem twoTo_pos (k : Nat) : 0 < twoTo k :=
  Nat.pow_pos (by decide)

theorem tenTo_pos (k : Nat) : 0 < tenTo k :=
  Nat.pow_pos (by decide)

/-- A power with an integer exponent, cleared of its denominator. -/
theorem zpow_mul_pow_neg {b : ℚ} (hb : b ≠ 0) (e : Int) :
    b ^ e * b ^ (-e).toNat = b ^ e.toNat := by
  rw [← zpow_natCast b, ← zpow_natCast b, ← zpow_add₀ hb]
  congr 1
  omega

/-- The factor that clears both denominators. -/
def clearing (g p : Int) : ℚ :=
  10 ^ (-g).toNat * 2 ^ (-p).toNat

theorem clearing_pos (g p : Int) : 0 < clearing g p := by
  unfold clearing
  positivity

theorem cast_decimalSide (d : Nat) (g p : Int) :
    ((d * tenTo g.toNat * twoTo (-p).toNat : Nat) : ℚ) = d * 10 ^ g * clearing g p := by
  push_cast [cast_twoTo, cast_tenTo]
  rw [← zpow_mul_pow_neg (by norm_num : (10 : ℚ) ≠ 0) g, clearing]
  ring

theorem cast_binarySide (x : Nat) (g p : Int) :
    ((x * twoTo p.toNat * tenTo (-g).toNat : Nat) : ℚ) = x * 2 ^ p * clearing g p := by
  push_cast [cast_twoTo, cast_tenTo]
  rw [← zpow_mul_pow_neg (by norm_num : (2 : ℚ) ≠ 0) p, clearing]
  ring

theorem compareScaled_eq_lt {d x : Nat} {g p : Int} :
    compareScaled d g x p = .lt ↔ (d : ℚ) * 10 ^ g < x * 2 ^ p := by
  rw [compareScaled, compare_lt_iff_lt, ← Nat.cast_lt (α := ℚ), cast_decimalSide, cast_binarySide,
    mul_lt_mul_iff_left₀ (clearing_pos g p)]

theorem compareScaled_eq_gt {d x : Nat} {g p : Int} :
    compareScaled d g x p = .gt ↔ (x : ℚ) * 2 ^ p < d * 10 ^ g := by
  rw [compareScaled, compare_gt_iff_gt, ← Nat.cast_lt (α := ℚ), cast_decimalSide,
    cast_binarySide, mul_lt_mul_iff_left₀ (clearing_pos g p)]

theorem compareScaled_eq_eq {d x : Nat} {g p : Int} :
    compareScaled d g x p = .eq ↔ (d : ℚ) * 10 ^ g = x * 2 ^ p := by
  rw [compareScaled, compare_eq_iff_eq, ← Nat.cast_inj (R := ℚ), cast_decimalSide, cast_binarySide,
    mul_left_inj' (clearing_pos g p).ne']

theorem floorScaled_spec (g : Int) (x : Nat) (p : Int) :
    (floorScaled g x p : ℚ) * 10 ^ g ≤ x * 2 ^ p ∧
      (x : ℚ) * 2 ^ p < ((floorScaled g x p + 1 : Nat) : ℚ) * 10 ^ g := by
  have hdivisor : 0 < tenTo g.toNat * twoTo (-p).toNat :=
    Nat.mul_pos (tenTo_pos _) (twoTo_pos _)
  constructor
  · rw [← mul_le_mul_iff_left₀ (clearing_pos g p), ← cast_decimalSide, ← cast_binarySide,
      Nat.cast_le, Nat.mul_assoc]
    exact Nat.div_mul_le_self _ _
  · rw [← mul_lt_mul_iff_left₀ (clearing_pos g p), ← cast_decimalSide, ← cast_binarySide,
      Nat.cast_lt, Nat.mul_assoc (floorScaled g x p + 1)]
    exact Nat.lt_mul_of_div_lt (Nat.lt_succ_self _) hdivisor

end ShapeCoords.Number
