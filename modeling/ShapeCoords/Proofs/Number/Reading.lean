import Mathlib
import ShapeCoords.Proofs.Number.Shortest

/-!
Reading decimals: one in the rounding interval of a number is read as that number, to the bit.
-/

namespace ShapeCoords.Number

theorem twoTo_63 : twoTo 63 = 9223372036854775808 := by decide

/-- The sign is the highest bit. -/
theorem bits_eq_of_sign {bits : Nat} (hbits : bits < 2 ^ 64) {negative : Bool}
    (h : (bits / twoTo 63 % 2 == 1) = negative) :
    bits = if negative then bits % twoTo 63 + twoTo 63 else bits % twoTo 63 := by
  rw [twoTo_63] at h ⊢
  cases negative with
  | false =>
      rw [if_neg Bool.false_ne_true]
      rw [beq_eq_false_iff_ne] at h
      omega
  | true =>
      rw [if_pos rfl]
      rw [beq_iff_eq] at h
      omega

/-- The bits of a finite number are those of its parts. -/
theorem bits_of_valueOfBits {bits m : Nat} {q : Int} {negative : Bool} (hbits : bits < 2 ^ 64)
    (h : valueOfBits bits = .finite negative m q) :
    IsBinary64 m q ∧ bits = if negative then pattern m q + twoTo 63 else pattern m q := by
  have hparts : IsBinary64 m q ∧ (bits / twoTo 63 % 2 == 1) = negative ∧
      bits % twoTo 63 = pattern m q := by
    rw [valueOfBits] at h
    simp only [twoTo_52, twoTo_63] at h
    split at h
    · split at h <;> cases h
    · split at h
      · injection h with hsign hm hq
        subst hm hq
        refine ⟨⟨by omega, by omega, by rw [twoTo_53]; omega, .inl rfl⟩, hsign, ?_⟩
        rw [pattern, twoTo_52, twoTo_63]
        omega
      · injection h with hsign hm hq
        subst hm hq
        refine ⟨⟨by omega, by omega, by rw [twoTo_53]; omega, .inr (by rw [twoTo_52]; omega)⟩,
          hsign, ?_⟩
        rw [pattern, twoTo_52, twoTo_63]
        omega
  obtain ⟨hbinary, hsign, hmagnitude⟩ := hparts
  refine ⟨hbinary, ?_⟩
  rw [← hmagnitude]
  exact bits_eq_of_sign hbits hsign

theorem eq_ofMagnitude_of_value {v : Float} {negative : Bool} {m : Nat} {q : Int}
    (h : value v = .finite negative m q) :
    IsBinary64 m q ∧ v = ofMagnitude negative (pattern m q) := by
  obtain ⟨hbinary, hbits⟩ := bits_of_valueOfBits v.toBits.toNat_lt h
  refine ⟨hbinary, ?_⟩
  rw [ofMagnitude, ← hbits, UInt64.ofNat_toNat, Float.ofBits_toBits]

/-! Decimals -/

/-- The exponents that are answered without a computation are too large for a finite number. -/
theorem exponent_le_of_roundsTo {d m : Nat} {e q : Int} (h : IsBinary64 m q) (hd : 0 < d)
    (hx : RoundsTo m q ((d : ℚ) * 10 ^ e)) : e ≤ 400 := by
  by_contra he
  have hpos : (0 : ℚ) < 10 ^ e := zpow_pos (by norm_num) e
  have hone : (1 : ℚ) ≤ d := by exact_mod_cast hd
  have hlt := exponent_lt_of_zpow_lt <| calc
    (2 : ℚ) ^ (3 * e) ≤ 10 ^ e := two_zpow_le_ten_zpow (by omega)
    _ ≤ d * 10 ^ e := le_mul_of_one_le_left hpos.le hone
    _ < 2 ^ (q + 53) := hx.lt_zpow h
  have hmost := h.most
  omega

/-- Or they are too small for a positive one. -/
theorem le_exponent_of_roundsTo {d m : Nat} {e q : Int} (h : IsBinary64 m q) (hm : 0 < m)
    (hx : RoundsTo m q ((d : ℚ) * 10 ^ e)) : -1100 - (d.log2 : Int) ≤ e := by
  by_contra he
  have hleast := h.least
  have hpower : (10 : ℚ) ^ e ≤ 2 ^ (-1077 - (d.log2 : Int)) :=
    ten_zpow_le_of_nonpos (by omega) (by omega)
  have hlt := exponent_lt_of_zpow_lt <| calc
    (2 : ℚ) ^ (q - 1) ≤ d * 10 ^ e := hx.zpow_le hm
    _ < 2 ^ ((d.log2 : Int) + 1) * 2 ^ (-1077 - (d.log2 : Int)) :=
      mul_lt_mul (lt_zpow_log2 d) hpower (zpow_pos (by norm_num) e) (zpow_pos (by norm_num) _).le
    _ = 2 ^ (-1076 : Int) := by
      rw [← zpow_add₀ (by norm_num : (2 : ℚ) ≠ 0)]
      congr 1
      omega
  omega

/-- Any other decimal is computed as a quotient. -/
theorem exists_quotient {d : Decimal} (hdigits : 0 < d.digits) (hle : d.exponent ≤ 400)
    (hge : -1100 - (d.digits.log2 : Int) ≤ d.exponent) :
    ∃ num den : Nat, 0 < num ∧ 0 < den ∧ (num : ℚ) / den = d.digits * 10 ^ d.exponent ∧
      d.toFloat = ofMagnitude d.negative (nearestBits num den) := by
  rw [Decimal.toFloat, if_neg hdigits.ne', if_neg (by omega), if_neg (by omega)]
  split
  · next he =>
    obtain ⟨k, hk⟩ := Int.eq_ofNat_of_zero_le he
    refine ⟨_, 1, Nat.mul_pos hdigits (tenTo_pos _), Nat.one_pos, ?_, rfl⟩
    push_cast [cast_tenTo]
    rw [hk, Int.toNat_natCast, zpow_natCast, div_one]
  · next he =>
    obtain ⟨k, hk⟩ : ∃ k : Nat, d.exponent = -k := ⟨(-d.exponent).toNat, by omega⟩
    refine ⟨_, _, hdigits, tenTo_pos _, ?_, rfl⟩
    rw [cast_tenTo, hk, neg_neg, Int.toNat_natCast, zpow_neg, zpow_natCast, div_eq_mul_inv]

/-- A decimal in the rounding interval of a number is read as that number. -/
theorem toFloat_of_roundsTo {d : Decimal} {m : Nat} {q : Int} (h : IsBinary64 m q) (hm : 0 < m)
    (hx : RoundsTo m q ((d.digits : ℚ) * 10 ^ d.exponent)) :
    d.toFloat = ofMagnitude d.negative (pattern m q) := by
  have hdigits := hx.pos_of_mul hm
  have hle := exponent_le_of_roundsTo h hdigits hx
  have hge := le_exponent_of_roundsTo h hm hx
  obtain ⟨num, den, -, hden, hvalue, hfloat⟩ := exists_quotient hdigits hle hge
  rw [← hvalue] at hx
  rw [hfloat, nearestBits_eq_pattern h hm hden hx]

/-- A decimal with the value of the shortest digits of a number is read as that number. -/
theorem toFloat_of_shortest {v : Float} {d : Decimal} {m : Nat} {q : Int} {tie : Tie}
    (hv : value v = .finite d.negative m q) (hm : 0 < m)
    (hd : (d.digits : ℚ) * 10 ^ d.exponent =
      ((shortest tie m q).1 : ℚ) * 10 ^ (shortest tie m q).2) : d.toFloat = v := by
  obtain ⟨hbinary, hbits⟩ := eq_ofMagnitude_of_value hv
  have hx := roundsTo_shortest tie hbinary hm
  rw [← hd] at hx
  rw [hbits]
  exact toFloat_of_roundsTo hbinary hm hx

end ShapeCoords.Number
