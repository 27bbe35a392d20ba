import ShapeCoords.Proofs.Number.Nearest

/-!
Rounding to nearest without the rounding interval: the numbers that lie in the interval of a
binary64 number are those to which no other number is nearer, where a tie goes to the even one.
-/

namespace ShapeCoords.Number

/-- The number `m * 2 ^ q` is one of binary64, if exponents may be as large as they like. -/
structure IsRepresentable (m : Nat) (q : Int) : Prop where
  least : -1074 ≤ q
  mantissa : m < twoTo 53

/-- Rounding `x` to nearest gives `m * 2 ^ q`. Overflow counts as rounding to a number that is too
large. -/
structure IsNearest (m : Nat) (q : Int) (x : ℚ) : Prop where
  nearest : ∀ n p, IsRepresentable n p → |x - m * 2 ^ q| ≤ |x - n * 2 ^ p|
  even : ∀ n p, IsRepresentable n p → (n : ℚ) * 2 ^ p ≠ m * 2 ^ q →
    |x - n * 2 ^ p| = |x - m * 2 ^ q| → m % 2 = 0

theorem IsBinary64.mantissa_le {m : Nat} {q : Int} (h : IsBinary64 m q) (hq : q ≠ -1074) :
    twoTo 52 ≤ m :=
  h.leading.resolve_left hq

/-- The spacing of a rounding interval below its number. -/
def gapBelow (m : Nat) (q : Int) : Nat :=
  4 * m - (roundingInterval m q).low

theorem gapBelow_cases {m : Nat} (hm : 0 < m) (q : Int) :
    (gapBelow m q = 1 ∧ m = twoTo 52 ∧ -1074 < q) ∨
      (gapBelow m q = 2 ∧ ¬(m = twoTo 52 ∧ -1074 < q)) := by
  simp only [gapBelow, roundingInterval]
  split
  · next h => exact .inl ⟨by omega, h⟩
  · next h => exact .inr ⟨by omega, h⟩

theorem cast_low_roundingInterval {m : Nat} (hm : 0 < m) (q : Int) :
    ((roundingInterval m q).low : ℚ) = 4 * m - gapBelow m q := by
  have hlow := low_roundingInterval_lt hm q
  rw [gapBelow, Nat.cast_sub (by omega)]
  push_cast
  ring

theorem cast_high_roundingInterval (m : Nat) (q : Int) :
    ((roundingInterval m q).high : ℚ) = 4 * m + 2 := by
  simp [roundingInterval]

/-! The numbers around a number -/

section Neighbours

variable {m n : Nat} {q p : Int}

/-- Numbers with an exponent at least as large are multiples of the smaller unit. -/
theorem exists_mul_zpow (n : Nat) (h : q ≤ p) : ∃ k : Nat, (n : ℚ) * 2 ^ p = k * 2 ^ q := by
  obtain ⟨j, hj⟩ := Int.eq_ofNat_of_zero_le (show 0 ≤ p - q by omega)
  refine ⟨n * 2 ^ j, ?_⟩
  rw [show p = j + q by omega, zpow_add₀ (by norm_num), zpow_natCast]
  push_cast
  ring

/-- Numbers with a smaller exponent lie below the powers of two of the larger one. -/
theorem le_of_exponent_lt (hn : IsRepresentable n p) (h : p < q) :
    (n : ℚ) * 2 ^ p ≤ (2 ^ 52 : ℚ) * 2 ^ q - 2 * 2 ^ (q - 2) := by
  have hmantissa : (n : ℚ) ≤ 2 ^ 53 - 1 := by
    have := hn.mantissa
    rw [twoTo_53] at this
    have hle : n ≤ 2 ^ 53 - 1 := by omega
    have hcast : (n : ℚ) ≤ ((2 ^ 53 - 1 : Nat) : ℚ) := by exact_mod_cast hle
    norm_num at hcast ⊢
    exact hcast
  calc
    (n : ℚ) * 2 ^ p ≤ (2 ^ 53 - 1) * 2 ^ (q - 1) :=
      mul_le_mul hmantissa (zpow_le_zpow_right₀ (by norm_num) (by omega))
        (zpow_pos (by norm_num) _).le (by norm_num)
    _ = 2 ^ 52 * 2 ^ q - 2 * 2 ^ (q - 2) := by
      rw [zpow_eq_spacing q, zpow_sub_one_eq_spacing q]
      ring

/-- A larger number is farther away than four units. -/
theorem add_le_of_lt (h : IsBinary64 m q) (hn : IsRepresentable n p)
    (hlt : (m : ℚ) * 2 ^ q < n * 2 ^ p) : (m : ℚ) * 2 ^ q + 4 * 2 ^ (q - 2) ≤ n * 2 ^ p := by
  have hpos : (0 : ℚ) < 2 ^ q := zpow_pos (by norm_num) q
  rcases le_or_gt q p with hle | hgt
  · obtain ⟨k, hk⟩ := exists_mul_zpow n hle
    rw [hk] at hlt ⊢
    have hnext : m + 1 ≤ k := by
      exact_mod_cast lt_of_mul_lt_mul_right hlt hpos.le
    have hcast : (m : ℚ) + 1 ≤ k := by exact_mod_cast hnext
    rw [← zpow_eq_spacing]
    linarith [mul_le_mul_of_nonneg_right hcast hpos.le]
  · -- with a smaller exponent it would lie below the leading power of two
    have hleading : (2 ^ 52 : ℚ) ≤ m := by
      have := h.mantissa_le (by have := hn.least; omega)
      rw [twoTo_52] at this
      exact_mod_cast this
    have hbelow := le_of_exponent_lt hn hgt
    have hunit : (0 : ℚ) < 2 ^ (q - 2) := zpow_pos (by norm_num) _
    linarith [mul_le_mul_of_nonneg_right hleading hpos.le]

/-- A smaller number is farther away than twice the gap. -/
theorem le_sub_of_lt (h : IsBinary64 m q) (hm : 0 < m) (hn : IsRepresentable n p)
    (hlt : (n : ℚ) * 2 ^ p < m * 2 ^ q) :
    (n : ℚ) * 2 ^ p ≤ m * 2 ^ q - 2 * (gapBelow m q * 2 ^ (q - 2)) := by
  have hpos : (0 : ℚ) < 2 ^ q := zpow_pos (by norm_num) q
  have hunit : (0 : ℚ) < 2 ^ (q - 2) := zpow_pos (by norm_num) _
  have hgap : (gapBelow m q : ℚ) ≤ 2 := by
    rcases gapBelow_cases hm q with ⟨hone, -⟩ | ⟨htwo, -⟩
    · rw [hone]
      norm_num
    · rw [htwo]
      norm_num
  rcases le_or_gt q p with hle | hgt
  · obtain ⟨k, hk⟩ := exists_mul_zpow n hle
    rw [hk] at hlt ⊢
    have hnext : k + 1 ≤ m := by
      exact_mod_cast lt_of_mul_lt_mul_right hlt hpos.le
    have hcast : (k : ℚ) + 1 ≤ m := by exact_mod_cast hnext
    have hscaled := mul_le_mul_of_nonneg_right hcast hpos.le
    rw [zpow_eq_spacing q] at hscaled ⊢
    linarith [mul_le_mul_of_nonneg_right hgap hunit.le]
  · have hleading := h.mantissa_le (by have := hn.least; omega)
    have hbelow := le_of_exponent_lt hn hgt
    rcases gapBelow_cases hm q with ⟨hone, hpower, -⟩ | ⟨htwo, hnot⟩
    · rw [hone, hpower, cast_twoTo]
      push_cast
      linarith
    · have hnext : (2 ^ 52 : ℚ) + 1 ≤ m := by
        have : twoTo 52 + 1 ≤ m := by
          have := hn.least
          by_contra hle
          exact hnot ⟨by omega, by omega⟩
        rw [twoTo_52] at this
        exact_mod_cast this
      have hscaled := mul_le_mul_of_nonneg_right hnext hpos.le
      rw [zpow_eq_spacing q] at hscaled hbelow ⊢
      rw [htwo]
      push_cast
      linarith

/-- The next larger number. -/
theorem exists_add (h : IsBinary64 m q) :
    ∃ n p, IsRepresentable n p ∧ (n : ℚ) * 2 ^ p = m * 2 ^ q + 4 * 2 ^ (q - 2) := by
  have hmantissa := h.mantissa
  have hleast := h.least
  rw [twoTo_53] at hmantissa
  rcases Nat.lt_or_ge (m + 1) (2 ^ 53) with hlt | hge
  · refine ⟨m + 1, q, ⟨hleast, by rw [twoTo_53]; exact hlt⟩, ?_⟩
    rw [zpow_eq_spacing q]
    push_cast
    ring
  · have hm : m = 2 ^ 53 - 1 := by omega
    refine ⟨2 ^ 52, q + 1, ⟨by omega, by decide⟩, ?_⟩
    rw [hm, zpow_add₀ (by norm_num), zpow_eq_spacing q]
    push_cast
    ring

/-- The next smaller number. -/
theorem exists_sub (h : IsBinary64 m q) (hm : 0 < m) :
    ∃ n p, IsRepresentable n p ∧
      (n : ℚ) * 2 ^ p = m * 2 ^ q - 2 * (gapBelow m q * 2 ^ (q - 2)) := by
  have hmantissa := h.mantissa
  rcases gapBelow_cases hm q with ⟨hone, hpower, hleast⟩ | ⟨htwo, -⟩
  · refine ⟨2 ^ 53 - 1, q - 1, ⟨by omega, by decide⟩, ?_⟩
    rw [hone, hpower, cast_twoTo, zpow_sub_one_eq_spacing, zpow_eq_spacing q]
    push_cast
    ring
  · refine ⟨m - 1, q, ⟨h.least, by omega⟩, ?_⟩
    rw [htwo, zpow_eq_spacing q, Nat.cast_sub (by omega)]
    push_cast
    ring

end Neighbours

/-! The rounding interval -/

theorem isNearest_of_roundsTo {m : Nat} {q : Int} {x : ℚ} (h : IsBinary64 m q) (hm : 0 < m)
    (hx : RoundsTo m q x) : IsNearest m q x := by
  have hunit : (0 : ℚ) < 2 ^ (q - 2) := zpow_pos (by norm_num) _
  obtain ⟨hlow, hhigh, hinside⟩ := hx
  rw [cast_low_roundingInterval hm, sub_mul] at hlow hinside
  rw [cast_high_roundingInterval, add_mul] at hhigh hinside
  have hvalue : (m : ℚ) * 2 ^ q = 4 * m * 2 ^ (q - 2) := by
    rw [zpow_eq_spacing q]
    ring
  have hgap : (0 : ℚ) ≤ gapBelow m q * 2 ^ (q - 2) := by positivity
  -- where another number is as near, `x` lies at an end of the interval
  have hbounds (n : Nat) (p : Int) (hn : IsRepresentable n p)
      (hne : (n : ℚ) * 2 ^ p ≠ m * 2 ^ q) :
      |x - m * 2 ^ q| ≤ |x - n * 2 ^ p| ∧
        (|x - n * 2 ^ p| = |x - m * 2 ^ q| → m % 2 = 0) := by
    rcases lt_or_gt_of_ne hne with hlt | hgt
    · have hbelow := le_sub_of_lt h hm hn hlt
      rw [abs_of_nonneg (show 0 ≤ x - n * 2 ^ p by linarith)]
      refine ⟨abs_le.2 ⟨by linarith, by linarith⟩, fun heq => ?_⟩
      by_contra hodd
      have hstrict := (hinside (by omega)).1
      rcases abs_cases (x - m * 2 ^ q) with ⟨habs, -⟩ | ⟨habs, -⟩ <;>
        · rw [habs] at heq
          linarith
    · have habove := add_le_of_lt h hn hgt
      rw [abs_of_nonpos (show x - n * 2 ^ p ≤ 0 by linarith)]
      refine ⟨abs_le.2 ⟨by linarith, by linarith⟩, fun heq => ?_⟩
      by_contra hodd
      have hstrict := (hinside (by omega)).2
      rcases abs_cases (x - m * 2 ^ q) with ⟨habs, -⟩ | ⟨habs, -⟩ <;>
        · rw [habs] at heq
          linarith
  refine ⟨fun n p hn => ?_, fun n p hn hne => (hbounds n p hn hne).2⟩
  by_cases hne : (n : ℚ) * 2 ^ p = m * 2 ^ q
  · rw [hne]
  · exact (hbounds n p hn hne).1

theorem two_mul_le_of_nearer {x a b : ℚ} (hab : a < b) (h : |x - a| ≤ |x - b|) :
    2 * x ≤ a + b := by
  rcases abs_cases (x - a) with ⟨ha, hxa⟩ | ⟨ha, hxa⟩ <;>
    rcases abs_cases (x - b) with ⟨hb, hxb⟩ | ⟨hb, hxb⟩ <;> linarith

theorem le_two_mul_of_nearer {x a b : ℚ} (hab : a < b) (h : |x - b| ≤ |x - a|) :
    a + b ≤ 2 * x := by
  rcases abs_cases (x - a) with ⟨ha, hxa⟩ | ⟨ha, hxa⟩ <;>
    rcases abs_cases (x - b) with ⟨hb, hxb⟩ | ⟨hb, hxb⟩ <;> linarith

theorem roundsTo_of_isNearest {m : Nat} {q : Int} {x : ℚ} (h : IsBinary64 m q) (hm : 0 < m)
    (hx : IsNearest m q x) : RoundsTo m q x := by
  have hunit : (0 : ℚ) < 2 ^ (q - 2) := zpow_pos (by norm_num) _
  have hvalue : (m : ℚ) * 2 ^ q = 4 * m * 2 ^ (q - 2) := by
    rw [zpow_eq_spacing q]
    ring
  have hgap : (0 : ℚ) < gapBelow m q * 2 ^ (q - 2) := by
    have : 0 < gapBelow m q := by
      rcases gapBelow_cases hm q with ⟨hone, -⟩ | ⟨htwo, -⟩ <;> omega
    positivity
  obtain ⟨above, p, habove, haboveValue⟩ := exists_add h
  obtain ⟨below, p', hbelow, hbelowValue⟩ := exists_sub h hm
  have hnotAbove := two_mul_le_of_nearer (by linarith) (hx.nearest above p habove)
  have hnotBelow := le_two_mul_of_nearer (by linarith) (hx.nearest below p' hbelow)
  have hevenAbove := hx.even above p habove (by rw [haboveValue]; linarith)
  have hevenBelow := hx.even below p' hbelow (by rw [hbelowValue]; linarith)
  rw [haboveValue] at hnotAbove hevenAbove
  rw [hbelowValue] at hnotBelow hevenBelow
  have hhigh : x ≤ (4 * m + 2) * 2 ^ (q - 2) := by linarith
  have hlow : (4 * m - gapBelow m q) * 2 ^ (q - 2) ≤ x := by linarith
  refine ⟨?_, ?_, fun hodd => ⟨?_, ?_⟩⟩
  · rwa [cast_low_roundingInterval hm]
  · rwa [cast_high_roundingInterval]
  · rw [cast_low_roundingInterval hm]
    refine lt_of_le_of_ne hlow fun heq => ?_
    have := hevenBelow (by
      rw [← heq, hvalue, abs_of_nonneg (by linarith), abs_of_nonpos (by linarith)]
      ring)
    omega
  · rw [cast_high_roundingInterval]
    refine lt_of_le_of_ne hhigh fun heq => ?_
    have := hevenAbove (by
      rw [heq, hvalue, abs_of_nonpos (by linarith), abs_of_nonneg (by linarith)]
      ring)
    omega

/-- The rounding interval of a number holds exactly what rounds to it. -/
theorem roundsTo_iff_isNearest {m : Nat} {q : Int} {x : ℚ} (h : IsBinary64 m q) (hm : 0 < m) :
    RoundsTo m q x ↔ IsNearest m q x :=
  ⟨isNearest_of_roundsTo h hm, roundsTo_of_isNearest h hm⟩

end ShapeCoords.Number
