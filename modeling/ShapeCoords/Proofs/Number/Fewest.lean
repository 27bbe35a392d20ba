import ShapeCoords.Proofs.Number.Digits
import ShapeCoords.Proofs.Number.Rounding
import ShapeCoords.Proofs.Number.Shortest

/-!
The shortest digits of a number are what they are called: no decimal with fewer digits rounds to the
number, and none with as many digits is nearer to it. Of two that are equally near the even one is
taken.
-/

namespace ShapeCoords.Number

/-- `d * 10 ^ g` rounds to `m * 2 ^ q`, has the fewest digits among the decimals that do, and is the
nearest of those with so many digits; if another one is as near, `d` is even. -/
structure IsShortest (m : Nat) (q : Int) (d : Nat) (g : Int) : Prop where
  rounds : IsNearest m q (d * 10 ^ g)
  fewest : ∀ (e : Nat) (h : Int), IsNearest m q (e * 10 ^ h) →
    (digitsOf d).length ≤ (digitsOf e).length
  nearest : ∀ (e : Nat) (h : Int), IsNearest m q (e * 10 ^ h) →
    (digitsOf e).length = (digitsOf d).length →
    |(d : ℚ) * 10 ^ g - m * 2 ^ q| ≤ |(e : ℚ) * 10 ^ h - m * 2 ^ q|
  even : ∀ (e : Nat) (h : Int), IsNearest m q (e * 10 ^ h) →
    (digitsOf e).length = (digitsOf d).length → (e : ℚ) * 10 ^ h ≠ d * 10 ^ g →
    |(e : ℚ) * 10 ^ h - m * 2 ^ q| = |(d : ℚ) * 10 ^ g - m * 2 ^ q| → d % 2 = 0

/-! The interval around a number -/

section Interval

variable {m : Nat} {q : Int} {x y z : ℚ}

theorem RoundsTo.convex (hx : RoundsTo m q x) (hz : RoundsTo m q z) (hxy : x ≤ y) (hyz : y ≤ z) :
    RoundsTo m q y where
  low := hx.low.trans hxy
  high := hyz.trans hz.high
  inside hodd := ⟨(hx.inside hodd).1.trans_le hxy, hyz.trans_lt (hz.inside hodd).2⟩

theorem roundsTo_self (hm : 0 < m) : RoundsTo m q (m * 2 ^ q) := by
  have hunit : (0 : ℚ) < 2 ^ (q - 2) := zpow_pos (by norm_num) _
  have hlow : ((roundingInterval m q).low : ℚ) + 1 ≤ 4 * m := by
    exact_mod_cast low_roundingInterval_lt hm q
  have hscaled := mul_le_mul_of_nonneg_right hlow hunit.le
  rw [zpow_eq_spacing q]
  refine ⟨?_, ?_, fun _ => ⟨?_, ?_⟩⟩
  · linarith
  · rw [cast_high_roundingInterval]
    linarith
  · linarith
  · rw [cast_high_roundingInterval]
    linarith

end Interval

/-! One grid -/

section Grid

variable {m e : Nat} {q g : Int}

theorem mul_zpow_le {d : Nat} (h : d ≤ e) (g : Int) : (d : ℚ) * 10 ^ g ≤ e * 10 ^ g :=
  mul_le_mul_of_nonneg_right (by exact_mod_cast h) (ten_zpow_pos g).le

theorem roundsTo_floorScaled_of_le (hm : 0 < m) (he : RoundsTo m q (e * 10 ^ g))
    (hle : e ≤ floorScaled g m q) : RoundsTo m q (floorScaled g m q * 10 ^ g) :=
  he.convex (roundsTo_self hm) (mul_zpow_le hle g) (floorScaled_spec g m q).1

theorem roundsTo_floorScaled_succ (hm : 0 < m) (he : RoundsTo m q (e * 10 ^ g))
    (hlt : floorScaled g m q < e) : RoundsTo m q ((floorScaled g m q + 1 : Nat) * 10 ^ g) :=
  (roundsTo_self hm).convex he (floorScaled_spec g m q).2.le (mul_zpow_le hlt g)

/-- If any decimal on a grid rounds to a number, one of its two neighbours does. -/
theorem exists_onGrid (tie : Tie) (hm : 0 < m) (he : RoundsTo m q (e * 10 ^ g)) :
    ∃ d, onGrid tie m q g = some d := by
  rcases onGrid_cases tie m q g with ⟨hnone, hfloor⟩ | ⟨d, hd, -⟩
  · rcases Nat.lt_or_ge (floorScaled g m q) e with hlt | hle
    · have hsucc := roundsTo_iff.2 (roundsTo_floorScaled_succ hm he hlt)
      simp [onGrid, hfloor, hsucc] at hnone
    · rw [roundsTo_iff.2 (roundsTo_floorScaled_of_le hm he hle)] at hfloor
      cases hfloor
  · exact ⟨d, hd⟩

theorem abs_sub_floorScaled (m : Nat) (q g : Int) :
    |(floorScaled g m q : ℚ) * 10 ^ g - m * 2 ^ q| = m * 2 ^ q - floorScaled g m q * 10 ^ g := by
  rw [abs_of_nonpos (by linarith [(floorScaled_spec g m q).1])]
  ring

theorem abs_sub_floorScaled_succ (m : Nat) (q g : Int) :
    |((floorScaled g m q + 1 : Nat) : ℚ) * 10 ^ g - m * 2 ^ q| =
      (floorScaled g m q + 1 : Nat) * 10 ^ g - m * 2 ^ q :=
  abs_of_nonneg (by linarith [(floorScaled_spec g m q).2])

/-- On its side of a number a neighbour is the nearest decimal of the grid. -/
theorem floorScaled_nearest (hle : e ≤ floorScaled g m q) :
    |(floorScaled g m q : ℚ) * 10 ^ g - m * 2 ^ q| ≤ |(e : ℚ) * 10 ^ g - m * 2 ^ q| := by
  have hmul := mul_zpow_le hle g
  rw [abs_sub_floorScaled, abs_sub_comm]
  exact (sub_le_sub_left hmul _).trans (le_abs_self _)

theorem floorScaled_succ_nearest (hlt : floorScaled g m q < e) :
    |((floorScaled g m q + 1 : Nat) : ℚ) * 10 ^ g - m * 2 ^ q| ≤
      |(e : ℚ) * 10 ^ g - m * 2 ^ q| := by
  have hmul := mul_zpow_le (Nat.succ_le_of_lt hlt) g
  rw [abs_sub_floorScaled_succ]
  exact (sub_le_sub_right hmul _).trans (le_abs_self _)

/-- A decimal as near as the neighbour on its side is that neighbour. -/
theorem eq_floorScaled_of_abs_eq (hle : e ≤ floorScaled g m q)
    (heq : |(e : ℚ) * 10 ^ g - m * 2 ^ q| =
      |(floorScaled g m q : ℚ) * 10 ^ g - m * 2 ^ q|) : e = floorScaled g m q := by
  have hmul := mul_zpow_le hle g
  rw [abs_sub_floorScaled, abs_of_nonpos (by linarith [(floorScaled_spec g m q).1])] at heq
  have hcast : (e : ℚ) = floorScaled g m q :=
    mul_right_cancel₀ (ten_zpow_pos g).ne' (by linarith)
  exact_mod_cast hcast

theorem eq_floorScaled_succ_of_abs_eq (hlt : floorScaled g m q < e)
    (heq : |(e : ℚ) * 10 ^ g - m * 2 ^ q| =
      |((floorScaled g m q + 1 : Nat) : ℚ) * 10 ^ g - m * 2 ^ q|) :
    e = floorScaled g m q + 1 := by
  have hmul := mul_zpow_le (Nat.succ_le_of_lt hlt) g
  rw [abs_sub_floorScaled_succ, abs_of_nonneg (by linarith [(floorScaled_spec g m q).2])] at heq
  have hcast : (e : ℚ) = (floorScaled g m q + 1 : Nat) :=
    mul_right_cancel₀ (ten_zpow_pos g).ne' (by linarith)
  exact_mod_cast hcast

/-- What a grid offers is the nearest of its decimals that round to the number, the even one of
two. -/
structure IsBestOnGrid (m : Nat) (q : Int) (d : Nat) (g : Int) : Prop where
  rounds : RoundsTo m q (d * 10 ^ g)
  nearest : ∀ e : Nat, RoundsTo m q (e * 10 ^ g) →
    |(d : ℚ) * 10 ^ g - m * 2 ^ q| ≤ |(e : ℚ) * 10 ^ g - m * 2 ^ q|
  even : ∀ e : Nat, RoundsTo m q (e * 10 ^ g) → e ≠ d →
    |(e : ℚ) * 10 ^ g - m * 2 ^ q| = |(d : ℚ) * 10 ^ g - m * 2 ^ q| → d % 2 = 0

/-- The lower neighbour is the best if the upper one does not round to the number or is not nearer;
if it is as near, the lower one has to be even. -/
theorem isBestOnGrid_floorScaled (hm : 0 < m)
    (hrounds : RoundsTo m q (floorScaled g m q * 10 ^ g))
    (hupper : RoundsTo m q ((floorScaled g m q + 1 : Nat) * 10 ^ g) →
      |(floorScaled g m q : ℚ) * 10 ^ g - m * 2 ^ q| ≤
          |((floorScaled g m q + 1 : Nat) : ℚ) * 10 ^ g - m * 2 ^ q| ∧
        (|(floorScaled g m q : ℚ) * 10 ^ g - m * 2 ^ q| =
          |((floorScaled g m q + 1 : Nat) : ℚ) * 10 ^ g - m * 2 ^ q| →
            floorScaled g m q % 2 = 0)) :
    IsBestOnGrid m q (floorScaled g m q) g where
  rounds := hrounds
  nearest e he := by
    rcases Nat.lt_or_ge (floorScaled g m q) e with hlt | hle
    · exact (hupper (roundsTo_floorScaled_succ hm he hlt)).1.trans (floorScaled_succ_nearest hlt)
    · exact floorScaled_nearest hle
  even e he hne heq := by
    rcases Nat.lt_or_ge (floorScaled g m q) e with hlt | hle
    · obtain ⟨hnearer, htie⟩ := hupper (roundsTo_floorScaled_succ hm he hlt)
      refine htie (le_antisymm hnearer ?_)
      rw [← heq]
      exact floorScaled_succ_nearest hlt
    · exact absurd (eq_floorScaled_of_abs_eq hle heq) hne

theorem isBestOnGrid_floorScaled_succ (hm : 0 < m)
    (hrounds : RoundsTo m q ((floorScaled g m q + 1 : Nat) * 10 ^ g))
    (hlower : RoundsTo m q (floorScaled g m q * 10 ^ g) →
      |((floorScaled g m q + 1 : Nat) : ℚ) * 10 ^ g - m * 2 ^ q| ≤
          |(floorScaled g m q : ℚ) * 10 ^ g - m * 2 ^ q| ∧
        (|((floorScaled g m q + 1 : Nat) : ℚ) * 10 ^ g - m * 2 ^ q| =
          |(floorScaled g m q : ℚ) * 10 ^ g - m * 2 ^ q| →
            (floorScaled g m q + 1) % 2 = 0)) :
    IsBestOnGrid m q (floorScaled g m q + 1) g where
  rounds := hrounds
  nearest e he := by
    rcases Nat.lt_or_ge (floorScaled g m q) e with hlt | hle
    · exact floorScaled_succ_nearest hlt
    · exact (hlower (roundsTo_floorScaled_of_le hm he hle)).1.trans (floorScaled_nearest hle)
  even e he hne heq := by
    rcases Nat.lt_or_ge (floorScaled g m q) e with hlt | hle
    · exact absurd (eq_floorScaled_succ_of_abs_eq hlt heq) hne
    · obtain ⟨hnearer, htie⟩ := hlower (roundsTo_floorScaled_of_le hm he hle)
      refine htie (le_antisymm hnearer ?_)
      rw [← heq]
      exact floorScaled_nearest hle

theorem isBestOnGrid_of_onGrid (hm : 0 < m) {d : Nat} (h : onGrid .even m q g = some d) :
    IsBestOnGrid m q d g := by
  have hlower := roundsTo_iff (m := m) (q := q) (d := floorScaled g m q) (g := g)
  have hupper := roundsTo_iff (m := m) (q := q) (d := floorScaled g m q + 1) (g := g)
  have hsum : ((2 * floorScaled g m q + 1 : Nat) : ℚ) * 10 ^ g =
      floorScaled g m q * 10 ^ g + (floorScaled g m q + 1 : Nat) * 10 ^ g := by
    push_cast
    ring
  have hdouble : ((2 * m : Nat) : ℚ) * 2 ^ q = 2 * (m * 2 ^ q) := by
    push_cast
    ring
  unfold onGrid at h
  dsimp only at h
  cases hf : roundsTo m q (floorScaled g m q) g <;>
    cases hs : roundsTo m q (floorScaled g m q + 1) g <;> rw [hf, hs] at h
  case false.false => cases h
  case true.false =>
    cases h
    refine isBestOnGrid_floorScaled hm (hlower.1 hf) fun hrounds => ?_
    rw [hupper.2 hrounds] at hs
    cases hs
  case false.true =>
    cases h
    refine isBestOnGrid_floorScaled_succ hm (hupper.1 hs) fun hrounds => ?_
    rw [hlower.2 hrounds] at hf
    cases hf
  case true.true =>
    dsimp only at h
    cases hcompare : compareScaled (2 * floorScaled g m q + 1) g (2 * m) q <;> rw [hcompare] at h
    case gt =>
      cases h
      rw [compareScaled_eq_gt, hsum, hdouble] at hcompare
      refine isBestOnGrid_floorScaled hm (hlower.1 hf) fun _ => ?_
      rw [abs_sub_floorScaled, abs_sub_floorScaled_succ]
      exact ⟨by linarith, fun heq => by linarith⟩
    case lt =>
      cases h
      rw [compareScaled_eq_lt, hsum, hdouble] at hcompare
      refine isBestOnGrid_floorScaled_succ hm (hupper.1 hs) fun _ => ?_
      rw [abs_sub_floorScaled, abs_sub_floorScaled_succ]
      exact ⟨by linarith, fun heq => by linarith⟩
    case eq =>
      rw [compareScaled_eq_eq, hsum, hdouble] at hcompare
      dsimp only at h
      split at h
      · next heven =>
        cases h
        refine isBestOnGrid_floorScaled hm (hlower.1 hf) fun _ => ?_
        rw [abs_sub_floorScaled, abs_sub_floorScaled_succ]
        exact ⟨by linarith, fun _ => heven⟩
      · next hodd =>
        cases h
        refine isBestOnGrid_floorScaled_succ hm (hupper.1 hs) fun _ => ?_
        rw [abs_sub_floorScaled, abs_sub_floorScaled_succ]
        exact ⟨by linarith, fun _ => by omega⟩

end Grid

/-! All grids -/

/-- The search ends on the first grid that has something to offer. -/
theorem searchGrids_spec (tie : Tie) {m : Nat} (hm : 0 < m) {q : Int} (fuel : Nat) (g : Int)
    (hg : (10 : ℚ) ^ (g - fuel) ≤ 2 ^ (q - 2)) :
    ∃ d h, searchGrids tie m q (fuel + 1) g = (d, h) ∧ onGrid tie m q h = some d ∧
      ∀ k, h < k → k ≤ g → onGrid tie m q k = none := by
  induction fuel generalizing g with
  | zero =>
      rw [Nat.cast_zero, sub_zero] at hg
      obtain ⟨d, hd⟩ := exists_onGrid tie hm (roundsTo_floorScaled hm hg)
      refine ⟨d, g, ?_, hd, fun k hlt hle => absurd hlt (not_lt.2 hle)⟩
      rw [searchGrids, hd]
  | succ fuel ih =>
      rw [searchGrids]
      cases hgrid : onGrid tie m q g with
      | some d => exact ⟨d, g, rfl, hgrid, fun k hlt hle => absurd hlt (not_lt.2 hle)⟩
      | none =>
          have hfine : (10 : ℚ) ^ (g - 1 - fuel) ≤ 2 ^ (q - 2) := by
            rwa [show g - 1 - (fuel : Int) = g - (fuel + 1 : Nat) by omega]
          obtain ⟨d, h, hsearch, hd, hfirst⟩ := ih (g - 1) hfine
          refine ⟨d, h, hsearch, hd, fun k hlt hle => ?_⟩
          rcases Int.lt_or_eq_of_le hle with hk | rfl
          · exact hfirst k hlt (by omega)
          · exact hgrid

theorem two_zpow_le_coarseGrid (a : Int) : (2 : ℚ) ^ a ≤ 10 ^ coarseGrid a := by
  rw [coarseGrid]
  split
  · next ha =>
    obtain ⟨n, hn⟩ : ∃ n : Nat, (n : Int) = a / 13 + 1 := ⟨(a / 13 + 1).toNat, by omega⟩
    rw [← hn]
    calc
      (2 : ℚ) ^ a ≤ 2 ^ (13 * (n : Int)) := zpow_le_zpow_right₀ (by norm_num) (by omega)
      _ = 8192 ^ n := by
        rw [zpow_mul, zpow_natCast]
        norm_num
      _ ≤ 10000 ^ n := pow_le_pow_left₀ (by norm_num) (by norm_num) n
      _ = 10 ^ (4 * (n : Int)) := by
        rw [zpow_mul, zpow_natCast]
        norm_num
  · next ha =>
    obtain ⟨n, hn⟩ : ∃ n : Nat, (n : Int) = -a / 10 := ⟨(-a / 10).toNat, by omega⟩
    rw [← hn]
    calc
      (2 : ℚ) ^ a ≤ 2 ^ (-(10 * (n : Int))) := zpow_le_zpow_right₀ (by norm_num) (by omega)
      _ = (1024 ^ n)⁻¹ := by
        rw [zpow_neg, zpow_mul, zpow_natCast]
        norm_num
      _ ≤ (1000 ^ n)⁻¹ :=
        inv_anti₀ (by positivity) (pow_le_pow_left₀ (by norm_num) (by norm_num) n)
      _ = 10 ^ (-(3 * (n : Int))) := by
        rw [zpow_neg, zpow_mul, zpow_natCast]
        norm_num

/-- What rounds to a number lies below the spacing of the first grid. -/
theorem RoundsTo.lt_coarseGrid {m : Nat} {q : Int} {x : ℚ} (hx : RoundsTo m q x) :
    x < 10 ^ coarseGrid (m.log2 + 2 + q) := by
  have hpos : (0 : ℚ) < 2 ^ q := zpow_pos (by norm_num) q
  have hmantissa : (m : ℚ) + 1 ≤ 2 ^ ((m.log2 : Int) + 1) := by
    have : m + 1 ≤ 2 ^ (m.log2 + 1) := Nat.lt_log2_self
    exact_mod_cast this
  calc
    x ≤ (m + 1 / 2) * 2 ^ q := hx.within.2.1
    _ < (m + 1) * 2 ^ q := mul_lt_mul_of_pos_right (by linarith) hpos
    _ ≤ 2 ^ ((m.log2 : Int) + 1) * 2 ^ q := mul_le_mul_of_nonneg_right hmantissa hpos.le
    _ = 2 ^ ((m.log2 : Int) + 1 + q) := (zpow_add₀ (by norm_num) _ _).symm
    _ ≤ 2 ^ ((m.log2 : Int) + 2 + q) := zpow_le_zpow_right₀ (by norm_num) (by omega)
    _ ≤ 10 ^ coarseGrid (m.log2 + 2 + q) := two_zpow_le_coarseGrid _

/-- The shortest digits are the best on their grid, and no coarser grid has a decimal that rounds to
the number. -/
theorem shortest_spec {m : Nat} {q : Int} (h : IsBinary64 m q) (hm : 0 < m) :
    ∃ d g, shortest .even m q = (d, g) ∧ IsBestOnGrid m q d g ∧
      ∀ (e : Nat) (k : Int), RoundsTo m q (e * 10 ^ k) → k ≤ g := by
  obtain ⟨d, g, hsearch, hd, hfirst⟩ :=
    searchGrids_spec .even hm 47 _ (ten_zpow_coarseGrid_le h)
  refine ⟨d, g, hsearch, isBestOnGrid_of_onGrid hm hd, fun e k hx => ?_⟩
  by_contra hlt
  rcases le_or_gt k (coarseGrid (m.log2 + 2 + q)) with hle | hgt
  · obtain ⟨f, hf⟩ := exists_onGrid .even hm hx
    rw [hfirst k (by omega) hle] at hf
    cases hf
  · -- beyond the first grid the least positive decimal is too large
    have he : (1 : ℚ) ≤ e := by exact_mod_cast hx.pos_of_mul hm
    have hlarge := calc
      (10 : ℚ) ^ coarseGrid (m.log2 + 2 + q) ≤ 10 ^ k :=
        zpow_le_zpow_right₀ (by norm_num) hgt.le
      _ ≤ e * 10 ^ k := le_mul_of_one_le_left (ten_zpow_pos k).le he
    exact absurd hx.lt_coarseGrid (not_lt.2 hlarge)

/-! Fewest digits -/

section Shortest

variable {m d e : Nat} {q g h : Int}

/-- What rounds to the number of the shortest digits has its point where they have it, or else they
are a single digit and it is smaller. -/
theorem point_eq_or (hm : 0 < m) (hd : RoundsTo m q (d * 10 ^ g))
    (hcoarse : ∀ (e : Nat) (k : Int), RoundsTo m q (e * 10 ^ k) → k ≤ g)
    (he : RoundsTo m q (e * 10 ^ h)) :
    ((digitsOf e).length : Int) + h = (digitsOf d).length + g ∨
      (digitsOf d).length = 1 ∧ ((digitsOf e).length : Int) + h ≤ g ∧
        RoundsTo m q (10 ^ g) := by
  have hlength := length_digitsOf_pos d
  have hpower (k : Int) (hk : RoundsTo m q (10 ^ k)) : k ≤ g :=
    hcoarse 1 k (by rwa [Nat.cast_one, one_mul])
  rcases lt_trichotomy (((digitsOf e).length : Int) + h) ((digitsOf d).length + g) with
    hlt | heq | hgt
  · -- a power of ten lies between them
    have hbetween := he.convex hd
      ((mul_zpow_lt_point e h).le.trans (zpow_le_zpow_right₀ (by norm_num) (by omega)))
      (point_le_mul_zpow (hd.pos_of_mul hm) g)
    have hle := hpower _ hbetween
    have hone : (digitsOf d).length = 1 := by omega
    rw [hone, Nat.cast_one, add_sub_cancel_left] at hbetween
    exact .inr ⟨hone, by omega, hbetween⟩
  · exact .inl heq
  · have hbetween := hd.convex he (mul_zpow_lt_point d g).le
      ((zpow_le_zpow_right₀ (by norm_num) (by omega)).trans
        (point_le_mul_zpow (he.pos_of_mul hm) h))
    have hle := hpower _ hbetween
    omega

/-- The least positive number is a little less than `5 * 10 ^ (-324)`. -/
theorem least_unit_bounds :
    (49 : ℚ) * 10 ^ (-324 : Int) < 10 * 2 ^ (-1074 : Int) ∧
      (2 : ℚ) ^ (-1074 : Int) < 5 * 10 ^ (-324 : Int) := by
  have hlow : (49 : ℚ) * 2 ^ 1074 < 10 * 10 ^ 324 := by
    exact_mod_cast (show 49 * 2 ^ 1074 < 10 * 10 ^ 324 by decide +kernel)
  have hhigh : (10 : ℚ) ^ 324 < 5 * 2 ^ 1074 := by
    exact_mod_cast (show 10 ^ 324 < 5 * 2 ^ 1074 by decide +kernel)
  rw [zpow_neg, zpow_neg, zpow_ofNat, zpow_ofNat]
  have hten : (0 : ℚ) < 10 ^ 324 := pow_pos (by norm_num) 324
  generalize (2 : ℚ) ^ 1074 = a at hlow hhigh ⊢
  generalize (10 : ℚ) ^ 324 = b at hlow hhigh hten ⊢
  have htwo : 0 < a := by linarith
  rw [← div_eq_mul_inv, ← div_eq_mul_inv, ← div_eq_mul_inv, inv_eq_one_div]
  exact ⟨(div_lt_div_iff₀ hten htwo).2 hlow,
    (div_lt_div_iff₀ htwo hten).2 (by rwa [one_mul])⟩

/-- Of the least numbers only two units are close below a power of ten. -/
theorem power_above_least (hm : 0 < m) (hsmall : m ≤ 9)
    (hbelow : (m : ℚ) * 2 ^ (-1074 : Int) < 10 ^ g)
    (hhigh : (10 : ℚ) ^ g ≤ (m + 1 / 2) * 2 ^ (-1074 : Int)) : g = -323 ∧ 2 ≤ m := by
  obtain ⟨hunitLow, hunitHigh⟩ := least_unit_bounds
  have hscale (k : Nat) : (10 : ℚ) ^ (-324 + (k : Int)) = 10 ^ k * 10 ^ (-324 : Int) := by
    rw [zpow_add₀ (by norm_num), zpow_natCast, mul_comm]
  have hunit : (0 : ℚ) < 2 ^ (-1074 : Int) := zpow_pos (by norm_num) _
  have hg : g = -323 := by
    rcases lt_trichotomy g (-323) with hlt | heq | hgt
    · have hpower : (10 : ℚ) ^ g ≤ 10 ^ (-324 : Int) :=
        zpow_le_zpow_right₀ (by norm_num) (by omega)
      have hone : (1 : ℚ) ≤ m := by exact_mod_cast hm
      linarith [mul_le_mul_of_nonneg_right hone hunit.le]
    · exact heq
    · have hpower : (10 : ℚ) ^ (-324 + (2 : Nat) : Int) ≤ 10 ^ g :=
        zpow_le_zpow_right₀ (by norm_num) (by omega)
      have hnine : (m : ℚ) ≤ 9 := by exact_mod_cast hsmall
      rw [hscale] at hpower
      linarith [mul_le_mul_of_nonneg_right hnine hunit.le]
  refine ⟨hg, ?_⟩
  by_contra hone
  have hm1 : m = 1 := by omega
  rw [hg, show (-323 : Int) = -324 + (1 : Nat) by norm_num, hscale, hm1, Nat.cast_one] at hhigh
  linarith

/-- A power of ten that rounds to a number is nearer to it than anything a tenth smaller that rounds
to it. -/
theorem power_nearer (hbinary : IsBinary64 m q) (hm : 0 < m) {x : ℚ}
    (hpower : RoundsTo m q (10 ^ g)) (hx : RoundsTo m q x) (hle : x ≤ 9 * 10 ^ (g - 1)) :
    |(10 : ℚ) ^ g - m * 2 ^ q| < |x - m * 2 ^ q| := by
  have hpos := ten_zpow_pos (g - 1)
  have hten : (10 : ℚ) ^ g = 10 * 10 ^ (g - 1) := by
    rw [← zpow_one_add₀ (by norm_num), add_sub_cancel]
  rcases le_or_gt ((10 : ℚ) ^ g) (m * 2 ^ q) with habove | hbelow
  · rw [abs_of_nonpos (by linarith), abs_of_nonpos (by linarith)]
    linarith
  · -- only among the least numbers are the intervals so wide
    have hunit : (0 : ℚ) < 2 ^ q := zpow_pos (by norm_num) q
    have hlow := hx.within.1
    have hhigh := hpower.within.2.1
    have hsmall : m ≤ 9 := by
      by_contra hlarge
      have hten' : (10 : ℚ) ≤ m := by exact_mod_cast (show 10 ≤ m by omega)
      have := mul_le_mul_of_nonneg_right hten' hunit.le
      linarith
    obtain rfl : q = -1074 := by
      refine hbinary.leading.resolve_right fun hle => ?_
      rw [twoTo_52] at hle
      omega
    obtain ⟨rfl, htwo⟩ := power_above_least hm hsmall hbelow hhigh
    have htwo' : (2 : ℚ) ≤ m := by exact_mod_cast htwo
    have hunits := mul_le_mul_of_nonneg_right htwo' hunit.le
    have hunitLow := least_unit_bounds.1
    rw [show (-323 : Int) - 1 = -324 by norm_num] at hle hten
    rw [abs_of_nonneg (by linarith), abs_of_nonpos (by linarith)]
    linarith

end Shortest

theorem isShortest_shortest {m : Nat} {q : Int} (h : IsBinary64 m q) (hm : 0 < m) :
    ∃ d g, shortest .even m q = (d, g) ∧ IsShortest m q d g := by
  obtain ⟨d, g, hshortest, hbest, hcoarse⟩ := shortest_spec h hm
  have hpoint (e : Nat) (k : Int) (he : IsNearest m q (e * 10 ^ k)) :=
    point_eq_or hm hbest.rounds hcoarse ((roundsTo_iff_isNearest h hm).2 he)
  -- a decimal with as many digits is on the same grid or farther away
  have hequal (e : Nat) (k : Int) (he : IsNearest m q (e * 10 ^ k))
      (hlength : (digitsOf e).length = (digitsOf d).length) :
      k = g ∨ |(d : ℚ) * 10 ^ g - m * 2 ^ q| < |(e : ℚ) * 10 ^ k - m * 2 ^ q| := by
    rcases hpoint e k he with heq | ⟨hone, hle, hpower⟩
    · exact .inl (by omega)
    · have hdigit : e ≤ 9 := by
        have := lt_pow_length_digitsOf e
        rw [hlength, hone] at this
        omega
      have htenth : (e : ℚ) * 10 ^ k ≤ 9 * 10 ^ (g - 1) :=
        mul_le_mul (by exact_mod_cast hdigit) (zpow_le_zpow_right₀ (by norm_num) (by omega))
          (ten_zpow_pos k).le (by norm_num)
      have hgrid := hbest.nearest 1 (by rwa [Nat.cast_one, one_mul])
      rw [Nat.cast_one, one_mul] at hgrid
      exact .inr (hgrid.trans_lt
        (power_nearer h hm hpower ((roundsTo_iff_isNearest h hm).2 he) htenth))
  refine ⟨d, g, hshortest, (roundsTo_iff_isNearest h hm).1 hbest.rounds, ?_, ?_, ?_⟩
  · intro e k he
    have hpositive := length_digitsOf_pos e
    rcases hpoint e k he with heq | ⟨hone, -, -⟩
    · have := hcoarse e k ((roundsTo_iff_isNearest h hm).2 he)
      omega
    · omega
  · intro e k he hlength
    rcases hequal e k he hlength with rfl | hfarther
    · exact hbest.nearest e ((roundsTo_iff_isNearest h hm).2 he)
    · exact hfarther.le
  · intro e k he hlength hne heq
    rcases hequal e k he hlength with rfl | hfarther
    · refine hbest.even e ((roundsTo_iff_isNearest h hm).2 he) ?_ heq
      rintro rfl
      exact hne rfl
    · exact absurd heq.symm hfarther.ne

end ShapeCoords.Number
