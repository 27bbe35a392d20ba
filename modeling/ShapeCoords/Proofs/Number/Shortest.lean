import ShapeCoords.Proofs.Number.Nearest

/-!
The shortest digits of a number: the search for them comes to an end, and they are in the rounding
interval of the number.
-/

namespace ShapeCoords.Number

theorem roundsTo_iff {m d : Nat} {q g : Int} :
    roundsTo m q d g = true ↔ RoundsTo m q ((d : ℚ) * 10 ^ g) := by
  have hlow : roundsTo m q d g = true ↔
      ((((roundingInterval m q).low : ℚ) * 2 ^ (q - 2) < d * 10 ^ g ∨
        m % 2 = 0 ∧ (d : ℚ) * 10 ^ g = (roundingInterval m q).low * 2 ^ (q - 2)) ∧
      ((d : ℚ) * 10 ^ g < (roundingInterval m q).high * 2 ^ (q - 2) ∨
        m % 2 = 0 ∧ (d : ℚ) * 10 ^ g = (roundingInterval m q).high * 2 ^ (q - 2))) := by
    rw [← compareScaled_eq_gt, ← compareScaled_eq_eq, ← compareScaled_eq_lt, ← compareScaled_eq_eq]
    have hclosed : (roundingInterval m q).closed = (m % 2 == 0) := rfl
    simp [roundsTo, hclosed]
  rw [hlow]
  constructor
  · rintro ⟨hlow, hhigh⟩
    refine ⟨?_, ?_, fun hodd => ?_⟩
    · exact hlow.elim le_of_lt fun h => h.2.ge
    · exact hhigh.elim le_of_lt fun h => h.2.le
    · exact ⟨hlow.resolve_right (by omega), hhigh.resolve_right (by omega)⟩
  · intro h
    rcases Nat.mod_two_eq_zero_or_one m with heven | hodd
    · exact ⟨h.low.lt_or_eq.imp_right fun h => ⟨heven, h.symm⟩,
        h.high.lt_or_eq.imp_right fun h => ⟨heven, h⟩⟩
    · exact ⟨.inl (h.inside hodd).1, .inl (h.inside hodd).2⟩

/-- What a grid has to offer. -/
theorem onGrid_cases (tie : Tie) (m : Nat) (q g : Int) :
    (onGrid tie m q g = none ∧ roundsTo m q (floorScaled g m q) g = false) ∨
      ∃ d, onGrid tie m q g = some d ∧ roundsTo m q d g = true := by
  unfold onGrid
  dsimp only
  cases hfloor : roundsTo m q (floorScaled g m q) g with
  | false =>
      cases hnext : roundsTo m q (floorScaled g m q + 1) g with
      | false => exact .inl ⟨rfl, rfl⟩
      | true => exact .inr ⟨_, rfl, hnext⟩
  | true =>
      cases hnext : roundsTo m q (floorScaled g m q + 1) g with
      | false => exact .inr ⟨_, rfl, hfloor⟩
      | true =>
          right
          cases compareScaled (2 * floorScaled g m q + 1) g (2 * m) q with
          | gt => exact ⟨_, rfl, hfloor⟩
          | lt => exact ⟨_, rfl, hnext⟩
          | eq =>
              cases tie with
              | up => exact ⟨_, rfl, hnext⟩
              | even =>
                  by_cases heven : floorScaled g m q % 2 = 0
                  · exact ⟨_, if_pos heven, hfloor⟩
                  · exact ⟨_, if_neg heven, hnext⟩

/-- On a fine grid the neighbour below a number rounds to it. -/
theorem roundsTo_floorScaled {m : Nat} (hm : 0 < m) {q g : Int} (hg : (10 : ℚ) ^ g ≤ 2 ^ (q - 2)) :
    RoundsTo m q ((floorScaled g m q : ℚ) * 10 ^ g) := by
  obtain ⟨hle, hlt⟩ := floorScaled_spec g m q
  have hu : (0 : ℚ) < 2 ^ (q - 2) := zpow_pos (by norm_num) _
  rw [zpow_eq_spacing q] at hle hlt
  have hlow : ((roundingInterval m q).low : ℚ) * 2 ^ (q - 2) < floorScaled g m q * 10 ^ g := by
    have hcast : ((roundingInterval m q).low : ℚ) + 1 ≤ 4 * m := by
      exact_mod_cast low_roundingInterval_lt hm q
    have hscaled := mul_le_mul_of_nonneg_right hcast hu.le
    push_cast at hlt
    linarith
  have hhigh : (floorScaled g m q : ℚ) * 10 ^ g < (roundingInterval m q).high * 2 ^ (q - 2) := by
    rw [roundingInterval]
    push_cast
    linarith
  exact ⟨hlow.le, hhigh.le, fun _ => ⟨hlow, hhigh⟩⟩

/-- A search that comes to a fine enough grid finds digits that round to the number. -/
theorem roundsTo_searchGrids {tie : Tie} {m : Nat} (hm : 0 < m) {q : Int} (fuel : Nat) (g : Int)
    (hg : (10 : ℚ) ^ (g - fuel) ≤ 2 ^ (q - 2)) :
    RoundsTo m q (((searchGrids tie m q (fuel + 1) g).1 : ℚ) *
      10 ^ (searchGrids tie m q (fuel + 1) g).2) := by
  -- the grid on which the search would run out of fuel is a fine one
  induction fuel generalizing g with
  | zero =>
      rw [Nat.cast_zero, sub_zero] at hg
      rw [searchGrids]
      rcases onGrid_cases tie m q g with ⟨-, hfloor⟩ | ⟨d, hgrid, hd⟩
      · rw [roundsTo_iff.2 (roundsTo_floorScaled hm hg)] at hfloor
        cases hfloor
      · rw [hgrid]
        exact roundsTo_iff.1 hd
  | succ fuel ih =>
      rw [searchGrids]
      rcases onGrid_cases tie m q g with ⟨hgrid, -⟩ | ⟨d, hgrid, hd⟩
      · rw [hgrid]
        refine ih (g - 1) ?_
        rw [show g - 1 - (fuel : Int) = g - (fuel + 1 : Nat) by omega]
        exact hg
      · rw [hgrid]
        exact roundsTo_iff.1 hd

/-! Where the search starts and ends -/

theorem ten_zpow_le_of_nonneg {k l : Int} (hk : 0 ≤ k) (h : 10 * k + 20 ≤ 3 * l) :
    (10 : ℚ) ^ k ≤ 2 ^ l := by
  obtain ⟨n, hn⟩ : ∃ n : Nat, (n : Int) = (k + 2) / 3 := ⟨((k + 2) / 3).toNat, by omega⟩
  calc
    (10 : ℚ) ^ k ≤ 10 ^ (3 * (n : Int)) := zpow_le_zpow_right₀ (by norm_num) (by omega)
    _ = 1000 ^ n := by
      rw [zpow_mul, zpow_natCast]
      norm_num
    _ ≤ 1024 ^ n := pow_le_pow_left₀ (by norm_num) (by norm_num) n
    _ = 2 ^ (10 * (n : Int)) := by
      rw [zpow_mul, zpow_natCast]
      norm_num
    _ ≤ 2 ^ l := zpow_le_zpow_right₀ (by norm_num) (by omega)

theorem ten_zpow_le_of_nonpos {k l : Int} (hl : l ≤ 0) (h : 13 * k + 52 ≤ 4 * l) :
    (10 : ℚ) ^ k ≤ 2 ^ l := by
  obtain ⟨n, hn⟩ : ∃ n : Nat, (n : Int) = (12 - l) / 13 := ⟨((12 - l) / 13).toNat, by omega⟩
  calc
    (10 : ℚ) ^ k ≤ 10 ^ (-(4 * (n : Int))) := zpow_le_zpow_right₀ (by norm_num) (by omega)
    _ = (10000 ^ n)⁻¹ := by
      rw [zpow_neg, zpow_mul, zpow_natCast]
      norm_num
    _ ≤ (8192 ^ n)⁻¹ :=
      inv_anti₀ (by positivity) (pow_le_pow_left₀ (by norm_num) (by norm_num) n)
    _ = 2 ^ (-(13 * (n : Int))) := by
      rw [zpow_neg, zpow_mul, zpow_natCast]
      norm_num
    _ ≤ 2 ^ l := zpow_le_zpow_right₀ (by norm_num) (by omega)

theorem two_zpow_le_ten_zpow {k : Int} (hk : 0 ≤ k) : (2 : ℚ) ^ (3 * k) ≤ 10 ^ k := by
  obtain ⟨n, rfl⟩ := Int.eq_ofNat_of_zero_le hk
  rw [zpow_mul, zpow_natCast, zpow_natCast]
  exact pow_le_pow_left₀ (by norm_num) (by norm_num) n

/-- The last grid of the search is fine enough. -/
theorem ten_zpow_coarseGrid_le {m : Nat} {q : Int} (h : IsBinary64 m q) :
    (10 : ℚ) ^ (coarseGrid (m.log2 + 2 + q) - 47) ≤ 2 ^ (q - 2) := by
  obtain ⟨hleast, hmost, hmantissa, -⟩ := h
  have hlog : m.log2 ≤ 52 := by
    rcases Nat.eq_zero_or_pos m with rfl | hm
    · decide
    · exact Nat.le_of_lt_succ ((Nat.log2_lt hm.ne').2 hmantissa)
  generalize hg : coarseGrid (m.log2 + 2 + q) - 47 = g
  rw [coarseGrid] at hg
  by_cases hsign : 0 ≤ g
  · refine ten_zpow_le_of_nonneg hsign ?_
    split at hg <;> omega
  · rcases le_or_gt 0 (q - 2) with hq | hq
    · calc
        (10 : ℚ) ^ g ≤ 10 ^ (0 : Int) := zpow_le_zpow_right₀ (by norm_num) (by omega)
        _ = 2 ^ (0 : Int) := by norm_num
        _ ≤ 2 ^ (q - 2) := zpow_le_zpow_right₀ (by norm_num) hq
    · refine ten_zpow_le_of_nonpos hq.le ?_
      split at hg <;> omega

/-- The shortest digits of a number round to it. -/
theorem roundsTo_shortest (tie : Tie) {m : Nat} {q : Int} (h : IsBinary64 m q) (hm : 0 < m) :
    RoundsTo m q (((shortest tie m q).1 : ℚ) * 10 ^ (shortest tie m q).2) :=
  roundsTo_searchGrids hm 47 _ (ten_zpow_coarseGrid_le h)

end ShapeCoords.Number
