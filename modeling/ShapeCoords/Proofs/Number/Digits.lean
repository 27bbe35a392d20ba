import Mathlib.Tactic
import ShapeCoords.Number.Decimal
import ShapeCoords.Proofs.Text.Runs
import ShapeCoords.Text.Blank

/-!
Strings of decimal digits and their values.
-/

namespace ShapeCoords.Number

open Text (isAsciiDigit)

theorem isAsciiDigit_iff (c : Char) : isAsciiDigit c = true ↔ 48 ≤ c.toNat ∧ c.toNat ≤ 57 := by
  rw [isAsciiDigit, Bool.and_eq_true, decide_eq_true_eq, decide_eq_true_eq]
  exact Iff.rfl

theorem toNat_digitChar {d : Nat} (h : d < 10) : (digitChar d).toNat = 48 + d := by
  interval_cases d <;> rfl

theorem isAsciiDigit_digitChar {d : Nat} (h : d < 10) : isAsciiDigit (digitChar d) = true := by
  rw [isAsciiDigit_iff, toNat_digitChar h]
  omega

/-- A string of digits, perhaps without any. -/
def AllDigits (s : List Char) : Prop :=
  ∀ c ∈ s, isAsciiDigit c = true

theorem AllDigits.nil : AllDigits [] :=
  fun _ h => absurd h List.not_mem_nil

theorem AllDigits.append {s t : List Char} (hs : AllDigits s) (ht : AllDigits t) :
    AllDigits (s ++ t) := by
  intro c hc
  rcases List.mem_append.1 hc with hc | hc
  · exact hs c hc
  · exact ht c hc

def EndsDigits (t : List Char) : Prop :=
  Text.EndsRun isAsciiDigit t

/-! The value of a string -/

theorem foldl_digits (s : List Char) (n : Nat) :
    s.foldl (fun n c => 10 * n + (c.toNat - 48)) n = n * 10 ^ s.length + digitsValue s := by
  induction s generalizing n with
  | nil => simp [digitsValue]
  | cons c s ih =>
      rw [digitsValue, List.foldl_cons, List.foldl_cons, ih, ih (10 * 0 + (c.toNat - 48)),
        List.length_cons]
      ring

theorem digitsValue_append (s t : List Char) :
    digitsValue (s ++ t) = digitsValue s * 10 ^ t.length + digitsValue t := by
  rw [digitsValue, List.foldl_append, foldl_digits]
  rfl

theorem digitsValue_replicate_zero (k : Nat) : digitsValue (List.replicate k '0') = 0 := by
  induction k with
  | zero => rfl
  | succ k ih =>
      rw [List.replicate_succ', digitsValue_append, ih]
      rfl

theorem digitsValue_lt {s : List Char} (hs : AllDigits s) : digitsValue s < 10 ^ s.length := by
  induction s using List.reverseRecOn with
  | nil => decide
  | append_singleton s c ih =>
      have hprefix := ih fun d hd => hs d (List.mem_append_left _ hd)
      have hc := (isAsciiDigit_iff c).1 (hs c (by simp))
      have hlast : digitsValue [c] = c.toNat - 48 := by simp [digitsValue]
      rw [digitsValue_append, hlast, List.length_append, List.length_singleton, pow_succ]
      omega

/-! The digits of a number -/

theorem digitsOf_of_lt {n : Nat} (h : n < 10) : digitsOf n = [digitChar n] := by
  rw [digitsOf, if_pos h]

theorem digitsOf_of_ge {n : Nat} (h : 10 ≤ n) :
    digitsOf n = digitsOf (n / 10) ++ [digitChar (n % 10)] := by
  rw [digitsOf, if_neg (by omega)]

theorem digitsValue_digitChar {d : Nat} (h : d < 10) : digitsValue [digitChar d] = d := by
  rw [digitsValue, List.foldl_cons, List.foldl_nil, toNat_digitChar h]
  omega

theorem digitsValue_digitsOf (n : Nat) : digitsValue (digitsOf n) = n := by
  induction n using Nat.strong_induction_on with
  | _ n ih =>
      rcases Nat.lt_or_ge n 10 with hn | hn
      · rw [digitsOf_of_lt hn, digitsValue_digitChar hn]
      · rw [digitsOf_of_ge hn, digitsValue_append, ih (n / 10) (by omega),
          digitsValue_digitChar (Nat.mod_lt n (by decide)), List.length_singleton]
        omega

theorem allDigits_digitsOf (n : Nat) : AllDigits (digitsOf n) := by
  induction n using Nat.strong_induction_on with
  | _ n ih =>
      intro c hc
      rcases Nat.lt_or_ge n 10 with hn | hn
      · rw [digitsOf_of_lt hn, List.mem_singleton] at hc
        subst hc
        exact isAsciiDigit_digitChar hn
      · rw [digitsOf_of_ge hn, List.mem_append, List.mem_singleton] at hc
        rcases hc with hc | rfl
        · exact ih (n / 10) (by omega) c hc
        · exact isAsciiDigit_digitChar (Nat.mod_lt n (by decide))

theorem exists_digitsOf_eq_cons (n : Nat) :
    ∃ c s, digitsOf n = c :: s ∧ isAsciiDigit c = true := by
  have hdigits := allDigits_digitsOf n
  cases h : digitsOf n with
  | nil =>
      rw [digitsOf] at h
      split at h <;> simp at h
  | cons c s =>
      rw [h] at hdigits
      exact ⟨c, s, rfl, hdigits c List.mem_cons_self⟩

/-- The digits of a positive number do not start with a zero. -/
theorem exists_digitsOf_eq_cons_ne_zero {n : Nat} (h : 0 < n) :
    ∃ c s, digitsOf n = c :: s ∧ c ≠ '0' := by
  induction n using Nat.strong_induction_on with
  | _ n ih =>
      rcases Nat.lt_or_ge n 10 with hn | hn
      · refine ⟨digitChar n, [], digitsOf_of_lt hn, fun hzero => ?_⟩
        have := toNat_digitChar hn
        rw [hzero] at this
        change 48 = 48 + n at this
        omega
      · obtain ⟨c, s, hs, hc⟩ := ih (n / 10) (by omega) (by omega)
        exact ⟨c, s ++ [digitChar (n % 10)], by rw [digitsOf_of_ge hn, hs, List.cons_append], hc⟩

theorem lt_pow_length_digitsOf (n : Nat) : n < 10 ^ (digitsOf n).length := by
  have h := digitsValue_lt (allDigits_digitsOf n)
  rwa [digitsValue_digitsOf] at h

theorem pow_length_digitsOf_le {n : Nat} (h : 0 < n) : 10 ^ (digitsOf n).length ≤ 10 * n := by
  induction n using Nat.strong_induction_on with
  | _ n ih =>
      rcases Nat.lt_or_ge n 10 with hn | hn
      · rw [digitsOf_of_lt hn, List.length_singleton]
        omega
      · have hprefix := ih (n / 10) (by omega) (by omega)
        rw [digitsOf_of_ge hn, List.length_append, List.length_singleton, pow_succ]
        omega

theorem length_digitsOf_pos (d : Nat) : 0 < (digitsOf d).length := by
  obtain ⟨c, s, hs, -⟩ := exists_digitsOf_eq_cons d
  rw [hs, List.length_cons]
  omega

/-! The point of a decimal -/

theorem ten_zpow_pos (g : Int) : (0 : ℚ) < 10 ^ g :=
  zpow_pos (by norm_num) g

/-- With the point behind digit `n` a number lies below `10 ^ n`. -/
theorem mul_zpow_lt_point (d : Nat) (g : Int) :
    (d : ℚ) * 10 ^ g < 10 ^ (((digitsOf d).length : Int) + g) := by
  have hlength : (d : ℚ) < 10 ^ (digitsOf d).length := by exact_mod_cast lt_pow_length_digitsOf d
  rw [zpow_add₀ (by norm_num), zpow_natCast]
  exact mul_lt_mul_of_pos_right hlength (ten_zpow_pos g)

/-- And not below `10 ^ (n - 1)`. -/
theorem point_le_mul_zpow {d : Nat} (hd : 0 < d) (g : Int) :
    (10 : ℚ) ^ (((digitsOf d).length : Int) + g - 1) ≤ d * 10 ^ g := by
  have hlength : (10 : ℚ) ^ (digitsOf d).length ≤ 10 * d := by
    exact_mod_cast pow_length_digitsOf_le hd
  have hten : (10 : ℚ) ≠ 0 := by norm_num
  rw [zpow_sub₀ hten, zpow_add₀ hten, zpow_natCast, zpow_one, div_le_iff₀ (by norm_num)]
  calc
    (10 : ℚ) ^ (digitsOf d).length * 10 ^ g ≤ 10 * d * 10 ^ g :=
      mul_le_mul_of_nonneg_right hlength (ten_zpow_pos g).le
    _ = d * 10 ^ g * 10 := by ring

end ShapeCoords.Number
