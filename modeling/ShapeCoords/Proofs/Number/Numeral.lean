import ShapeCoords.Number.Layout
import ShapeCoords.Proofs.Number.Grammar
import ShapeCoords.Proofs.Number.Shortest

/-!
The texts of numbers as numerals: a whole part, the digits behind a point and an exponent.
-/

namespace ShapeCoords.Number

open Text (isAsciiDigit)

/-- An unsigned decimal numeral. The whole part is a zero alone or does not start with one; without
digits behind it there is no point. -/
structure Numeral where
  whole : List Char
  fraction : List Char
  exponent : Option Int
  whole_digits : AllDigits whole
  fraction_digits : AllDigits fraction
  whole_start : whole = ['0'] ∨ ∃ c s, whole = c :: s ∧ c ≠ '0'

namespace Numeral

def fractionText (s : List Char) : List Char :=
  if s = [] then [] else '.' :: s

def exponentText : Option Int → List Char
  | none => []
  | some e => (if 0 ≤ e then ['e', '+'] else ['e']) ++ intDigits e

def text (n : Numeral) : List Char :=
  n.whole ++ fractionText n.fraction ++ exponentText n.exponent

/-- All digits in front of the exponent, as one whole number. -/
def digits (n : Numeral) : Nat :=
  digitsValue (n.whole ++ n.fraction)

/-- The power of ten by which the digits are scaled. -/
def power (n : Numeral) : Int :=
  n.exponent.getD 0 - n.fraction.length

/-- The digits behind the point, if there is one. -/
def point (n : Numeral) : Option (List Char) :=
  if n.fraction = [] then none else some n.fraction

theorem getD_point (n : Numeral) : n.point.getD [] = n.fraction := by
  rw [point]
  split
  · next h => rw [h, Option.getD_none]
  · rfl

theorem exists_text_eq_cons (n : Numeral) : ∃ c s, n.text = c :: s ∧ isAsciiDigit c = true := by
  have hdigits := n.whole_digits
  rcases n.whole_start with hwhole | ⟨c, s, hwhole, -⟩
  · rw [text, hwhole]
    exact ⟨'0', _, rfl, rfl⟩
  · rw [hwhole] at hdigits
    rw [text, hwhole]
    exact ⟨c, _, rfl, hdigits c List.mem_cons_self⟩

/-- An exponent is always written with its sign. -/
theorem exists_exponentText_eq (e : Int) :
    ∃ sign, IsSign sign ∧ exponentText (some e) = 'e' :: (sign ++ digitsOf e.natAbs) ∧
      (if isMinus sign then -(e.natAbs : Int) else e.natAbs) = e := by
  rw [exponentText, intDigits]
  rcases Int.lt_or_le e 0 with hneg | hpos
  · refine ⟨['-'], .minus, ?_, ?_⟩
    · rw [if_neg (by omega), if_pos hneg]
      rfl
    · rw [if_pos (by decide)]
      omega
  · refine ⟨['+'], .plus, ?_, ?_⟩
    · rw [if_pos hpos, if_neg (by omega)]
      rfl
    · rw [if_neg (by decide)]
      omega

/-- An exponent ends the digits in front of it, and is no point. -/
theorem endsDigits_exponentText {t : List Char} (e : Option Int) (ht : EndsDigits t)
    (hpoint : t.head? ≠ some '.') :
    EndsDigits (exponentText e ++ t) ∧ (exponentText e ++ t).head? ≠ some '.' := by
  cases e with
  | none => exact ⟨ht, hpoint⟩
  | some e =>
      rw [exponentText]
      split
      · exact ⟨fun c hc => by cases hc; rfl, fun h => absurd (Option.some.inj h) (by decide)⟩
      · exact ⟨fun c hc => by cases hc; rfl, fun h => absurd (Option.some.inj h) (by decide)⟩

end Numeral

/-- `t` is the text of a numeral with the exponent `e` and the value `x`. -/
def IsNumeral (t : List Char) (e : Option Int) (x : ℚ) : Prop :=
  ∃ N : Numeral, N.text = t ∧ N.exponent = e ∧ (N.digits : ℚ) * 10 ^ N.power = x

/-! The layouts -/

section Layouts

variable {c : Char} {s t : List Char} {n : Int}

theorem allDigits_zeros (k : Int) : AllDigits (zeros k) := by
  intro d hd
  rw [List.eq_of_mem_replicate hd]
  rfl

theorem isNumeral_whole (hdigits : AllDigits s) (hs : s = c :: t) (hc : c ≠ '0')
    (hn : (s.length : Int) ≤ n) :
    IsNumeral (s ++ zeros (n - s.length)) none (digitsValue s * 10 ^ (n - s.length)) := by
  refine ⟨⟨s ++ zeros (n - s.length), [], none, hdigits.append (allDigits_zeros _), AllDigits.nil,
    .inr ⟨c, t ++ zeros (n - s.length), by rw [hs, List.cons_append], hc⟩⟩, ?_, rfl, ?_⟩
  · simp [Numeral.text, Numeral.fractionText, Numeral.exponentText]
  · obtain ⟨k, hk⟩ := Int.eq_ofNat_of_zero_le (show 0 ≤ n - s.length by omega)
    have hvalue : digitsValue (s ++ zeros (n - s.length)) = digitsValue s * 10 ^ k := by
      rw [digitsValue_append, zeros, digitsValue_replicate_zero, List.length_replicate, hk,
        Int.toNat_natCast, Nat.add_zero]
    simp only [Numeral.digits, Numeral.power, List.append_nil, Option.getD_none, List.length_nil,
      Nat.cast_zero, sub_zero, zpow_zero, mul_one]
    rw [hvalue, hk, zpow_natCast]
    push_cast
    rfl

theorem isNumeral_inside (hdigits : AllDigits s) (hs : s = c :: t) (hc : c ≠ '0') (hpos : 0 < n)
    (hn : n < s.length) :
    IsNumeral (s.take n.toNat ++ '.' :: s.drop n.toNat) none
      (digitsValue s * 10 ^ (n - s.length)) := by
  obtain ⟨k, hk⟩ : ∃ k : Nat, n.toNat = k + 1 := ⟨n.toNat - 1, by omega⟩
  have hlength : (s.drop n.toNat).length = s.length - n.toNat := List.length_drop
  have hne : s.drop n.toNat ≠ [] := by
    rw [← List.length_pos_iff, hlength]
    omega
  refine ⟨⟨s.take n.toNat, s.drop n.toNat, none,
    fun d hd => hdigits d (List.mem_of_mem_take hd),
    fun d hd => hdigits d (List.mem_of_mem_drop hd),
    .inr ⟨c, t.take k, by rw [hs, hk, List.take_succ_cons], hc⟩⟩, ?_, rfl, ?_⟩
  · simp [Numeral.text, Numeral.fractionText, Numeral.exponentText, hne]
  · rw [Numeral.digits, Numeral.power, List.take_append_drop, hlength, Option.getD_none]
    congr 2
    omega

theorem isNumeral_below_one (hdigits : AllDigits s) (hs : s = c :: t) (hn : n ≤ 0) :
    IsNumeral ('0' :: '.' :: zeros (-n) ++ s) none (digitsValue s * 10 ^ (n - s.length)) := by
  have hne : zeros (-n) ++ s ≠ [] := by simp [hs]
  refine ⟨⟨['0'], zeros (-n) ++ s, none, allDigits_zeros 1,
    (allDigits_zeros _).append hdigits, .inl rfl⟩, ?_, rfl, ?_⟩
  · simp [Numeral.text, Numeral.fractionText, Numeral.exponentText, hne]
  · have hvalue : digitsValue (['0'] ++ (zeros (-n) ++ s)) = digitsValue s := by
      have hzero : digitsValue ['0'] = 0 := rfl
      rw [digitsValue_append, digitsValue_append, zeros, digitsValue_replicate_zero, hzero]
      omega
    rw [Numeral.digits, Numeral.power, hvalue, Option.getD_none, List.length_append, zeros,
      List.length_replicate]
    congr 2
    push_cast
    omega

theorem isNumeral_exponential (hdigits : AllDigits (c :: t)) (hc : c ≠ '0') :
    IsNumeral ([c] ++ Numeral.fractionText t ++ Numeral.exponentText (some (n - 1))) (some (n - 1))
      (digitsValue (c :: t) * 10 ^ (n - (c :: t).length)) := by
  refine ⟨⟨[c], t, some (n - 1), fun d hd => hdigits d ?_,
    fun d hd => hdigits d (List.mem_cons_of_mem c hd), .inr ⟨c, [], rfl, hc⟩⟩, rfl, rfl, ?_⟩
  · rw [List.mem_singleton.1 hd]
    exact List.mem_cons_self
  · rw [Numeral.digits, Numeral.power, List.singleton_append, List.length_cons, Option.getD_some]
    congr 2
    push_cast
    omega

/-- Whichever notation is taken, the text is a numeral with the value of the digits. -/
theorem isNumeral_digits (hdigits : AllDigits s) (hs : s = c :: t) (hc : c ≠ '0') (n : Int) :
    ∃ e, (e = none ∨ e = some (n - 1)) ∧
      IsNumeral (ecmaScript.digits s n) e (digitsValue s * 10 ^ (n - s.length)) := by
  rw [Layout.digits]
  simp only [ecmaScript, Bool.false_eq_true, if_false, List.append_nil, true_and]
  by_cases hpositional : -6 < n ∧ n ≤ 21
  · rw [if_pos hpositional]
    by_cases hwhole : (s.length : Int) ≤ n
    · rw [if_pos hwhole]
      exact ⟨none, .inl rfl, isNumeral_whole hdigits hs hc hwhole⟩
    · rw [if_neg hwhole]
      by_cases hinside : 0 < n
      · rw [if_pos hinside]
        exact ⟨none, .inl rfl, isNumeral_inside hdigits hs hc hinside (by omega)⟩
      · rw [if_neg hinside]
        exact ⟨none, .inl rfl, isNumeral_below_one hdigits hs (by omega)⟩
  · rw [if_neg hpositional]
    subst hs
    have hfraction : (if 1 < ((c :: t).length : Int) then '.' :: (c :: t).drop 1 else []) =
        Numeral.fractionText t := by
      cases t <;> simp [Numeral.fractionText]
    rw [hfraction, List.append_assoc _ _ (intDigits _)]
    exact ⟨some (n - 1), .inr rfl, isNumeral_exponential hdigits hc⟩

end Layouts

/-! The decimal point of a binary64 number -/

/-- The point of a number stands at most four hundred digits from its first digit. -/
theorem point_of_roundsTo {m d : Nat} {q g : Int} (h : IsBinary64 m q) (hm : 0 < m) (hd : 0 < d)
    (hx : RoundsTo m q ((d : ℚ) * 10 ^ g)) :
    -400 < (digitsOf d).length + g ∧ (digitsOf d).length + g - 1 < 400 := by
  have hleast := h.least
  have hmost := h.most
  constructor
  · by_contra hn
    have hlt := exponent_lt_of_zpow_lt <| calc
      (2 : ℚ) ^ (q - 1) ≤ d * 10 ^ g := hx.zpow_le hm
      _ < 10 ^ (((digitsOf d).length : Int) + g) := mul_zpow_lt_point d g
      _ ≤ 2 ^ (-1076 : Int) := ten_zpow_le_of_nonpos (by norm_num) (by omega)
    omega
  · by_contra hn
    have hlt := exponent_lt_of_zpow_lt <| calc
      (2 : ℚ) ^ (3 * (((digitsOf d).length : Int) + g - 1)) ≤
          10 ^ (((digitsOf d).length : Int) + g - 1) := two_zpow_le_ten_zpow (by omega)
      _ ≤ d * 10 ^ g := point_le_mul_zpow hd g
      _ < 2 ^ (q + 53) := hx.lt_zpow h
    omega

/-- The text of a positive number is a numeral with the value of its shortest digits. -/
theorem isNumeral_magnitude {m : Nat} {q : Int} (h : IsBinary64 m q) (hm : 0 < m) :
    ∃ e, (∀ k ∈ e, k.natAbs ≤ 400) ∧ IsNumeral (ecmaScript.magnitude m q) e
      ((shortest ecmaScript.tie m q).1 * 10 ^ (shortest ecmaScript.tie m q).2) := by
  have hx := roundsTo_shortest ecmaScript.tie h hm
  rw [Layout.magnitude, if_neg hm.ne']
  generalize shortest ecmaScript.tie m q = decimal at hx ⊢
  obtain ⟨d, g⟩ := decimal
  dsimp only at hx ⊢
  have hd := hx.pos_of_mul hm
  obtain ⟨c, t, hs, hc⟩ := exists_digitsOf_eq_cons_ne_zero hd
  obtain ⟨e, he, hnumeral⟩ := isNumeral_digits (allDigits_digitsOf d) hs hc
    ((digitsOf d).length + g)
  rw [digitsValue_digitsOf, add_sub_cancel_left] at hnumeral
  refine ⟨e, fun k hk => ?_, hnumeral⟩
  have hpoint := point_of_roundsTo h hm hd hx
  rcases he with rfl | rfl
  · cases hk
  · cases hk
    omega

end ShapeCoords.Number
