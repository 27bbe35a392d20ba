import ShapeCoords.Proofs.Json.Reading
import ShapeCoords.Proofs.Number.Grammar
import ShapeCoords.Proofs.Number.Numeral
import ShapeCoords.Proofs.Number.Reading
import ShapeCoords.Record.Reading

/-!
Reading the texts of numbers. A number comes back to the bit; zero loses its sign, and what is not
finite comes back as the undefined number.
-/

namespace ShapeCoords.Json

open Reader Number
open Text (isAsciiDigit takeWhile_run dropWhile_run)

/-- What may stand behind a number: nothing that could belong to it. -/
def EndsNumber (t : List Char) : Prop :=
  ∀ c ∈ t.head?, isAsciiDigit c = false ∧ c ≠ '.' ∧ c ≠ 'e' ∧ c ≠ 'E'

theorem EndsNumber.endsDigits {t : List Char} (h : EndsNumber t) : EndsDigits t :=
  fun c hc => (h c hc).1

theorem EndsNumber.cons {c : Char} (hc : isAsciiDigit c = false ∧ c ≠ '.' ∧ c ≠ 'e' ∧ c ≠ 'E')
    (t : List Char) : EndsNumber (c :: t) := by
  intro d hd
  cases hd
  exact hc

theorem EndsNumber.spaces {w t : List Char} (hw : Spaces w) (ht : EndsNumber t) :
    EndsNumber (w ++ t) := by
  cases w with
  | nil => exact ht
  | cons c w =>
      have hc := hw c List.mem_cons_self
      refine EndsNumber.cons ?_ _
      simp only [isSpace, Bool.or_eq_true, beq_iff_eq] at hc
      rcases hc with ((rfl | rfl) | rfl) | rfl <;> decide

theorem Spaces.endsNumber {w : List Char} (hw : Spaces w) : EndsNumber w := by
  have hend := EndsNumber.spaces hw (t := []) fun _ h => nomatch h
  rwa [List.append_nil] at hend

/-! Digits -/

section Digits

variable {s t : List Char} {c : Char}

theorem Reads.digits (hs : AllDigits s) (ht : EndsDigits t) :
    Reads digits (s ++ t) s t := by
  intro o
  refine ⟨o + s.length, ?_⟩
  simp only [Reader.digits, takeWhile_run hs ht, dropWhile_run hs ht]

theorem Reads.wholePart_zero (ht : EndsDigits t) : Reads wholePart ('0' :: t) ['0'] t := by
  refine (Reads.peek _).bind ((Reads.skip '0' t).bind ((Reads.peek t).bind ?_))
  cases t with
  | nil => exact Reads.pure _ _
  | cons c t =>
      change Reads (if isAsciiDigit c then failNext .invalidNumber else Pure.pure ['0']) _ _ _
      rw [ht c rfl, if_neg Bool.false_ne_true]
      exact Reads.pure _ _

theorem Reads.wholePart_cons (hs : AllDigits (c :: s)) (hc : c ≠ '0')
    (ht : EndsDigits t) : Reads wholePart (c :: s ++ t) (c :: s) t := by
  refine (Reads.peek _).bind ?_
  rw [List.cons_append, List.head?_cons]
  split
  · next h => cases h
  · next h => exact absurd (Option.some.inj h) hc
  · next h =>
    cases h
    rw [hs c List.mem_cons_self, if_pos rfl]
    exact Reads.digits hs ht

theorem Reads.wholePart (N : Numeral) (ht : EndsDigits t) :
    Reads wholePart (N.whole ++ t) N.whole t := by
  rcases N.whole_start with hzero | ⟨c, s, hcons, hc⟩
  · rw [hzero]
    exact Reads.wholePart_zero ht
  · have hdigits := N.whole_digits
    rw [hcons] at hdigits ⊢
    exact Reads.wholePart_cons hdigits hc ht

theorem Reads.fractionPart (hs : AllDigits s) (hne : s ≠ [])
    (ht : EndsDigits t) (atEnd : Cause) : Reads (fractionPart atEnd) (s ++ t) s t := by
  refine (Reads.digits hs ht).bind ?_
  rw [if_neg (by rwa [List.isEmpty_iff])]
  exact Reads.pure s t

/-! Exponents -/

theorem overflowLength_eq_none (e : Nat) (s : List Char)
    (h : e * 10 ^ s.length + digitsValue s ≤ 2147483647) : overflowLength e s = none := by
  induction s generalizing e with
  | nil => rfl
  | cons d s ih =>
      have hsplit : digitsValue (d :: s) = (d.toNat - 48) * 10 ^ s.length + digitsValue s := by
        have hone : digitsValue [d] = d.toNat - 48 := by simp [digitsValue]
        rw [← List.singleton_append, digitsValue_append, hone]
      have hnext : (10 * e + (d.toNat - 48)) * 10 ^ s.length + digitsValue s ≤ 2147483647 := by
        rw [hsplit, List.length_cons, pow_succ] at h
        calc
          (10 * e + (d.toNat - 48)) * 10 ^ s.length + digitsValue s =
              e * (10 ^ s.length * 10) + ((d.toNat - 48) * 10 ^ s.length + digitsValue s) := by ring
          _ ≤ 2147483647 := h
      have hsmall : 10 * e + (d.toNat - 48) ≤ 2147483647 := by
        have := Nat.le_mul_of_pos_right (10 * e + (d.toNat - 48)) (Nat.pow_pos (n := s.length)
          (show 0 < 10 by decide))
        omega
      simp only [overflowLength]
      rw [if_neg (by omega), ih _ hnext]
      rfl

theorem Reads.exponentDigits {k : Nat} (hk : k ≤ 2147483647) (ht : EndsDigits t)
    (zero negative : Bool) : Reads (exponentDigits zero negative) (digitsOf k ++ t) k t := by
  refine Reads.here _ fun start => ?_
  refine (Reads.digits (allDigits_digitsOf k) ht).bind ?_
  have hnone : overflowLength 0 (digitsOf k) = none := by
    refine overflowLength_eq_none 0 _ ?_
    rw [digitsValue_digitsOf]
    omega
  rw [hnone, digitsValue_digitsOf]
  exact Reads.pure k t

/-- What `exponentStart` does behind the sign. -/
def exponentFirst (atEnd : Cause) (negative : Bool) : Reader Bool := do
  match ← peek with
  | none => failHere atEnd
  | some c =>
    if isAsciiDigit c then return negative
    else
      let at_ ← here
      fun _ => (.error ⟨.invalidNumber, some (at_.offset + 1)⟩, at_.advance)

theorem Reads.exponentFirst (negative : Bool) (hc : isAsciiDigit c = true) (s : List Char)
    (atEnd : Cause) : Reads (exponentFirst atEnd negative) (c :: s) negative (c :: s) := by
  refine (Reads.peek _).bind ?_
  rw [List.head?_cons]
  dsimp only
  rw [if_pos hc]
  exact Reads.pure negative _

theorem Reads.exponentStart {sign : List Char} (hsign : IsSign sign) (hc : isAsciiDigit c = true)
    (s : List Char) (atEnd : Cause) :
    Reads (exponentStart atEnd) (sign ++ c :: s) (isMinus sign) (c :: s) := by
  refine (Reads.peek _).bind ?_
  cases hsign with
  | plus =>
      exact (Reads.skip '+' _).bind ((Reads.pure false _).bind (.exponentFirst false hc s atEnd))
  | minus =>
      exact (Reads.skip '-' _).bind ((Reads.pure true _).bind (.exponentFirst true hc s atEnd))
  | none =>
      rw [List.nil_append, List.head?_cons]
      split
      · next h => exact absurd (Option.some.inj h ▸ hc) (by decide)
      · next h => exact absurd (Option.some.inj h ▸ hc) (by decide)
      · exact (Reads.pure false _).bind (.exponentFirst false hc s atEnd)

end Digits

/-! Numerals -/

/-- What `number` does behind the digits. -/
def numberTail (negative : Bool) (all : Nat) (fraction : Option (List Char)) : Reader Json := do
  let shift : Int := -(fraction.getD []).length
  let c ← peek
  if c = some 'e' ∨ c = some 'E' then
    skip
    let negativeExponent ← exponentStart .endInValue
    let e ← exponentDigits (all == 0) negativeExponent
    finite ⟨negative, all, shift + (if negativeExponent then -(e : Int) else e)⟩
  else if fraction.isSome then finite ⟨negative, all, shift⟩
  else integer negative all

section Numerals

variable {t : List Char} {negative : Bool} {j : Json}

/-- The digits of a numeral are read up to its exponent. -/
theorem Reads.number (N : Numeral) (ht : EndsNumber t)
    (htail : Reads (numberTail negative N.digits N.point) (Numeral.exponentText N.exponent ++ t) j
      t) :
    Reads (number negative) (N.text ++ t) j t := by
  obtain ⟨hends, hpoint⟩ := Numeral.endsDigits_exponentText N.exponent ht.endsDigits
    fun h => (ht '.' h).2.1 rfl
  rw [Numeral.digits, Numeral.point] at htail
  rw [Numeral.text, Numeral.fractionText, List.append_assoc, List.append_assoc]
  by_cases hfraction : N.fraction = []
  · rw [if_pos hfraction, hfraction] at htail
    rw [if_pos hfraction, List.nil_append]
    refine (Reads.wholePart N hends).bind ((Reads.peek _).bind ?_)
    split
    · next h => exact absurd h hpoint
    · exact htail
  · rw [if_neg hfraction] at htail ⊢
    refine (Reads.wholePart N fun c hc => by cases hc; rfl).bind ((Reads.peek _).bind ?_)
    refine (Reads.skip '.' _).bind ?_
    exact (Reads.fractionPart N.fraction_digits hfraction hends _).bind htail

theorem Reads.finite {d : Decimal} {v : Float} (hd : d.toFloat = v) (hv : isFinite v = true)
    (s : List Char) : Reads (finite d) s (.float v) s := by
  subst hd
  change Reads (if isFinite d.toFloat then _ else _) _ _ _
  rw [if_pos hv]
  exact Reads.pure _ s

theorem Reads.numberTail_exponent {all : Nat} {e : Int} (he : e.natAbs ≤ 400) (ht : EndsNumber t)
    (fraction : Option (List Char))
    (hj : Reads (Reader.finite ⟨negative, all, e - (fraction.getD []).length⟩) t j t) :
    Reads (numberTail negative all fraction) (Numeral.exponentText (some e) ++ t) j t := by
  obtain ⟨sign, hsign, htext, hvalue⟩ := Numeral.exists_exponentText_eq e
  obtain ⟨c, s, hs, hc⟩ := exists_digitsOf_eq_cons e.natAbs
  have hdigits := Reads.exponentDigits (show e.natAbs ≤ 2147483647 by omega) ht.endsDigits (all == 0)
    (isMinus sign)
  rw [hs] at hdigits
  rw [htext, hs, List.cons_append, List.append_assoc]
  refine (Reads.peek _).bind ((Reads.skip 'e' _).bind ?_)
  refine (Reads.exponentStart hsign hc _ _).bind (hdigits.bind ?_)
  rwa [hvalue, neg_add_eq_sub]

theorem Reads.numberTail_plain {all : Nat} {fraction : Option (List Char)} (ht : EndsNumber t)
    (hj : Reads (if fraction.isSome then Reader.finite ⟨negative, all, -(fraction.getD []).length⟩
      else integer negative all) t j t) :
    Reads (numberTail negative all fraction) t j t := by
  refine (Reads.peek _).bind ?_
  rw [if_neg ?_]
  · exact hj
  · rintro (h | h)
    · exact (ht 'e' h).2.2.1 rfl
    · exact (ht 'E' h).2.2.2 rfl

/-- A whole number is read as an integer or as a float, which stand for the same number. -/
theorem exists_reads_integer {n : Nat} {v : Float} (hv : Decimal.toFloat ⟨negative, n, 0⟩ = v)
    (hfinite : isFinite v = true) :
    ∃ j, numberOf j = some v ∧ ∀ s, Reads (integer negative n) s j s := by
  subst hv
  cases negative with
  | true =>
      by_cases hn : 0 < n ∧ n ≤ twoTo 63
      · refine ⟨.int (-n), ?_, fun s => ?_⟩
        · rw [numberOf, decide_eq_true (by omega), Int.natAbs_neg, Int.natAbs_natCast]
        · rw [integer, if_pos rfl, if_pos hn]
          exact Reads.pure _ s
      · refine ⟨.float _, rfl, fun s => ?_⟩
        rw [integer, if_pos rfl, if_neg hn]
        exact Reads.finite rfl hfinite s
  | false =>
      by_cases hn : n < twoTo 64
      · refine ⟨.int n, ?_, fun s => ?_⟩
        · rw [numberOf, decide_eq_false (by omega), Int.natAbs_natCast]
        · rw [integer, if_neg Bool.false_ne_true, if_pos hn]
          exact Reads.pure _ s
      · refine ⟨.float _, rfl, fun s => ?_⟩
        rw [integer, if_neg Bool.false_ne_true, if_neg hn]
        exact Reads.finite rfl hfinite s

/-- The text of a positive number, behind a sign, is read as that number. -/
theorem exists_reads_magnitude {v : Float} {m : Nat} {q : Int}
    (hv : value v = .finite negative m q) (hm : 0 < m) :
    ∃ j, numberOf j = some v ∧
      ∀ t, EndsNumber t → Reads (number negative) (ecmaScript.magnitude m q ++ t) j t := by
  obtain ⟨hbinary, -⟩ := eq_ofMagnitude_of_value hv
  obtain ⟨e, he, N, htext, hexponent, hvalue⟩ := isNumeral_magnitude hbinary hm
  have hfinite : isFinite v = true := by rw [isFinite, hv]
  have hfloat : Decimal.toFloat ⟨negative, N.digits, N.power⟩ = v :=
    toFloat_of_shortest hv hm hvalue
  rw [← htext]
  rw [Numeral.power, hexponent, ← N.getD_point] at hfloat
  cases e with
  | some k =>
      refine ⟨.float v, rfl, fun t ht => Reads.number N ht ?_⟩
      rw [hexponent]
      exact Reads.numberTail_exponent (he k rfl) ht N.point (Reads.finite hfloat hfinite t)
  | none =>
      rw [Option.getD_none, zero_sub] at hfloat
      -- without a point the digits are a whole number, which may be read as an integer
      cases hpoint : N.point with
      | none =>
          rw [hpoint, Option.getD_none, List.length_nil, Nat.cast_zero, neg_zero] at hfloat
          obtain ⟨j, hj, hreads⟩ := exists_reads_integer hfloat hfinite
          refine ⟨j, hj, fun t ht => Reads.number N ht ?_⟩
          rw [hexponent, hpoint]
          exact Reads.numberTail_plain ht (hreads t)
      | some fraction =>
          rw [hpoint] at hfloat
          refine ⟨.float v, rfl, fun t ht => Reads.number N ht ?_⟩
          rw [hexponent, hpoint]
          exact Reads.numberTail_plain ht (Reads.finite hfloat hfinite t)

end Numerals

/-! Texts of numbers -/

/-- The number that comes back: zero has no sign, and what is not finite is undefined. -/
def settled (v : Float) : Float :=
  if isFinite v then if isZero v then ofMagnitude false 0 else v else nan

theorem settled_eq_nan {v : Float} (h : isFinite v = false) : settled v = nan := by
  rw [settled, h, if_neg Bool.false_ne_true]

theorem settled_of_finite {v : Float} {negative : Bool} {m : Nat} {q : Int}
    (hv : value v = .finite negative m q) :
    settled v = if m = 0 then ofMagnitude false 0 else v := by
  rw [settled, isFinite, isZero, hv]
  cases m <;> rfl

theorem isSpace_of_isAsciiDigit {c : Char} (hc : isAsciiDigit c = true) : isSpace c = false := by
  rw [isAsciiDigit_iff] at hc
  simp only [isSpace, Bool.or_eq_false_iff, beq_eq_false_iff_ne]
  refine ⟨⟨⟨?_, ?_⟩, ?_⟩, ?_⟩ <;>
    · rintro rfl
      revert hc
      decide

/-- A value that starts with a digit is a number. -/
theorem Reads.anyWith_digit {inner : Option (Reader Json)} {c : Char} {w s t : List Char}
    {j : Json} (hw : Spaces w) (hc : isAsciiDigit c = true)
    (h : Reads (Reader.number false) (c :: s) j t) :
    Reads (anyWith inner) (w ++ c :: s) j t := by
  refine (Reads.valueStart hw (isSpace_of_isAsciiDigit hc) s).bind (Reads.locate ?_)
  split
  -- the characters that start a value of another kind, or stand for the sign
  iterate 9
    · exact absurd hc (by decide)
  · rw [if_pos hc]
    exact h

theorem Reads.anyWith_minus {inner : Option (Reader Json)} {w s t : List Char} {j : Json}
    (hw : Spaces w) (h : Reads (Reader.number true) s j t) :
    Reads (anyWith inner) (w ++ '-' :: s) j t :=
  (Reads.valueStart hw rfl s).bind (Reads.locate ((Reads.skip '-' s).bind h))

theorem Reads.anyWith_null {inner : Option (Reader Json)} {w : List Char} (hw : Spaces w)
    (t : List Char) : Reads (anyWith inner) (w ++ ("null".toList ++ t)) .null t :=
  (Reads.valueStart hw rfl _).bind
    (Reads.locate (Reads.skip_word 'n' ['u', 'l', 'l'] t (Reads.pure Json.null t)))

theorem Reads.number_zero {t : List Char} (ht : EndsNumber t) :
    Reads (Reader.number false) ('0' :: t) (.int 0) t := by
  let zero : Numeral := ⟨['0'], [], none, allDigits_zeros 1, AllDigits.nil, .inl rfl⟩
  exact Reads.number zero ht (Reads.numberTail_plain ht (Reads.pure (Json.int 0) t))

/-- The text of a number is read as the settled number. -/
theorem exists_reads_numberText (v : Float) (inner : Option (Reader Json)) :
    ∃ j, numberOf j = some (settled v) ∧ ∀ w t, Spaces w → EndsNumber t →
      Reads (anyWith inner) (w ++ (numberText v ++ t)) j t := by
  rw [numberText]
  cases hv : value v with
  | nan =>
      rw [settled_eq_nan (by rw [isFinite, hv])]
      exact ⟨.null, rfl, fun w t hw _ => Reads.anyWith_null hw t⟩
  | infinite negative =>
      rw [settled_eq_nan (by rw [isFinite, hv])]
      exact ⟨.null, rfl, fun w t hw _ => Reads.anyWith_null hw t⟩
  | finite negative m q =>
      rw [settled_of_finite hv]
      dsimp only
      by_cases hm : m = 0
      · rw [if_pos hm, if_pos hm]
        exact ⟨.int 0, rfl, fun w t hw ht => Reads.anyWith_digit hw rfl (Reads.number_zero ht)⟩
      · rw [if_neg hm, if_neg hm]
        obtain ⟨j, hj, hreads⟩ := exists_reads_magnitude hv (Nat.pos_of_ne_zero hm)
        refine ⟨j, hj, fun w t hw ht => ?_⟩
        have hnumber := hreads t ht
        cases negative with
        | true => exact Reads.anyWith_minus hw hnumber
        | false =>
            obtain ⟨-, -, N, htext, -⟩ :=
              isNumeral_magnitude (eq_ofMagnitude_of_value hv).1 (Nat.pos_of_ne_zero hm)
            obtain ⟨c, s, hs, hc⟩ := N.exists_text_eq_cons
            rw [← htext, hs] at hnumber ⊢
            exact Reads.anyWith_digit hw hc hnumber

/-- The settled number has the same text. -/
theorem numberText_settled (v : Float) : numberText (settled v) = numberText v := by
  cases hv : value v with
  | nan =>
      rw [settled_eq_nan (by rw [isFinite, hv]), numberText, numberText, hv]
      rfl
  | infinite negative =>
      rw [settled_eq_nan (by rw [isFinite, hv]), numberText, numberText, hv]
      rfl
  | finite negative m q =>
      rw [settled_of_finite hv]
      split
      · next hm =>
        rw [numberText, numberText, hv]
        dsimp only
        rw [if_pos hm]
        rfl
      · rfl

end ShapeCoords.Json
