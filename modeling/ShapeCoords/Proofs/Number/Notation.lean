import ShapeCoords.Number.Reading
import ShapeCoords.Proofs.Number.Numeral
import ShapeCoords.Proofs.Number.Reading

/-!
The notations of ECMAScript for the digits of a number, and how an attribute reads them.
-/

namespace ShapeCoords.Number

open Text

/-- `t` is the text of a number with the digits `s` and the point behind digit `n`. -/
inductive LaidOut (s : List Char) (n : Int) : List Char → Prop where
  | whole (k : Nat) : n = s.length + k → n ≤ 21 → LaidOut s n (s ++ List.replicate k '0')
  | inside (a b : List Char) : s = a ++ b → b ≠ [] → n = a.length → 0 < n → n ≤ 21 →
      LaidOut s n (a ++ '.' :: b)
  | below (k : Nat) : n = -k → -6 < n → LaidOut s n ('0' :: '.' :: List.replicate k '0' ++ s)
  | exponential (c : Char) (t : List Char) : s = c :: t → (n ≤ -6 ∨ 21 < n) →
      LaidOut s n (c :: (if t = [] then [] else '.' :: t) ++
        'e' :: (if 21 < n then '+' else '-') :: digitsOf (n - 1).natAbs)

theorem laidOut_digits {s t : List Char} {c : Char} (hs : s = c :: t) (n : Int) :
    LaidOut s n (ecmaScript.digits s n) := by
  rw [Layout.digits]
  simp only [ecmaScript, Bool.false_eq_true, if_false, List.append_nil, true_and]
  by_cases hpositional : -6 < n ∧ n ≤ 21
  · rw [if_pos hpositional]
    by_cases hwhole : (s.length : Int) ≤ n
    · rw [if_pos hwhole]
      exact .whole _ (by omega) hpositional.2
    · rw [if_neg hwhole]
      by_cases hinside : 0 < n
      · rw [if_pos hinside]
        refine .inside _ _ (List.take_append_drop _ _).symm ?_ ?_ hinside hpositional.2
        · rw [← List.length_pos_iff, List.length_drop]
          omega
        · rw [List.length_take]
          omega
      · rw [if_neg hinside]
        exact .below _ (by omega) hpositional.1
  · rw [if_neg hpositional]
    have hlarge : n ≤ -6 ∨ 21 < n := by omega
    have hexponential := LaidOut.exponential (n := n) c t hs hlarge
    have hfraction : (if 1 < (s.length : Int) then '.' :: s.drop 1 else []) =
        if t = [] then [] else '.' :: t := by
      subst hs
      cases t <;> simp
    have hmark : (if 0 ≤ n - 1 then ['e', '+'] else ['e']) ++ intDigits (n - 1) =
        'e' :: (if 21 < n then '+' else '-') :: digitsOf (n - 1).natAbs := by
      rw [intDigits]
      rcases hlarge with hsmall | hlarge
      · rw [if_neg (by omega), if_pos (by omega), if_neg (by omega)]
        rfl
      · rw [if_pos (by omega), if_neg (by omega), if_pos hlarge]
        rfl
    rw [hfraction, List.append_assoc _ _ (intDigits _), hmark, hs]
    rw [hs] at hexponential
    exact hexponential

/-- The text of a positive number shows its shortest digits. -/
theorem laidOut_magnitude {m d : Nat} {q g : Int} (hm : 0 < m)
    (hshortest : shortest ecmaScript.tie m q = (d, g)) :
    LaidOut (digitsOf d) ((digitsOf d).length + g) (ecmaScript.magnitude m q) := by
  obtain ⟨c, t, hs, -⟩ := exists_digitsOf_eq_cons d
  rw [Layout.magnitude, if_neg hm.ne', hshortest]
  exact laidOut_digits hs _

/-! Reading in an attribute -/

def signText (negative : Bool) : List Char :=
  if negative then ['-'] else []

def IsNumeralChar (c : Char) : Prop :=
  isAsciiDigit c = true ∨ c = '.' ∨ c = 'e' ∨ c = '+' ∨ c = '-'

theorem isNumeralChar_of_mem_signText {c : Char} {negative : Bool} (h : c ∈ signText negative) :
    IsNumeralChar c := by
  cases negative with
  | true => exact .inr (.inr (.inr (.inr (List.mem_singleton.1 h))))
  | false => cases h

theorem not_blank_of_isNumeralChar {c : Char} (h : IsNumeralChar c) : isBlank c = false := by
  rcases h with hdigit | rfl | rfl | rfl | rfl
  · rw [isAsciiDigit_iff] at hdigit
    simp only [isBlank, Bool.or_eq_false_iff, Bool.and_eq_false_iff, decide_eq_false_iff_not,
      beq_eq_false_iff_ne]
    omega
  all_goals rfl

theorem trim_of_not_blank {s : List Char} (h : ∀ c ∈ s, isBlank c = false) : trim s = s := by
  have hdrop (t : List Char) (ht : ∀ c ∈ t, isBlank c = false) : t.dropWhile isBlank = t := by
    cases t with
    | nil => rfl
    | cons c t => rw [List.dropWhile_cons, ht c List.mem_cons_self, if_neg Bool.false_ne_true]
  rw [trim, trimStart, hdrop s h, trimEnd, hdrop s.reverse, List.reverse_reverse]
  exact fun c hc => h c (List.mem_reverse.1 hc)

theorem isNumeralChar_of_mem_intDigits {c : Char} {k : Int} (h : c ∈ intDigits k) :
    IsNumeralChar c := by
  rw [intDigits] at h
  split at h
  · rcases List.mem_cons.1 h with rfl | hc
    · exact .inr (.inr (.inr (.inr rfl)))
    · exact .inl (allDigits_digitsOf _ c hc)
  · exact .inl (allDigits_digitsOf _ c h)

namespace Numeral

theorem isNumeralChar_of_mem_exponentText {c : Char} {e : Option Int}
    (h : c ∈ exponentText e) : IsNumeralChar c := by
  cases e with
  | none => cases h
  | some k =>
      rw [exponentText, List.mem_append] at h
      rcases h with hmark | hc
      · split at hmark
        · rcases List.mem_cons.1 hmark with rfl | hmark
          · exact .inr (.inr (.inl rfl))
          · exact .inr (.inr (.inr (.inl (List.mem_singleton.1 hmark))))
        · exact .inr (.inr (.inl (List.mem_singleton.1 hmark)))
      · exact isNumeralChar_of_mem_intDigits hc

theorem isNumeralChar_of_mem_text (N : Numeral) {c : Char} (h : c ∈ N.text) : IsNumeralChar c := by
  rw [text, List.mem_append, List.mem_append] at h
  rcases h with (hwhole | hfraction) | hexponent
  · exact .inl (N.whole_digits c hwhole)
  · rw [fractionText] at hfraction
    split at hfraction
    · cases hfraction
    · rcases List.mem_cons.1 hfraction with rfl | hc
      · exact .inr (.inl rfl)
      · exact .inl (N.fraction_digits c hc)
  · exact isNumeralChar_of_mem_exponentText hexponent

theorem readExponent_exponentText (e : Option Int) :
    readExponent (exponentText e) = some (e.getD 0) := by
  rw [readExponent_eq_some_iff]
  cases e with
  | none => exact .none
  | some e =>
      obtain ⟨sign, hsign, htext, hvalue⟩ := exists_exponentText_eq e
      have hexponent : HasExponent _ _ :=
        .marked (.inl rfl) hsign (allDigits_digitsOf e.natAbs)
          (List.length_pos_iff.1 (length_digitsOf_pos _))
      rwa [digitsValue_digitsOf, hvalue, ← htext] at hexponent

theorem takeMantissa_text (N : Numeral) :
    takeMantissa N.text = (N.whole, N.fraction, exponentText N.exponent) := by
  obtain ⟨hends, hpoint⟩ := endsDigits_exponentText (t := []) N.exponent
    (fun c hc => absurd hc (by simp)) (by simp)
  rw [List.append_nil] at hends hpoint
  rw [text, fractionText, List.append_assoc]
  split
  · next hfraction =>
    rw [List.nil_append, takeMantissa, takeWhile_run N.whole_digits hends,
      dropWhile_run N.whole_digits hends, hfraction]
    split
    · next r hr =>
      rw [hr] at hpoint
      exact absurd rfl hpoint
    · rfl
  · have hends' : EndsDigits ('.' :: N.fraction ++ exponentText N.exponent) := by
      intro c hc
      cases hc
      rfl
    rw [takeMantissa, takeWhile_run N.whole_digits hends',
      dropWhile_run N.whole_digits hends']
    change (N.whole, (N.fraction ++ _).takeWhile _, (N.fraction ++ _).dropWhile _) = _
    rw [takeWhile_run N.fraction_digits hends, dropWhile_run N.fraction_digits hends]

theorem takeSign_text (N : Numeral) (negative : Bool) :
    takeSign (signText negative ++ N.text) = (negative, N.text) := by
  cases negative with
  | true => rfl
  | false =>
      obtain ⟨c, s, hs, hc⟩ := N.exists_text_eq_cons
      rw [hs]
      change takeSign (c :: s) = _
      unfold takeSign
      split
      · next h =>
        cases h
        cases hc
      · next h =>
        cases h
        cases hc
      · rfl

theorem readDecimal_text (N : Numeral) (negative : Bool) :
    readDecimal (signText negative ++ N.text) = some ⟨negative, N.digits, N.power⟩ := by
  have hne : N.whole.isEmpty = false := by
    rcases N.whole_start with hwhole | ⟨c, s, hwhole, -⟩ <;>
      · rw [hwhole]
        rfl
  rw [readDecimal, N.takeSign_text]
  dsimp only
  rw [N.takeMantissa_text]
  dsimp only
  rw [hne, Bool.false_and, if_neg Bool.false_ne_true, readExponent_exponentText]
  rfl

/-- An attribute reads a numeral as the number nearest to it. -/
theorem parse_text (N : Numeral) (negative : Bool) :
    parse (signText negative ++ N.text) =
      some (Decimal.toFloat ⟨negative, N.digits, N.power⟩) := by
  have htrim : trim (signText negative ++ N.text) = signText negative ++ N.text := by
    refine trim_of_not_blank fun c hc => not_blank_of_isNumeralChar ?_
    rcases List.mem_append.1 hc with hsign | htext
    · exact isNumeralChar_of_mem_signText hsign
    · exact N.isNumeralChar_of_mem_text htext
  rw [parse, htrim]
  split
  · next h =>
    obtain ⟨c, s, hs, -⟩ := N.exists_text_eq_cons
    rw [hs] at h
    simp at h
  · rw [readExact, N.readDecimal_text]

end Numeral

end ShapeCoords.Number
