import ShapeCoords.Proofs.Json.Numbers
import ShapeCoords.Proofs.Json.Spacing
import ShapeCoords.Proofs.Number.Fewest
import ShapeCoords.Proofs.Number.Notation

/-!
The texts of finite numbers: the shortest digits in the notation of ECMAScript, in the grammar of
JSON, the same alone and inside a value.
-/

namespace ShapeCoords.Json

open Number
open Text (isAsciiDigit)

/-! The grammar of numbers -/

inductive IsWholePart : List Char → Prop where
  | zero : IsWholePart ['0']
  | nonzero (c : Char) (s : List Char) : c ≠ '0' → AllDigits (c :: s) → IsWholePart (c :: s)

inductive IsFraction : List Char → Prop where
  | absent : IsFraction []
  | digits (s : List Char) : s ≠ [] → AllDigits s → IsFraction ('.' :: s)

inductive IsExponent : List Char → Prop where
  | absent : IsExponent []
  | digits (e : Char) (sign s : List Char) : e = 'e' ∨ e = 'E' →
      sign = [] ∨ sign = ['+'] ∨ sign = ['-'] → s ≠ [] → AllDigits s →
      IsExponent (e :: (sign ++ s))

inductive IsNumber : List Char → Prop where
  | mk (sign whole fraction exponent : List Char) : sign = [] ∨ sign = ['-'] →
      IsWholePart whole → IsFraction fraction → IsExponent exponent →
      IsNumber (sign ++ (whole ++ fraction ++ exponent))

theorem isWholePart_whole (N : Numeral) : IsWholePart N.whole := by
  have hdigits := N.whole_digits
  rcases N.whole_start with hzero | ⟨c, s, hcons, hc⟩
  · rw [hzero]
    exact .zero
  · rw [hcons] at hdigits ⊢
    exact .nonzero c s hc hdigits

theorem isFraction_fractionText {s : List Char} (hs : AllDigits s) :
    IsFraction (Numeral.fractionText s) := by
  rw [Numeral.fractionText]
  split
  · exact .absent
  · next hne => exact .digits s hne hs

theorem isExponent_exponentText (e : Option Int) : IsExponent (Numeral.exponentText e) := by
  cases e with
  | none => exact .absent
  | some e =>
      obtain ⟨sign, hsign, htext, -⟩ := Numeral.exists_exponentText_eq e
      have hsigns : sign = [] ∨ sign = ['+'] ∨ sign = ['-'] := by cases hsign <;> simp
      rw [htext]
      exact .digits 'e' sign _ (.inl rfl) hsigns (List.length_pos_iff.1 (length_digitsOf_pos _))
        (allDigits_digitsOf _)

theorem isNumber_text (N : Numeral) (negative : Bool) :
    IsNumber (signText negative ++ N.text) := by
  refine .mk _ _ _ _ ?_ (isWholePart_whole N) (isFraction_fractionText N.fraction_digits)
    (isExponent_exponentText N.exponent)
  cases negative with
  | true => exact .inr rfl
  | false => exact .inl rfl

/-- Zero has no sign. -/
def zeroNumeral : Numeral where
  whole := ['0']
  fraction := []
  exponent := none
  whole_digits := allDigits_zeros 1
  fraction_digits := AllDigits.nil
  whole_start := .inl rfl

/-- The text of a finite number is a numeral, and an attribute reads it as the number. -/
theorem exists_numeral {v : Float} {negative : Bool} {m : Nat} {q : Int}
    (hv : value v = .finite negative m q) :
    ∃ (N : Numeral) (sign : Bool), numberText v = signText sign ++ N.text ∧
      Decimal.toFloat ⟨sign, N.digits, N.power⟩ = if m = 0 then ofMagnitude false 0 else v := by
  rw [numberText, hv]
  dsimp only
  by_cases hm : m = 0
  · rw [if_pos hm, if_pos hm]
    exact ⟨zeroNumeral, false, rfl, rfl⟩
  · rw [if_neg hm, if_neg hm]
    obtain ⟨hbinary, -⟩ := eq_ofMagnitude_of_value hv
    obtain ⟨-, -, N, htext, -, hvalue⟩ := isNumeral_magnitude hbinary (Nat.pos_of_ne_zero hm)
    refine ⟨N, negative, by rw [htext, signText], ?_⟩
    exact toFloat_of_shortest hv (Nat.pos_of_ne_zero hm) hvalue

theorem isNumeralChar_of_mem_numberText {v : Float} {negative : Bool} {m : Nat} {q : Int}
    (hv : value v = .finite negative m q) {c : Char} (h : c ∈ numberText v) :
    IsNumeralChar c := by
  obtain ⟨N, sign, htext, -⟩ := exists_numeral hv
  rw [htext, List.mem_append] at h
  rcases h with hsign | htext
  · exact isNumeralChar_of_mem_signText hsign
  · exact N.isNumeralChar_of_mem_text htext

/-! Numbers inside a value -/

/-- A place in a value: the value itself, or a place in one of its items or members. -/
inductive Place where
  | here
  | item (before : List Json) (place : Place) (behind : List Json)
  | member (before : List (String × Json)) (name : String) (place : Place)
      (behind : List (String × Json))

/-- The value with something at a place. -/
def Place.put : Place → Json → Json
  | here, v => v
  | item before place behind, v => .array (before ++ place.put v :: behind)
  | member before name place behind, v => .object (before ++ (name, place.put v) :: behind)

/-- The text of a value has the text of the number at a place, and what is around it does not depend
on the number. -/
def Place.Shows (place : Place) (text : Json → List Char) : Prop :=
  ∃ before behind, ∀ v : Float, text (place.put (.float v)) = before ++ (numberText v ++ behind)

section Places

variable (sp : Spacing) (depth : Nat)

theorem exists_spacedItems_append (before behind : List Json) (first : Bool) :
    ∃ s t, ∀ v, spacedItems sp depth first (before ++ v :: behind) =
      s ++ (v.spaced sp depth ++ t) := by
  induction before generalizing first with
  | nil =>
      refine ⟨separator first ++ sp.lineBreak depth, spacedItems sp depth false behind, ?_⟩
      intro v
      rw [List.nil_append, spacedItems, List.append_assoc]
  | cons w before ih =>
      obtain ⟨s, t, hst⟩ := ih false
      refine ⟨separator first ++ (sp.lineBreak depth ++ (w.spaced sp depth ++ s)), t, ?_⟩
      intro v
      rw [List.cons_append, spacedItems, hst]
      simp only [List.append_assoc]

theorem exists_spacedMembers_append (before : List (String × Json)) (name : String)
    (behind : List (String × Json)) (first : Bool) :
    ∃ s t, ∀ v, spacedMembers sp depth first (before ++ (name, v) :: behind) =
      s ++ (v.spaced sp depth ++ t) := by
  induction before generalizing first with
  | nil =>
      refine ⟨separator first ++ (sp.lineBreak depth ++ (quoted name ++ ':' :: sp.colonSpace)),
        spacedMembers sp depth false behind, ?_⟩
      intro v
      rw [List.nil_append, spacedMembers]
      simp only [List.append_assoc, List.cons_append]
  | cons m before ih =>
      obtain ⟨s, t, hst⟩ := ih false
      refine ⟨separator first ++ (sp.lineBreak depth ++ (quoted m.1 ++ ':' :: (sp.colonSpace ++
        (m.2.spaced sp depth ++ s)))), t, ?_⟩
      intro v
      rw [List.cons_append, spacedMembers, hst]
      simp only [List.append_assoc, List.cons_append]

theorem closing_append_cons {α : Type} (before : List α) (v : α) (behind : List α) :
    sp.closing depth (before ++ v :: behind) = sp.lineBreak depth := by
  cases before <;> rfl

theorem Place.shows_spaced (place : Place) : place.Shows (spaced sp depth) := by
  induction place generalizing depth with
  | here =>
      refine ⟨[], [], fun v => ?_⟩
      rw [List.append_nil]
      rfl
  | item before place behind ih =>
      obtain ⟨s, t, hst⟩ := ih (depth + 1)
      obtain ⟨s', t', hst'⟩ := exists_spacedItems_append sp (depth + 1) before behind true
      refine ⟨'[' :: (s' ++ s), t ++ (t' ++ (sp.lineBreak depth ++ [']'])), fun v => ?_⟩
      rw [put, spaced, hst', hst, closing_append_cons]
      simp only [List.append_assoc, List.cons_append]
  | member before name place behind ih =>
      obtain ⟨s, t, hst⟩ := ih (depth + 1)
      obtain ⟨s', t', hst'⟩ :=
        exists_spacedMembers_append sp (depth + 1) before name behind true
      refine ⟨'\x7b' :: (s' ++ s), t ++ (t' ++ (sp.lineBreak depth ++ ['\x7d'])), fun v => ?_⟩
      rw [put, spaced, hst', hst, closing_append_cons]
      simp only [List.append_assoc, List.cons_append]

end Places

theorem Place.shows_compact (place : Place) : place.Shows compact := by
  obtain ⟨s, t, hst⟩ := place.shows_spaced dense 0
  refine ⟨s, t, fun v => ?_⟩
  rw [compact_eq_spaced 0, hst]

theorem Place.shows_pretty (place : Place) : place.Shows pretty := by
  obtain ⟨s, t, hst⟩ := place.shows_spaced indented 0
  refine ⟨s, t, fun v => ?_⟩
  rw [pretty, prettyAt_eq_spaced, hst]

/-- The text of a finite number, wherever it stands: zero, or the shortest digits behind a sign. It
is a number of JSON, and an attribute with this text has the same number, zero without its sign. -/
theorem numberText_eq_shortest {v : Float} {negative : Bool} {m : Nat} {q : Int}
    (hv : value v = .finite negative m q) :
    (m = 0 → numberText v = ['0']) ∧
      (0 < m → ∃ d g t, IsShortest m q d g ∧ LaidOut (digitsOf d) ((digitsOf d).length + g) t ∧
        numberText v = (if negative then ['-'] else []) ++ t) ∧
      IsNumber (numberText v) ∧
      Number.parse (numberText v) = some (if m = 0 then ofMagnitude false 0 else v) ∧
      ∀ place : Place, place.Shows compact ∧ place.Shows pretty := by
  obtain ⟨N, sign, htext, hread⟩ := exists_numeral hv
  refine ⟨fun hm => ?_, fun hm => ?_, ?_, ?_,
    fun place => ⟨place.shows_compact, place.shows_pretty⟩⟩
  · rw [numberText, hv]
    exact if_pos hm
  · obtain ⟨hbinary, -⟩ := eq_ofMagnitude_of_value hv
    obtain ⟨d, g, hshortest, hspec⟩ := isShortest_shortest hbinary hm
    refine ⟨d, g, ecmaScript.magnitude m q, hspec, laidOut_magnitude hm hshortest, ?_⟩
    rw [numberText, hv]
    exact if_neg hm.ne'
  · rw [htext]
    exact isNumber_text N sign
  · rw [htext, N.parse_text, hread]

/-- The least positive number, where one digit is enough. -/
theorem numberText_eq_shortest_least :
    value (ofMagnitude true 1) = .finite true 1 (-1074) ∧
      ∃ d g t, IsShortest 1 (-1074) d g ∧ LaidOut (digitsOf d) ((digitsOf d).length + g) t ∧
        numberText (ofMagnitude true 1) = '-' :: t := by
  have hv : value (ofMagnitude true 1) = .finite true 1 (-1074) := by rfl
  exact ⟨hv, (numberText_eq_shortest hv).2.1 Nat.one_pos⟩

example : numberText (ofMagnitude true 1) = "-5e-324".toList := by decide +kernel

end ShapeCoords.Json
