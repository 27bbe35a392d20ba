import ShapeCoords.Proofs.Json.NumberText
import ShapeCoords.Proofs.Json.Outcomes
import ShapeCoords.Proofs.Number.Grammar

/-!
Numbers at the front of any text. What is read as a number is one in the grammar, and it is read as
the same number whatever ends it.
-/

namespace ShapeCoords.Json

open Reader Number
open Text (isAsciiDigit endsRun_dropWhile)

inductive IsNumeric : Json → Prop where
  | int (i : Int) : IsNumeric (.int i)
  | float (v : Float) : IsNumeric (.float v)

/-- The text of a number behind its sign, and the value as which it is read. -/
structure IsNumberToken (negative : Bool) (s : List Char) (j : Json) : Prop where
  exists_parts : ∃ whole fraction exponent, s = whole ++ (fraction ++ exponent) ∧
    IsWholePart whole ∧ IsFraction fraction ∧ IsExponent exponent
  isNumeric : IsNumeric j
  reads : ∀ t, EndsNumber t → Reads (number negative) (s ++ t) j t

variable {s t w ds : List Char} {j : Json} {negative : Bool}

/-! Digits -/

theorem Took.of_digits (h : Took digits s ds t) : s = ds ++ t ∧ AllDigits ds ∧ EndsDigits t := by
  obtain ⟨o, o', ho⟩ := h
  cases ho
  exact ⟨List.takeWhile_append_dropWhile.symm, fun c hc => List.mem_takeWhile_imp hc,
    endsRun_dropWhile _ s⟩

theorem IsWholePart.reads (h : IsWholePart w) (ht : EndsDigits t) :
    Reads wholePart (w ++ t) w t := by
  cases h with
  | zero => exact Reads.wholePart_zero ht
  | nonzero c s hc hdigits => exact Reads.wholePart_cons hdigits hc ht

theorem Took.of_wholePart (h : Took wholePart s w t) : s = w ++ t ∧ IsWholePart w := by
  replace h := h.of_peek_bind
  split at h
  · exact absurd h (fails_failHere _ _).not_took
  · next hs =>
    obtain ⟨u, rfl⟩ := List.head?_eq_some_iff.1 hs
    replace h := h.of_skip_bind.of_peek_bind
    split at h
    · split at h
      · exact absurd h (fails_failNext _ _).not_took
      · obtain ⟨rfl, rfl⟩ := h.of_pure
        exact ⟨rfl, .zero⟩
    · obtain ⟨rfl, rfl⟩ := h.of_pure
      exact ⟨rfl, .zero⟩
  · next c hzero hs =>
    obtain ⟨u, rfl⟩ := List.head?_eq_some_iff.1 hs
    split at h
    · next hc =>
      obtain ⟨hw, hdigits, hends⟩ := h.of_digits
      cases w with
      | nil =>
          rw [List.nil_append] at hw
          rw [hends c (by rw [← hw]; rfl)] at hc
          cases hc
      | cons d w =>
          rw [List.cons_append, List.cons.injEq] at hw
          obtain ⟨rfl, rfl⟩ := hw
          exact ⟨rfl, .nonzero c w hzero hdigits⟩
    · obtain ⟨_, o, o', ho⟩ := h.of_here_bind
      cases ho

theorem Took.of_fractionPart {atEnd : Cause} (h : Took (fractionPart atEnd) s ds t) :
    s = ds ++ t ∧ AllDigits ds ∧ ds ≠ [] := by
  obtain ⟨ds', u, hdigits, hnext⟩ := h.of_bind
  split at hnext
  · replace hnext := hnext.of_peek_bind
    split at hnext
    · exact absurd hnext (fails_failNext _ _).not_took
    · exact absurd hnext (fails_failNext _ _).not_took
  · next hne =>
    obtain ⟨rfl, rfl⟩ := hnext.of_pure
    obtain ⟨rfl, hall, -⟩ := hdigits.of_digits
    exact ⟨rfl, hall, fun h => hne (List.isEmpty_iff.2 h)⟩

/-! Exponents -/

theorem Took.of_exponentFirst {atEnd : Cause} {b : Bool}
    (h : Took (exponentFirst atEnd negative) s b t) :
    b = negative ∧ t = s ∧ ∃ c u, s = c :: u ∧ isAsciiDigit c = true := by
  replace h := h.of_peek_bind
  split at h
  · exact absurd h (fails_failHere _ _).not_took
  · next c hs =>
    obtain ⟨u, rfl⟩ := List.head?_eq_some_iff.1 hs
    split at h
    · next hc =>
      obtain ⟨rfl, rfl⟩ := h.of_pure
      exact ⟨rfl, rfl, c, u, rfl, hc⟩
    · obtain ⟨_, o, o', ho⟩ := h.of_here_bind
      cases ho

theorem Took.of_exponentStart {atEnd : Cause} (h : Took (exponentStart atEnd) s negative t) :
    ∃ sign, IsSign sign ∧ isMinus sign = negative ∧ s = sign ++ t ∧
      ∃ c u, t = c :: u ∧ isAsciiDigit c = true := by
  have hfirst {b : Bool} {s : List Char}
      (h : Took (Pure.pure b >>= exponentFirst atEnd) s negative t) :
      negative = b ∧ t = s ∧ ∃ c u, s = c :: u ∧ isAsciiDigit c = true := by
    exact h.of_pure_bind.of_exponentFirst
  replace h := h.of_peek_bind
  split at h
  · next hs =>
    obtain ⟨u, rfl⟩ := List.head?_eq_some_iff.1 hs
    obtain ⟨rfl, rfl, hdigit⟩ := hfirst h.of_skip_bind
    exact ⟨['+'], .plus, rfl, rfl, hdigit⟩
  · next hs =>
    obtain ⟨u, rfl⟩ := List.head?_eq_some_iff.1 hs
    obtain ⟨rfl, rfl, hdigit⟩ := hfirst h.of_skip_bind
    exact ⟨['-'], .minus, rfl, rfl, hdigit⟩
  · obtain ⟨rfl, rfl, hdigit⟩ := hfirst h
    exact ⟨[], .none, rfl, rfl, hdigit⟩

theorem Took.of_exponentDigits {zero : Bool} {k : Nat}
    (h : Took (exponentDigits zero negative) s k t) :
    ∃ ds, s = ds ++ t ∧ AllDigits ds ∧ EndsDigits t ∧
      ∀ t', EndsDigits t' → Reads (exponentDigits zero negative) (ds ++ t') k t' := by
  obtain ⟨start, h⟩ := h.of_here_bind
  obtain ⟨ds, u, hdigits, hnext⟩ := h.of_bind
  obtain ⟨rfl, hall, hends⟩ := hdigits.of_digits
  -- whether the digits are refused does not depend on where they stand
  have hk : k = digitsValue ds ∧ t = u ∧ (overflowLength 0 ds = none ∨ (zero || negative) = true) :=
    by
    split at hnext
    · rcases hnext.of_ite with ⟨hany, hnext⟩ | ⟨-, o, o', ho⟩
      · obtain ⟨rfl, rfl⟩ := hnext.of_pure
        exact ⟨rfl, rfl, .inr hany⟩
      · cases ho
    · next hnone =>
      obtain ⟨rfl, rfl⟩ := hnext.of_pure
      exact ⟨rfl, rfl, .inl hnone⟩
  obtain ⟨rfl, rfl, hfits⟩ := hk
  refine ⟨ds, rfl, hall, hends, fun t' ht' => Reads.here _ fun start => ?_⟩
  refine (Reads.digits hall ht').bind ?_
  split
  · next n hsome =>
    rw [hsome] at hfits
    exact (Reads.pure _ t').ite (hfits.resolve_left (Option.some_ne_none n))
  · exact Reads.pure _ t'

/-! Values -/

theorem Took.of_finite {d : Decimal} (h : Took (finite d) s j t) :
    t = s ∧ IsNumeric j ∧ ∀ t', Reads (finite d) t' j t' := by
  change Took (if isFinite d.toFloat then _ else _) _ _ _ at h
  split at h
  · next hfinite =>
    obtain ⟨rfl, rfl⟩ := h.of_pure
    exact ⟨rfl, .float _, fun t' => Reads.finite rfl hfinite t'⟩
  · exact absurd h (fails_failHere _ _).not_took

theorem integer_eq (negative : Bool) (n : Nat) :
    (∃ i, integer negative n = Pure.pure (.int i)) ∨
      integer negative n = finite ⟨negative, n, 0⟩ := by
  cases negative with
  | true =>
      by_cases hn : 0 < n ∧ n ≤ twoTo 63
      · exact .inl ⟨-n, by rw [integer, if_pos rfl, if_pos hn]⟩
      · exact .inr (by rw [integer, if_pos rfl, if_neg hn])
  | false =>
      by_cases hn : n < twoTo 64
      · exact .inl ⟨n, by rw [integer, if_neg Bool.false_ne_true, if_pos hn]⟩
      · exact .inr (by rw [integer, if_neg Bool.false_ne_true, if_neg hn])

theorem Took.of_integer {n : Nat} (h : Took (integer negative n) s j t) :
    t = s ∧ IsNumeric j ∧ ∀ t', Reads (integer negative n) t' j t' := by
  rcases integer_eq negative n with ⟨i, heq⟩ | heq
  · rw [heq] at h ⊢
    obtain ⟨rfl, rfl⟩ := h.of_pure
    exact ⟨rfl, .int i, fun t' => Reads.pure _ t'⟩
  · rw [heq] at h ⊢
    exact h.of_finite

/-! Whole numbers -/

/-- The sign and the digits of an exponent, of which there is at least one. -/
theorem Took.of_exponent {zero : Bool} {d : Bool → Nat → Decimal}
    (h : Took (do
      let negativeExponent ← exponentStart .endInValue
      let e ← exponentDigits zero negativeExponent
      finite (d negativeExponent e)) s j t) :
    ∃ sign ds, s = sign ++ (ds ++ t) ∧ (sign = [] ∨ sign = ['+'] ∨ sign = ['-']) ∧ ds ≠ [] ∧
      AllDigits ds ∧ IsNumeric j ∧ ∀ t', EndsDigits t' → Reads (do
        let negativeExponent ← exponentStart .endInValue
        let e ← exponentDigits zero negativeExponent
        finite (d negativeExponent e)) (sign ++ (ds ++ t')) j t' := by
  obtain ⟨negative, u, hstart, hrest⟩ := h.of_bind
  obtain ⟨sign, hsign, rfl, rfl, c, v, rfl, hc⟩ := hstart.of_exponentStart
  obtain ⟨k, v', hdigits, hfinite⟩ := hrest.of_bind
  obtain ⟨ds, hds, hall, hends, hreads⟩ := hdigits.of_exponentDigits
  obtain ⟨rfl, hj, hvalue⟩ := hfinite.of_finite
  cases ds with
  | nil =>
      rw [List.nil_append] at hds
      rw [hends c (by rw [← hds]; rfl)] at hc
      cases hc
  | cons d ds =>
      obtain ⟨rfl, rfl⟩ := List.cons.inj hds
      refine ⟨sign, c :: ds, rfl, by cases hsign <;> simp, List.cons_ne_nil c ds, hall, hj,
        fun t' ht' => ?_⟩
      exact (Reads.exponentStart hsign hc _ _).bind ((hreads t' ht').bind (hvalue t'))

theorem Took.of_numberTail {all : Nat} {fraction : Option (List Char)}
    (h : Took (numberTail negative all fraction) s j t) :
    ∃ e, s = e ++ t ∧ IsExponent e ∧ IsNumeric j ∧
      ∀ t', EndsNumber t' → Reads (numberTail negative all fraction) (e ++ t') j t' := by
  replace h := h.of_peek_bind
  split at h
  · next hhead =>
    obtain ⟨mark, u, rfl, hmark⟩ : ∃ mark u, s = mark :: u ∧ (mark = 'e' ∨ mark = 'E') := by
      rcases hhead with hhead | hhead
      · obtain ⟨u, rfl⟩ := List.head?_eq_some_iff.1 hhead
        exact ⟨'e', u, rfl, .inl rfl⟩
      · obtain ⟨u, rfl⟩ := List.head?_eq_some_iff.1 hhead
        exact ⟨'E', u, rfl, .inr rfl⟩
    obtain ⟨sign, ds, rfl, hsign, hne, hall, hj, hreads⟩ := h.of_skip_bind.of_exponent
    refine ⟨mark :: (sign ++ ds), by simp, .digits mark sign ds hmark hsign hne hall, hj,
      fun t' ht' => ?_⟩
    refine (Reads.peek _).bind ?_
    rw [List.cons_append, List.head?_cons, if_pos (by simpa using hmark), List.append_assoc]
    exact (Reads.skip mark _).bind (hreads t' ht'.endsDigits)
  · -- without an exponent nothing is read behind the digits
    have hplain : t = s ∧ IsNumeric j ∧
        ∀ t', Reads (if fraction.isSome then finite ⟨negative, all, -(fraction.getD []).length⟩
          else integer negative all) t' j t' := by
      by_cases hfraction : fraction.isSome = true
      · rw [if_pos hfraction] at h ⊢
        exact h.of_finite
      · rw [if_neg hfraction] at h ⊢
        exact h.of_integer
    obtain ⟨rfl, hj, hvalue⟩ := hplain
    exact ⟨[], rfl, .absent, hj, fun t' ht' => Reads.numberTail_plain ht' (hvalue t')⟩

/-- No exponent goes on with the digits in front of it. -/
theorem IsExponent.ends {e : List Char} (h : IsExponent e) (ht : EndsNumber t) :
    EndsDigits (e ++ t) ∧ (e ++ t).head? ≠ some '.' := by
  cases h with
  | absent => exact ⟨ht.endsDigits, fun h => (ht '.' h).2.1 rfl⟩
  | digits e sign s he =>
      rcases he with rfl | rfl
      all_goals exact ⟨.cons rfl _, fun h => absurd (Option.some.inj h) (by decide)⟩

theorem Took.of_number (h : Took (number negative) s j t) :
    ∃ e, s = e ++ t ∧ IsNumberToken negative e j := by
  obtain ⟨whole, u, hw, hrest⟩ := h.of_bind
  obtain ⟨rfl, hwhole⟩ := hw.of_wholePart
  replace hrest := hrest.of_peek_bind
  split at hrest
  · next hpoint =>
    obtain ⟨v, rfl⟩ := List.head?_eq_some_iff.1 hpoint
    obtain ⟨ds, v', hfraction, hpure⟩ := hrest.of_skip_bind.of_bind
    obtain ⟨rfl, hall, hne⟩ := hfraction.of_fractionPart
    have htail : Took (numberTail negative (digitsValue (whole ++ ds)) (some ds)) v' j t :=
      hpure.of_pure_bind
    obtain ⟨e, rfl, he, hj, hreads⟩ := htail.of_numberTail
    refine ⟨whole ++ ('.' :: ds ++ e), by simp, ⟨whole, '.' :: ds, e, rfl, hwhole,
      .digits ds hne hall, he⟩, hj, fun t' ht' => ?_⟩
    simp only [List.append_assoc, List.cons_append]
    refine (hwhole.reads (.cons rfl _)).bind ((Reads.peek _).bind ?_)
    refine (Reads.skip '.' _).bind ((Reads.fractionPart hall hne (he.ends ht').1 _).bind ?_)
    exact (Reads.pure _ _).bind (hreads t' ht')
  · next hpoint =>
    have htail : Took (numberTail negative (digitsValue (whole ++ [])) none) u j t :=
      hrest.of_pure_bind
    obtain ⟨e, rfl, he, hj, hreads⟩ := htail.of_numberTail
    refine ⟨whole ++ ([] ++ e), by simp, ⟨whole, [], e, rfl, hwhole, .absent, he⟩, hj,
      fun t' ht' => ?_⟩
    rw [List.nil_append, List.append_assoc]
    refine (hwhole.reads (he.ends ht').1).bind ((Reads.peek _).bind ?_)
    split
    · next h => exact absurd h (he.ends ht').2
    · exact (Reads.pure _ _).bind (hreads t' ht')

theorem IsNumberToken.exists_eq_cons (h : IsNumberToken negative s j) :
    ∃ c u, s = c :: u ∧ isAsciiDigit c = true := by
  obtain ⟨whole, fraction, exponent, rfl, hwhole, -⟩ := h.exists_parts
  cases hwhole with
  | zero => exact ⟨'0', _, rfl, rfl⟩
  | nonzero c s _ hdigits => exact ⟨c, _, rfl, hdigits c List.mem_cons_self⟩

/-! Numbers that are passed over -/

/-- What `skipNumber` does behind the fraction. -/
def skipExponent : Reader Unit := do
  let c ← peek
  if c = some 'e' ∨ c = some 'E' then
    skip
    let _ ← exponentStart .invalidNumber
    let _ ← digits

theorem IsExponent.reads_skip {e : List Char} (h : IsExponent e) (ht : EndsNumber t) :
    Reads skipExponent (e ++ t) () t := by
  refine (Reads.peek _).bind ?_
  cases h with
  | absent =>
      rw [List.nil_append, if_neg]
      · exact Reads.pure () t
      · rintro (hhead | hhead)
        · exact (ht 'e' hhead).2.2.1 rfl
        · exact (ht 'E' hhead).2.2.2 rfl
  | digits mark sign s hmark hsign hne hall =>
      obtain ⟨c, u, rfl⟩ := List.exists_cons_of_ne_nil hne
      have hsign' : IsSign sign := by
        rcases hsign with rfl | rfl | rfl
        · exact .none
        · exact .plus
        · exact .minus
      rw [List.cons_append, List.head?_cons, if_pos (by simpa using hmark), List.append_assoc]
      refine (Reads.skip mark _).bind ?_
      refine (Reads.exponentStart hsign' (hall c List.mem_cons_self) _ _).bind ?_
      exact (Reads.digits hall ht.endsDigits).bind (Reads.pure () t)

/-- Numbers that are passed over may be of any size. -/
theorem IsNumberToken.reads_skip (h : IsNumberToken negative s j) (ht : EndsNumber t) :
    Reads skipNumber (s ++ t) () t := by
  obtain ⟨c, u, hs, -⟩ := h.exists_eq_cons
  obtain ⟨whole, fraction, exponent, rfl, hwhole, hfraction, hexponent⟩ := h.exists_parts
  refine (Reads.peek _).bind ?_
  rw [if_neg (by rw [hs, List.cons_append, List.head?_cons]; exact Option.some_ne_none c),
    List.append_assoc, List.append_assoc]
  cases hfraction with
  | absent =>
      rw [List.nil_append]
      refine (hwhole.reads (hexponent.ends ht).1).bind ((Reads.peek _).bind ?_)
      rw [if_neg (hexponent.ends ht).2]
      exact hexponent.reads_skip ht
  | digits ds hne hall =>
      rw [List.cons_append]
      refine (hwhole.reads (.cons rfl _)).bind ((Reads.peek _).bind ?_)
      rw [List.head?_cons, if_pos rfl]
      refine (Reads.skip '.' _).bind ?_
      exact (Reads.fractionPart hall hne (hexponent.ends ht).1 _).bind (hexponent.reads_skip ht)

end ShapeCoords.Json
