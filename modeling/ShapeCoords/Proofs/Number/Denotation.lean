import ShapeCoords.Proofs.Number.Conversion
import ShapeCoords.Proofs.Number.Grammar
import ShapeCoords.Proofs.Text.Trimming

/-!
What a number in an attribute denotes: the binary64 number nearest to the exact value of its text,
an infinity or the undefined number. All other texts denote nothing.
-/

namespace ShapeCoords.Number

open Text

/-- The exact value of a decimal text, `x`, apart from its sign. -/
inductive HasValue : List Char → Bool → ℚ → Prop where
  | mk {sign mantissa exponent whole fraction : List Char} {e : Int} (hsign : IsSign sign)
      (hparts : HasParts mantissa whole fraction)
      (hwhole : ∀ c ∈ whole, isAsciiDigit c = true)
      (hfraction : ∀ c ∈ fraction, isAsciiDigit c = true) (hexponent : HasExponent exponent e) :
      HasValue (sign ++ (mantissa ++ exponent)) (isMinus sign)
        ((digitsValue whole + digitsValue fraction / 10 ^ fraction.length) * 10 ^ e)

/-- The number that a text without white space around it denotes. -/
inductive Denotes : List Char → Float → Prop where
  | blank : Denotes [] (ofMagnitude false 0)
  | name {s : List Char} {v : Float} (h : Names s v) : Denotes s v
  | decimal {s : List Char} {negative : Bool} {x : ℚ} {v : Float} (h : HasValue s negative x)
      (hv : IsRounded negative x (value v)) : Denotes s v

variable {s : List Char} {negative : Bool} {x : ℚ} {v : Float}

/-- The digits behind the point count as a fraction of the unit. -/
theorem magnitude_of_parts (whole fraction : List Char) (negative : Bool) (e : Int) :
    Decimal.magnitude ⟨negative, digitsValue (whole ++ fraction), e - fraction.length⟩ =
      (digitsValue whole + digitsValue fraction / 10 ^ fraction.length) * 10 ^ e := by
  have hten : (10 : ℚ) ≠ 0 := by norm_num
  have hpower : (10 : ℚ) ^ fraction.length ≠ 0 := pow_ne_zero _ hten
  rw [Decimal.magnitude, digitsValue_append, zpow_sub₀ hten, zpow_natCast]
  push_cast
  field_simp

theorem hasValue_iff :
    HasValue s negative x ↔ ∃ d, HasDecimal s d ∧ d.negative = negative ∧ d.magnitude = x := by
  constructor
  · rintro ⟨hsign, hparts, hwhole, hfraction, hexponent⟩
    exact ⟨_, .mk hsign hparts hwhole hfraction hexponent, rfl, magnitude_of_parts ..⟩
  · rintro ⟨d, ⟨hsign, hparts, hwhole, hfraction, hexponent⟩, rfl, rfl⟩
    rw [magnitude_of_parts]
    exact .mk hsign hparts hwhole hfraction hexponent

theorem readDecimal_eq_none_of_names (h : Names s v) : readDecimal s = none := by
  refine Option.not_isSome_iff_eq_none.1 fun hsome => ?_
  have hnone := (isSome_readDecimal_iff.1 hsome).readName_eq_none (by decide)
  rw [readName_eq_some_iff.2 h] at hnone
  cases hnone

theorem readExact_eq_some_iff :
    readExact s = some v ↔
      Names s v ∨ ∃ negative x, HasValue s negative x ∧ IsRounded negative x (value v) := by
  constructor
  · intro h
    rw [readExact] at h
    split at h
    · next d hd =>
      obtain rfl := Option.some.inj h
      exact .inr ⟨_, _, hasValue_iff.2 ⟨d, readDecimal_eq_some_iff.1 hd, rfl, rfl⟩,
        isRounded_iff.2 rfl⟩
    · exact .inl (readName_eq_some_iff.1 h)
  · rintro (h | ⟨negative, x, h, hv⟩)
    · rw [readExact, readDecimal_eq_none_of_names h, readName_eq_some_iff.2 h]
    · obtain ⟨d, hd, rfl, rfl⟩ := hasValue_iff.1 h
      rw [readExact, readDecimal_eq_some_iff.2 hd]
      exact congrArg some (isRounded_iff.1 hv)

theorem parse_eq_some_iff_denotes (raw : List Char) :
    parse raw = some v ↔ Denotes (trim raw) v := by
  constructor
  · intro h
    rw [parse] at h
    split at h
    · next hblank =>
      obtain rfl := Option.some.inj h
      rw [hblank]
      exact .blank
    · rcases readExact_eq_some_iff.1 h with h | ⟨negative, x, h, hv⟩
      · exact .name h
      · exact .decimal h hv
  · intro h
    -- the empty text is neither a name nor a decimal, so that it is read as blank only
    have hexact (hr : readExact (trim raw) = some v) : parse raw = some v := by
      rw [parse]
      split
      · next hblank =>
        rw [hblank] at hr
        cases hr
      · exact hr
    generalize ht : trim raw = t at h hexact
    cases h with
    | blank => rw [parse, ht]
    | name h => exact hexact (readExact_eq_some_iff.2 (.inl h))
    | decimal h hv => exact hexact (readExact_eq_some_iff.2 (.inr ⟨_, _, h, hv⟩))

/-! Texts that denote a number -/

/-- A name of infinity or of the undefined number, in any case and with any sign. -/
def IsName (s : List Char) : Prop :=
  ∃ sign word, IsSign sign ∧ s = sign ++ word ∧
    word.map lowerAscii ∈ ["inf", "infinity", "nan"].map String.toList

theorem exists_names_iff : (∃ v, Names s v) ↔ IsName s := by
  constructor
  · rintro ⟨v, h⟩
    cases h with
    | @infinite sign word hsign hword =>
        refine ⟨sign, word, hsign, rfl, ?_⟩
        rcases hword with hword | hword
        all_goals rw [hword]; decide
    | @undefined sign word hsign hword =>
        refine ⟨sign, word, hsign, rfl, ?_⟩
        rw [hword]
        decide
  · rintro ⟨sign, word, hsign, rfl, hword⟩
    simp only [List.map_cons, List.map_nil, List.mem_cons, List.not_mem_nil, or_false] at hword
    rcases hword with hword | hword | hword
    · exact ⟨_, .infinite hsign (.inl hword)⟩
    · exact ⟨_, .infinite hsign (.inr hword)⟩
    · exact ⟨_, .undefined hsign hword⟩

theorem exists_denotes_iff :
    (∃ v, Denotes s v) ↔ s = [] ∨ IsName s ∨ IsDecimal isAsciiDigit s := by
  constructor
  · rintro ⟨v, h⟩
    cases h with
    | blank => exact .inl rfl
    | name h => exact .inr (.inl (exists_names_iff.1 ⟨v, h⟩))
    | decimal h =>
        obtain ⟨d, hd, -⟩ := hasValue_iff.1 h
        refine .inr (.inr (isSome_readDecimal_iff.1 ?_))
        rw [readDecimal_eq_some_iff.2 hd]
        rfl
  · rintro (rfl | h | h)
    · exact ⟨_, .blank⟩
    · obtain ⟨v, hv⟩ := exists_names_iff.2 h
      exact ⟨v, .name hv⟩
    · obtain ⟨d, hd⟩ := Option.isSome_iff_exists.1 (isSome_readDecimal_iff.2 h)
      exact ⟨d.toFloat, .decimal (hasValue_iff.2 ⟨d, readDecimal_eq_some_iff.1 hd, rfl, rfl⟩)
        (isRounded_iff.2 rfl)⟩

theorem parse_congr {before raw after : List Char} (hbefore : ∀ c ∈ before, isBlank c = true)
    (hafter : ∀ c ∈ after, isBlank c = true) : parse (before ++ (raw ++ after)) = parse raw := by
  rw [parse, parse, trim_append hbefore hafter]

/-- A number in an attribute is read as what it denotes between the white space around it, and
exactly the blank texts, the names and the decimals are read as numbers. -/
theorem parse_denotes (raw : List Char) :
    IsTrimmed raw (trim raw) ∧ (∀ v, parse raw = some v ↔ Denotes (trim raw) v) ∧
      ((parse raw).isSome = true ↔
        trim raw = [] ∨ IsName (trim raw) ∨ IsDecimal isAsciiDigit (trim raw)) ∧
      ∀ before after, (∀ c ∈ before, isBlank c = true) → (∀ c ∈ after, isBlank c = true) →
        parse (before ++ (raw ++ after)) = parse raw := by
  refine ⟨isTrimmed_trim raw, fun v => parse_eq_some_iff_denotes raw, ?_, fun _ _ => parse_congr⟩
  rw [Option.isSome_iff_exists, ← exists_denotes_iff]
  simp only [parse_eq_some_iff_denotes]

/-- A negative number far below the least one, between an ideographic space and a line break. -/
theorem parse_denotes_negative_zero :
    (∀ c ∈ ['\u3000'], isBlank c = true) ∧ (∀ c ∈ ['\n'], isBlank c = true) ∧
      parse (['\u3000'] ++ ("-1e-2000".toList ++ ['\n'])) = parse "-1e-2000".toList ∧
      Denotes "-1e-2000".toList (ofMagnitude true 0) := by
  have hbefore : ∀ c ∈ ['\u3000'], isBlank c = true := List.forall_mem_singleton.2 rfl
  have hafter : ∀ c ∈ ['\n'], isBlank c = true := List.forall_mem_singleton.2 rfl
  obtain ⟨-, hdenotes, -, haround⟩ := parse_denotes "-1e-2000".toList
  exact ⟨hbefore, hafter, haround _ _ hbefore hafter, (hdenotes _).1 rfl⟩

end ShapeCoords.Number
