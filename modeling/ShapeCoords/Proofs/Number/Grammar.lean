import Mathlib.Data.List.TakeWhile
import ShapeCoords.Number.Reading
import ShapeCoords.Proofs.Number.Digits
import ShapeCoords.Proofs.Text.Runs

/-!
The grammar of decimal numbers, for any choice of the characters that count as digits. With the
ASCII digits it has exactly the texts that have a value.
-/

namespace ShapeCoords.Number

open Text

inductive IsSign : List Char → Prop where
  | none : IsSign []
  | plus : IsSign ['+']
  | minus : IsSign ['-']

section Grammar

variable (digit : Char → Bool)

/-- Digits with an optional point and further digits, or a point followed by digits. -/
inductive IsMantissa : List Char → Prop where
  | whole {s : List Char} (hs : ∀ c ∈ s, digit c = true) (hne : s ≠ []) : IsMantissa s
  | point {s t : List Char} (hs : ∀ c ∈ s, digit c = true) (hne : s ≠ [])
      (ht : ∀ c ∈ t, digit c = true) : IsMantissa (s ++ '.' :: t)
  | fraction {t : List Char} (ht : ∀ c ∈ t, digit c = true) (hne : t ≠ []) :
      IsMantissa ('.' :: t)

/-- Nothing, or a mark with an optional sign and at least one digit. -/
inductive IsExponent : List Char → Prop where
  | none : IsExponent []
  | marked {mark : Char} {sign s : List Char} (hmark : mark = 'e' ∨ mark = 'E')
      (hsign : IsSign sign) (hs : ∀ c ∈ s, digit c = true) (hne : s ≠ []) :
      IsExponent (mark :: (sign ++ s))

inductive IsDecimal : List Char → Prop where
  | mk {sign mantissa exponent : List Char} (hsign : IsSign sign)
      (hmantissa : IsMantissa digit mantissa) (hexponent : IsExponent digit exponent) :
      IsDecimal (sign ++ (mantissa ++ exponent))

end Grammar

/-! Other digits -/

section Digits

variable {p q : Char → Bool} {s : List Char}

theorem IsMantissa.of_digits (h : IsMantissa p s) (hq : ∀ c ∈ s, p c = true → q c = true) :
    IsMantissa q s := by
  cases h with
  | whole hs hne => exact .whole (fun c hc => hq c hc (hs c hc)) hne
  | point hs hne ht =>
      exact .point (fun c hc => hq c (List.mem_append_left _ hc) (hs c hc)) hne fun c hc =>
        hq c (List.mem_append_right _ (List.mem_cons_of_mem _ hc)) (ht c hc)
  | fraction ht hne =>
      exact .fraction (fun c hc => hq c (List.mem_cons_of_mem _ hc) (ht c hc)) hne

theorem IsExponent.of_digits (h : IsExponent p s) (hq : ∀ c ∈ s, p c = true → q c = true) :
    IsExponent q s := by
  cases h with
  | none => exact .none
  | marked hmark hsign hs hne =>
      exact .marked hmark hsign (fun c hc =>
        hq c (List.mem_cons_of_mem _ (List.mem_append_right _ hc)) (hs c hc)) hne

theorem IsDecimal.of_digits (h : IsDecimal p s) (hq : ∀ c ∈ s, p c = true → q c = true) :
    IsDecimal q s := by
  obtain ⟨hsign, hmantissa, hexponent⟩ := h
  exact .mk hsign
    (hmantissa.of_digits fun c hc =>
      hq c (List.mem_append_right _ (List.mem_append_left _ hc)))
    (hexponent.of_digits fun c hc =>
      hq c (List.mem_append_right _ (List.mem_append_right _ hc)))

end Digits

/-! The characters of a decimal -/

/-- A digit, or one of the characters between digits. -/
def IsDecimalChar (digit : Char → Bool) (c : Char) : Prop :=
  digit c = true ∨ c ∈ ['+', '-', '.', 'e', 'E']

section Characters

variable {digit : Char → Bool} {s : List Char} {c : Char}

theorem IsSign.isDecimalChar (h : IsSign s) (hc : c ∈ s) : IsDecimalChar digit c := by
  cases h with
  | none => cases hc
  | plus =>
      rw [List.mem_singleton.1 hc]
      exact .inr (by decide)
  | minus =>
      rw [List.mem_singleton.1 hc]
      exact .inr (by decide)

theorem IsMantissa.isDecimalChar (h : IsMantissa digit s) (hc : c ∈ s) :
    IsDecimalChar digit c := by
  have hpoint : IsDecimalChar digit '.' := .inr (by decide)
  cases h with
  | whole hs => exact .inl (hs c hc)
  | point hs _ ht =>
      rcases List.mem_append.1 hc with hc | hc
      · exact .inl (hs c hc)
      · rcases List.mem_cons.1 hc with rfl | hc
        · exact hpoint
        · exact .inl (ht c hc)
  | fraction ht =>
      rcases List.mem_cons.1 hc with rfl | hc
      · exact hpoint
      · exact .inl (ht c hc)

theorem IsExponent.isDecimalChar (h : IsExponent digit s) (hc : c ∈ s) :
    IsDecimalChar digit c := by
  cases h with
  | none => cases hc
  | marked hmark hsign hs =>
      rcases List.mem_cons.1 hc with rfl | hc
      · rcases hmark with rfl | rfl <;> exact .inr (by decide)
      · rcases List.mem_append.1 hc with hc | hc
        · exact hsign.isDecimalChar hc
        · exact .inl (hs c hc)

theorem IsDecimal.isDecimalChar (h : IsDecimal digit s) (hc : c ∈ s) : IsDecimalChar digit c := by
  obtain ⟨hsign, hmantissa, hexponent⟩ := h
  rcases List.mem_append.1 hc with hc | hc
  · exact hsign.isDecimalChar hc
  · rcases List.mem_append.1 hc with hc | hc
    · exact hmantissa.isDecimalChar hc
    · exact hexponent.isDecimalChar hc

/-- A mantissa starts with a digit or a point. -/
theorem IsMantissa.exists_eq_cons (h : IsMantissa digit s) :
    ∃ c t, s = c :: t ∧ (digit c = true ∨ c = '.') := by
  cases h with
  | whole hs hne =>
      obtain ⟨c, t, rfl⟩ := List.exists_cons_of_ne_nil hne
      exact ⟨c, t, rfl, .inl (hs c List.mem_cons_self)⟩
  | @point s t hs hne ht =>
      obtain ⟨c, u, rfl⟩ := List.exists_cons_of_ne_nil hne
      exact ⟨c, u ++ '.' :: t, rfl, .inl (hs c List.mem_cons_self)⟩
  | @fraction t ht hne => exact ⟨'.', t, rfl, .inr rfl⟩

theorem IsDecimal.ne_nil (h : IsDecimal digit s) : s ≠ [] := by
  obtain ⟨hsign, hmantissa, hexponent⟩ := h
  obtain ⟨c, t, rfl, -⟩ := hmantissa.exists_eq_cons
  simp

end Characters

/-! Reading -/

section Reading

variable {s t sign mantissa exponent : List Char}

/-- No sign stands at the front of a text. -/
def Unsigned (s : List Char) : Prop :=
  ∀ c ∈ s.head?, c ≠ '+' ∧ c ≠ '-'

theorem unsigned_of_digits {digit : Char → Bool} (hplus : digit '+' = false)
    (hminus : digit '-' = false) (hs : ∀ c ∈ s, digit c = true) (hne : s ≠ []) (t : List Char) :
    Unsigned (s ++ t) := by
  obtain ⟨c, u, rfl⟩ := List.exists_cons_of_ne_nil hne
  intro d hd
  cases hd
  have hc := hs c List.mem_cons_self
  constructor
  · rintro rfl
    rw [hplus] at hc
    cases hc
  · rintro rfl
    rw [hminus] at hc
    cases hc

theorem IsMantissa.unsigned {digit : Char → Bool} (hplus : digit '+' = false)
    (hminus : digit '-' = false) (h : IsMantissa digit mantissa) (t : List Char) :
    Unsigned (mantissa ++ t) := by
  cases h with
  | whole hs hne => exact unsigned_of_digits hplus hminus hs hne t
  | point hs hne =>
      rw [List.append_assoc]
      exact unsigned_of_digits hplus hminus hs hne _
  | fraction =>
      intro c hc
      cases hc
      decide

def isMinus (sign : List Char) : Bool :=
  sign == ['-']

theorem takeSign_append (h : IsSign sign) (ht : Unsigned t) :
    takeSign (sign ++ t) = (isMinus sign, t) := by
  cases h with
  | plus => rfl
  | minus => rfl
  | none =>
      rw [List.nil_append]
      unfold takeSign
      split
      · exact absurd rfl (ht '-' rfl).2
      · exact absurd rfl (ht '+' rfl).1
      · rfl

theorem of_takeSign {negative : Bool} (h : takeSign s = (negative, t)) :
    ∃ sign, IsSign sign ∧ isMinus sign = negative ∧ s = sign ++ t := by
  unfold takeSign at h
  split at h
  · cases h
    exact ⟨['-'], .minus, rfl, rfl⟩
  · cases h
    exact ⟨['+'], .plus, rfl, rfl⟩
  · cases h
    exact ⟨[], .none, rfl, rfl⟩

/-! Exponents -/

inductive HasExponent : List Char → Int → Prop where
  | none : HasExponent [] 0
  | marked {mark : Char} {sign s : List Char} (hmark : mark = 'e' ∨ mark = 'E')
      (hsign : IsSign sign) (hs : ∀ c ∈ s, isAsciiDigit c = true) (hne : s ≠ []) :
      HasExponent (mark :: (sign ++ s)) (if isMinus sign then -digitsValue s else digitsValue s)

theorem readExponent_eq_some_iff {e : Int} : readExponent s = some e ↔ HasExponent s e := by
  constructor
  · intro h
    cases s with
    | nil =>
        cases h
        exact .none
    | cons mark s =>
        rw [readExponent] at h
        split at h
        · next hmark =>
          obtain ⟨⟨negative, digits⟩, htake⟩ : ∃ x, takeSign s = x := ⟨_, rfl⟩
          obtain ⟨sign, hsign, rfl, rfl⟩ := of_takeSign htake
          rw [htake] at h
          dsimp only at h
          split at h
          · cases h
          · next hdigits =>
            cases h
            rw [Bool.or_eq_true, not_or, Bool.not_eq_true, Bool.not_eq_true',
              Bool.not_eq_false] at hdigits
            exact .marked hmark hsign (List.all_eq_true.1 hdigits.2)
              (List.isEmpty_eq_false_iff.1 hdigits.1)
        · cases h
  · intro h
    cases h with
    | none => rfl
    | marked hmark hsign hs hne =>
        have hunsigned := unsigned_of_digits rfl rfl hs hne []
        rw [List.append_nil] at hunsigned
        rw [readExponent, if_pos hmark, takeSign_append hsign hunsigned]
        dsimp only
        rw [List.all_eq_true.2 hs, List.isEmpty_eq_false_iff.2 hne]
        rfl

theorem exists_hasExponent_iff : (∃ e, HasExponent s e) ↔ IsExponent isAsciiDigit s := by
  constructor
  · rintro ⟨e, h⟩
    cases h with
    | none => exact .none
    | marked hmark hsign hs hne => exact .marked hmark hsign hs hne
  · intro h
    cases h with
    | none => exact ⟨_, .none⟩
    | marked hmark hsign hs hne => exact ⟨_, .marked hmark hsign hs hne⟩

/-- No exponent goes on with the digits in front of it. -/
theorem IsExponent.endsRun {digit : Char → Bool} (hmark : digit 'e' = false)
    (hmark' : digit 'E' = false) (h : IsExponent digit exponent) : EndsRun digit exponent := by
  cases h with
  | none => exact .nil
  | marked he =>
      rcases he with rfl | rfl
      · exact .cons hmark _
      · exact .cons hmark' _

theorem IsExponent.head?_ne_point {digit : Char → Bool} (h : IsExponent digit exponent) :
    exponent.head? ≠ some '.' := by
  cases h with
  | none => exact fun h => nomatch h
  | marked he =>
      rcases he with rfl | rfl <;>
        exact fun h => absurd (Option.some.inj h) (by decide)

/-! Mantissas -/

/-- The digits of a mantissa before its point and behind it. -/
inductive HasParts : List Char → List Char → List Char → Prop where
  | whole {whole : List Char} (hne : whole ≠ []) : HasParts whole whole []
  | point {whole fraction : List Char} (hne : whole ++ fraction ≠ []) :
      HasParts (whole ++ '.' :: fraction) whole fraction

section Mantissas

variable {whole fraction : List Char}

theorem HasParts.isMantissa (h : HasParts mantissa whole fraction)
    (hwhole : ∀ c ∈ whole, isAsciiDigit c = true)
    (hfraction : ∀ c ∈ fraction, isAsciiDigit c = true) : IsMantissa isAsciiDigit mantissa := by
  cases h with
  | whole hne => exact .whole hwhole hne
  | point hne =>
      rcases eq_or_ne whole [] with rfl | hwhole'
      · exact .fraction hfraction hne
      · exact .point hwhole hwhole' hfraction

theorem exists_hasParts (h : IsMantissa isAsciiDigit mantissa) :
    ∃ whole fraction, HasParts mantissa whole fraction ∧
      (∀ c ∈ whole, isAsciiDigit c = true) ∧ ∀ c ∈ fraction, isAsciiDigit c = true := by
  cases h with
  | whole hs hne => exact ⟨_, [], .whole hne, hs, fun _ h => absurd h List.not_mem_nil⟩
  | point hs hne ht => exact ⟨_, _, .point (by simp [hne]), hs, ht⟩
  | @fraction t ht hne =>
      have hparts : HasParts ([] ++ '.' :: t) [] t := .point hne
      exact ⟨[], t, hparts, fun _ h => absurd h List.not_mem_nil, ht⟩

theorem HasParts.isEmpty_eq_false (h : HasParts mantissa whole fraction) :
    (whole.isEmpty && fraction.isEmpty) = false := by
  cases h with
  | whole hne => rw [List.isEmpty_eq_false_iff.2 hne, Bool.false_and]
  | point hne =>
      rw [Bool.and_eq_false_iff, List.isEmpty_eq_false_iff, List.isEmpty_eq_false_iff]
      by_contra hempty
      rw [not_or, not_not, not_not] at hempty
      exact hne (by rw [hempty.1, hempty.2, List.nil_append])

theorem takeMantissa_append (h : HasParts mantissa whole fraction)
    (hwhole : ∀ c ∈ whole, isAsciiDigit c = true)
    (hfraction : ∀ c ∈ fraction, isAsciiDigit c = true) (ht : EndsRun isAsciiDigit t)
    (hpoint : t.head? ≠ some '.') : takeMantissa (mantissa ++ t) = (whole, fraction, t) := by
  cases h with
  | whole =>
      rw [takeMantissa, takeWhile_run hwhole ht, dropWhile_run hwhole ht]
      split
      · exact absurd rfl hpoint
      · rfl
  | point =>
      have hend : EndsRun isAsciiDigit ('.' :: fraction ++ t) := .cons rfl _
      rw [List.append_assoc, takeMantissa, takeWhile_run hwhole hend, dropWhile_run hwhole hend]
      change (whole, (fraction ++ t).takeWhile isAsciiDigit, (fraction ++ t).dropWhile _) = _
      rw [takeWhile_run hfraction ht, dropWhile_run hfraction ht]

theorem of_takeMantissa (h : takeMantissa s = (whole, fraction, t))
    (hne : (whole.isEmpty && fraction.isEmpty) = false) :
    (∃ mantissa, HasParts mantissa whole fraction ∧ s = mantissa ++ t) ∧
      (∀ c ∈ whole, isAsciiDigit c = true) ∧ ∀ c ∈ fraction, isAsciiDigit c = true := by
  have hdigits (u : List Char) : ∀ c ∈ u.takeWhile isAsciiDigit, isAsciiDigit c = true :=
    fun c hc => List.mem_takeWhile_imp hc
  have hcut := List.takeWhile_append_dropWhile (p := isAsciiDigit) (l := s)
  rw [takeMantissa] at h
  split at h
  · next r hr =>
    rw [Prod.mk.injEq, Prod.mk.injEq] at h
    obtain ⟨rfl, rfl, rfl⟩ := h
    have hrest := List.takeWhile_append_dropWhile (p := isAsciiDigit) (l := r)
    rw [hr] at hcut
    refine ⟨⟨_, .point ?_, ?_⟩, hdigits s, hdigits r⟩
    · intro hempty
      rw [List.append_eq_nil_iff] at hempty
      rw [hempty.1, hempty.2] at hne
      cases hne
    · rw [List.append_assoc, List.cons_append, hrest, hcut]
  · rw [Prod.mk.injEq, Prod.mk.injEq] at h
    obtain ⟨rfl, rfl, rfl⟩ := h
    rw [List.isEmpty_nil, Bool.and_true] at hne
    exact ⟨⟨_, .whole (List.isEmpty_eq_false_iff.1 hne), hcut.symm⟩, hdigits s,
      fun _ h => absurd h List.not_mem_nil⟩

end Mantissas

/-! Decimals -/

/-- The decimal that a text stands for. -/
inductive HasDecimal : List Char → Decimal → Prop where
  | mk {sign mantissa exponent whole fraction : List Char} {e : Int} (hsign : IsSign sign)
      (hparts : HasParts mantissa whole fraction)
      (hwhole : ∀ c ∈ whole, isAsciiDigit c = true)
      (hfraction : ∀ c ∈ fraction, isAsciiDigit c = true) (hexponent : HasExponent exponent e) :
      HasDecimal (sign ++ (mantissa ++ exponent))
        ⟨isMinus sign, digitsValue (whole ++ fraction), e - fraction.length⟩

theorem readDecimal_eq_some_iff {d : Decimal} : readDecimal s = some d ↔ HasDecimal s d := by
  constructor
  · intro h
    obtain ⟨⟨negative, r⟩, htake⟩ : ∃ x, takeSign s = x := ⟨_, rfl⟩
    obtain ⟨⟨whole, fraction, exponent⟩, hmantissa⟩ : ∃ x, takeMantissa r = x := ⟨_, rfl⟩
    rw [readDecimal, htake] at h
    dsimp only at h
    rw [hmantissa] at h
    dsimp only at h
    split at h
    · cases h
    · next hne =>
      obtain ⟨e, he, rfl⟩ := Option.map_eq_some_iff.1 h
      obtain ⟨sign, hsign, rfl, rfl⟩ := of_takeSign htake
      obtain ⟨⟨mantissa, hparts, rfl⟩, hwhole, hfraction⟩ :=
        of_takeMantissa hmantissa (by simpa using hne)
      exact .mk hsign hparts hwhole hfraction (readExponent_eq_some_iff.1 he)
  · rintro ⟨hsign, hparts, hwhole, hfraction, hexponent⟩
    have hmantissa := hparts.isMantissa hwhole hfraction
    have hends := exists_hasExponent_iff.1 ⟨_, hexponent⟩
    rw [readDecimal, takeSign_append hsign (hmantissa.unsigned rfl rfl _)]
    dsimp only
    rw [takeMantissa_append hparts hwhole hfraction (hends.endsRun rfl rfl) hends.head?_ne_point]
    dsimp only
    rw [hparts.isEmpty_eq_false, if_neg Bool.false_ne_true, readExponent_eq_some_iff.2 hexponent]
    rfl

/-- Texts that are read as a decimal. -/
theorem isSome_readDecimal_iff : (readDecimal s).isSome = true ↔ IsDecimal isAsciiDigit s := by
  rw [Option.isSome_iff_exists]
  simp only [readDecimal_eq_some_iff]
  constructor
  · rintro ⟨d, hsign, hparts, hwhole, hfraction, hexponent⟩
    exact .mk hsign (hparts.isMantissa hwhole hfraction) (exists_hasExponent_iff.1 ⟨_, hexponent⟩)
  · rintro ⟨hsign, hmantissa, hexponent⟩
    obtain ⟨whole, fraction, hparts, hwhole, hfraction⟩ := exists_hasParts hmantissa
    obtain ⟨e, he⟩ := exists_hasExponent_iff.2 hexponent
    exact ⟨_, .mk hsign hparts hwhole hfraction he⟩

/-! Names -/

/-- The number of which a text is the name. -/
inductive Names : List Char → Float → Prop where
  | infinite {sign word : List Char} (hsign : IsSign sign)
      (hword : word.map lowerAscii = ['i', 'n', 'f'] ∨
        word.map lowerAscii = ['i', 'n', 'f', 'i', 'n', 'i', 't', 'y']) :
      Names (sign ++ word) (infinity (isMinus sign))
  | undefined {sign word : List Char} (hsign : IsSign sign)
      (hword : word.map lowerAscii = ['n', 'a', 'n']) : Names (sign ++ word) nan

theorem unsigned_of_lowerAscii {c : Char} (h : (s.map lowerAscii).head? = some c)
    (hplus : c ≠ '+') (hminus : c ≠ '-') : Unsigned s := by
  intro d hd
  rw [List.head?_map, Option.mem_def.1 hd] at h
  obtain rfl := Option.some.inj h
  constructor
  · rintro rfl
    exact hplus rfl
  · rintro rfl
    exact hminus rfl

theorem readName_eq_some_iff {v : Float} : readName s = some v ↔ Names s v := by
  constructor
  · intro h
    obtain ⟨⟨negative, word⟩, htake⟩ : ∃ x, takeSign s = x := ⟨_, rfl⟩
    obtain ⟨sign, hsign, rfl, rfl⟩ := of_takeSign htake
    rw [readName, htake] at h
    dsimp only at h
    split at h
    · next hword =>
      cases h
      exact .infinite hsign hword
    · split at h
      · next hword =>
        cases h
        exact .undefined hsign hword
      · cases h
  · intro h
    cases h with
    | @infinite sign word hsign hword =>
        have hunsigned : Unsigned word := by
          rcases hword with hword | hword
          all_goals exact unsigned_of_lowerAscii (by rw [hword]; rfl) (by decide) (by decide)
        rw [readName, takeSign_append hsign hunsigned]
        exact if_pos hword
    | @undefined sign word hsign hword =>
        have hunsigned : Unsigned word :=
          unsigned_of_lowerAscii (by rw [hword]; rfl) (by decide) (by decide)
        rw [readName, takeSign_append hsign hunsigned]
        dsimp only
        rw [hword]
        rfl

theorem eq_or_toNat_of_lowerAscii {c d : Char} (h : lowerAscii c = d) :
    c = d ∨ c.toNat + 32 = d.toNat := by
  rw [lowerAscii] at h
  split at h
  · next hupper =>
    rw [Bool.and_eq_true, decide_eq_true_eq, decide_eq_true_eq] at hupper
    have hmost : c.toNat ≤ 90 := hupper.2
    have hvalid : (c.toNat + 32).isValidChar := .inl (by omega)
    rw [← h, Char.ofNat, dif_pos hvalid]
    exact .inr rfl
  · exact .inl h

/-- No decimal is a name, as long as no digit is one of the characters with which names start. -/
theorem IsDecimal.readName_eq_none {digit : Char → Bool}
    (hdigit : ['+', '-', 'i', 'I', 'n', 'N'].any digit = false) (h : IsDecimal digit s) :
    readName s = none := by
  have hnone (c : Char) (hc : c ∈ ['+', '-', 'i', 'I', 'n', 'N']) : digit c = false :=
    Bool.eq_false_iff.2 (List.any_eq_false.1 hdigit c hc)
  obtain @⟨sign, mantissa, exponent, hsign, hmantissa, hexponent⟩ := h
  have htake := takeSign_append hsign
    (hmantissa.unsigned (hnone _ (by decide)) (hnone _ (by decide)) exponent)
  obtain ⟨c, t, rfl, hc⟩ := hmantissa.exists_eq_cons
  have hother (d upper : Char) (hd : d ∈ ['+', '-', 'i', 'I', 'n', 'N'])
      (hupper : upper ∈ ['+', '-', 'i', 'I', 'n', 'N']) (hcase : upper.toNat + 32 = d.toNat)
      (hpoint : lowerAscii '.' ≠ d) : lowerAscii c ≠ d := by
    rintro heq
    rcases hc with hc | rfl
    · rcases eq_or_toNat_of_lowerAscii heq with rfl | hnat
      · rw [hnone c hd] at hc
        cases hc
      · obtain rfl : c = upper := Char.toNat_inj.1 (by omega)
        rw [hnone c hupper] at hc
        cases hc
    · exact hpoint heq
  have hi : lowerAscii c ≠ 'i' := hother 'i' 'I' (by decide) (by decide) rfl (by decide)
  have hn : lowerAscii c ≠ 'n' := hother 'n' 'N' (by decide) (by decide) rfl (by decide)
  rw [readName, htake]
  simp [hi, hn]

end Reading

end ShapeCoords.Number
