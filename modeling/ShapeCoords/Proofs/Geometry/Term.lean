import ShapeCoords.Geometry.Shift
import ShapeCoords.Proofs.Number.Grammar

/-!
The grammar of the term `translate(tx, ty)`, and that a term is recognised exactly where one starts.
-/

namespace ShapeCoords.Shift

open Number (IsDecimal IsDecimalChar IsExponent IsMantissa IsSign Unsigned)
open Text

/-- A term with the texts of its two numbers. The numbers may be written in digits of any script,
and there may be white space around them. -/
inductive IsTerm (dx dy : List Char) : List Char → Prop where
  | mk {a b c d : List Char} (ha : allBlank a = true) (hdx : IsDecimal isDecimalDigit dx)
      (hb : allBlank b = true) (hc : allBlank c = true) (hdy : IsDecimal isDecimalDigit dy)
      (hd : allBlank d = true) :
      IsTerm dx dy ("translate(".toList ++ (a ++ (dx ++ (b ++ ',' :: (c ++ (dy ++ (d ++ [')'])))))))

/-! Digits and white space -/

def blankCodes : List Nat :=
  [0x9, 0xa, 0xb, 0xc, 0xd, 0x20, 0x85, 0xa0, 0x1680, 0x2000, 0x2001, 0x2002, 0x2003, 0x2004,
    0x2005, 0x2006, 0x2007, 0x2008, 0x2009, 0x200a, 0x2028, 0x2029, 0x202f, 0x205f, 0x3000]

theorem mem_blankCodes {c : Char} (h : isBlank c = true) : c.toNat ∈ blankCodes := by
  simp only [isBlank, Bool.or_eq_true, Bool.and_eq_true, decide_eq_true_eq, beq_iff_eq] at h
  simp only [blankCodes, List.mem_cons, List.not_mem_nil, or_false]
  omega

theorem isDecimalDigit_of_isBlank {c : Char} (h : isBlank c = true) : isDecimalDigit c = false := by
  have hcodes : ∀ n ∈ blankCodes, (digitZeros.any fun z => z ≤ n && n ≤ z + 9) = false := by
    decide
  exact hcodes _ (mem_blankCodes h)

theorem not_isDecimalChar_of_isBlank {c : Char} (h : isBlank c = true) :
    ¬ IsDecimalChar isDecimalDigit c := by
  rintro (hdigit | hmark)
  · rw [isDecimalDigit_of_isBlank h] at hdigit
    cases hdigit
  · have hmarks : ['+', '-', '.', 'e', 'E'].any isBlank = false := by decide
    rw [List.any_eq_false] at hmarks
    exact hmarks c hmark h

def EndsDecimal (t : List Char) : Prop :=
  ∀ c ∈ t.head?, ¬ IsDecimalChar isDecimalDigit c

theorem endsDecimal_blank {w t : List Char} {c : Char} (hw : allBlank w = true)
    (hc : ¬ IsDecimalChar isDecimalDigit c) : EndsDecimal (w ++ c :: t) := by
  intro d hd
  cases w with
  | nil =>
      cases hd
      exact hc
  | cons b w =>
      cases hd
      exact not_isDecimalChar_of_isBlank (List.all_eq_true.1 hw _ List.mem_cons_self)

/-- White space ends where a number starts. -/
theorem trimStart_decimal {w n : List Char} (hw : allBlank w = true)
    (hn : IsDecimal isDecimalDigit n) (t : List Char) : trimStart (w ++ (n ++ t)) = n ++ t := by
  refine dropWhile_run (List.all_eq_true.1 hw) fun c hc => ?_
  obtain ⟨d, u, rfl⟩ := List.exists_cons_of_ne_nil hn.ne_nil
  cases hc
  have hchar := hn.isDecimalChar List.mem_cons_self
  exact Bool.eq_false_iff.2 fun hblank => not_isDecimalChar_of_isBlank hblank hchar

/-! Numbers -/

section Numbers

variable {s t n sign mantissa exponent : List Char}

theorem takeSignText_append (h : IsSign sign) (ht : Unsigned t) :
    takeSignText (sign ++ t) = (sign, t) := by
  cases h with
  | plus => rfl
  | minus => rfl
  | none =>
      rw [List.nil_append]
      unfold takeSignText
      split
      · exact absurd rfl (ht '+' rfl).1
      · exact absurd rfl (ht '-' rfl).2
      · rfl

theorem of_takeSignText (h : takeSignText s = (sign, t)) : IsSign sign ∧ s = sign ++ t := by
  unfold takeSignText at h
  split at h
  · cases h
    exact ⟨.plus, rfl⟩
  · cases h
    exact ⟨.minus, rfl⟩
  · cases h
    exact ⟨.none, rfl⟩

theorem takeMantissaText_append (h : IsMantissa isDecimalDigit mantissa)
    (ht : EndsRun isDecimalDigit t) (hpoint : t.head? ≠ some '.') :
    takeMantissaText (mantissa ++ t) = some (mantissa, t) := by
  rw [takeMantissaText]
  cases h with
  | whole hs hne =>
      rw [takeWhile_run hs ht, dropWhile_run hs ht]
      dsimp only
      split
      · exact absurd rfl hne
      · exact absurd rfl hne
      · exact absurd rfl hpoint
      · rfl
  | @point whole fraction hs hne hfraction =>
      have hend : EndsRun isDecimalDigit ('.' :: fraction ++ t) := .cons (by decide) _
      rw [List.append_assoc, takeWhile_run hs hend, dropWhile_run hs hend]
      obtain ⟨c, u, rfl⟩ := List.exists_cons_of_ne_nil hne
      change some (c :: u ++ '.' :: (fraction ++ t).takeWhile isDecimalDigit,
        (fraction ++ t).dropWhile isDecimalDigit) = _
      rw [takeWhile_run hfraction ht, dropWhile_run hfraction ht]
  | @fraction fraction hfraction hne =>
      have hpoint : isDecimalDigit '.' = false := by decide
      rw [List.cons_append, List.takeWhile_cons_of_neg (by rw [hpoint]; exact Bool.false_ne_true),
        List.dropWhile_cons_of_neg (by rw [hpoint]; exact Bool.false_ne_true)]
      change (if ((fraction ++ t).takeWhile isDecimalDigit).isEmpty then none
        else some ('.' :: (fraction ++ t).takeWhile isDecimalDigit,
          (fraction ++ t).dropWhile isDecimalDigit)) = _
      rw [takeWhile_run hfraction ht, dropWhile_run hfraction ht,
        List.isEmpty_eq_false_iff.2 hne, if_neg Bool.false_ne_true]

theorem of_takeMantissaText (h : takeMantissaText s = some (mantissa, t)) :
    IsMantissa isDecimalDigit mantissa ∧ s = mantissa ++ t := by
  have hdigits (u : List Char) : ∀ c ∈ u.takeWhile isDecimalDigit, isDecimalDigit c = true :=
    fun c hc => List.mem_takeWhile_imp hc
  have hcut (u : List Char) : u = u.takeWhile isDecimalDigit ++ u.dropWhile isDecimalDigit :=
    List.takeWhile_append_dropWhile.symm
  have hall := hdigits s
  have hs := hcut s
  rw [takeMantissaText] at h
  generalize s.takeWhile isDecimalDigit = whole at h hall hs
  generalize s.dropWhile isDecimalDigit = rest at h hs
  dsimp only at h
  split at h
  · next r =>
    split at h
    · cases h
    · next hne =>
      cases h
      refine ⟨.fraction (hdigits r) (by simpa using hne), ?_⟩
      rw [hs, List.nil_append, List.cons_append, ← hcut r]
  · cases h
  · next r hne =>
    cases h
    refine ⟨.point hall hne (hdigits r), ?_⟩
    rw [hs, List.append_assoc, List.cons_append, ← hcut r]
  · next hne _ _ =>
    cases h
    exact ⟨.whole hall hne, hs⟩

theorem takeExponentText_append (h : IsExponent isDecimalDigit exponent) (ht : EndsDecimal t) :
    takeExponentText (exponent ++ t) = (exponent, t) := by
  cases h with
  | none =>
      cases t with
      | nil => rfl
      | cons c t =>
          have hmark : ¬ (c = 'e' ∨ c = 'E') := by
            rintro (rfl | rfl) <;> exact ht _ rfl (.inr (by decide))
          rw [List.nil_append, takeExponentText, if_neg hmark]
  | @marked mark sign digits hmark hsign hs hne =>
      have hend : EndsRun isDecimalDigit t := fun c hc =>
        Bool.eq_false_iff.2 fun hdigit => ht c hc (.inl hdigit)
      have hunsigned : Unsigned (digits ++ t) :=
        Number.unsigned_of_digits (by decide) (by decide) hs hne t
      rw [List.cons_append, List.append_assoc, takeExponentText, if_pos hmark,
        takeSignText_append hsign hunsigned]
      dsimp only
      rw [takeWhile_run hs hend, dropWhile_run hs hend, List.isEmpty_eq_false_iff.2 hne,
        if_neg Bool.false_ne_true, List.cons_append]

theorem of_takeExponentText (h : takeExponentText s = (exponent, t)) :
    IsExponent isDecimalDigit exponent ∧ s = exponent ++ t := by
  cases s with
  | nil =>
      cases h
      exact ⟨.none, rfl⟩
  | cons mark s =>
      rw [takeExponentText] at h
      split at h
      · next hmark =>
        obtain ⟨⟨sign, r⟩, htake⟩ : ∃ x, takeSignText s = x := ⟨_, rfl⟩
        obtain ⟨hsign, rfl⟩ := of_takeSignText htake
        rw [htake] at h
        dsimp only at h
        split at h
        · cases h
          exact ⟨.none, rfl⟩
        · next hne =>
          cases h
          refine ⟨.marked hmark hsign (fun c hc => List.mem_takeWhile_imp hc) (by simpa using hne),
            ?_⟩
          rw [List.cons_append, List.cons_append, List.append_assoc,
            List.takeWhile_append_dropWhile]
      · cases h
        exact ⟨.none, rfl⟩

/-- What may stand behind a number may stand behind its mantissa, and so may its exponent. -/
theorem ends_mantissa (h : IsExponent isDecimalDigit exponent) (ht : EndsDecimal t) :
    EndsRun isDecimalDigit (exponent ++ t) ∧ (exponent ++ t).head? ≠ some '.' := by
  cases h with
  | none =>
      exact ⟨fun c hc => Bool.eq_false_iff.2 fun hdigit => ht c hc (.inl hdigit),
        fun hpoint => ht '.' hpoint (.inr (by decide))⟩
  | marked hmark =>
      rcases hmark with rfl | rfl <;>
        exact ⟨.cons (by decide) _, fun h => absurd (Option.some.inj h) (by decide)⟩

/-- A number is split off whole, and nothing more. -/
theorem takeNumberText_append (h : IsDecimal isDecimalDigit n) (ht : EndsDecimal t) :
    takeNumberText (n ++ t) = some (n, t) := by
  cases h with
  | @mk sign mantissa exponent hsign hmantissa hexponent =>
      obtain ⟨hend, hpoint⟩ := ends_mantissa hexponent ht
      rw [takeNumberText, List.append_assoc, List.append_assoc,
        takeSignText_append hsign (hmantissa.unsigned (by decide) (by decide) _)]
      dsimp only
      rw [takeMantissaText_append hmantissa hend hpoint, Option.map_some]
      dsimp only
      rw [takeExponentText_append hexponent ht, List.append_assoc]

theorem of_takeNumberText (h : takeNumberText s = some (n, t)) :
    IsDecimal isDecimalDigit n ∧ s = n ++ t := by
  obtain ⟨⟨sign, r⟩, hsigned⟩ : ∃ x, takeSignText s = x := ⟨_, rfl⟩
  obtain ⟨hsign, rfl⟩ := of_takeSignText hsigned
  rw [takeNumberText, hsigned, Option.map_eq_some_iff] at h
  obtain ⟨⟨mantissa, r'⟩, htake, h⟩ := h
  obtain ⟨hmantissa, rfl⟩ := of_takeMantissaText htake
  obtain ⟨⟨exponent, r''⟩, hmarked⟩ : ∃ x, takeExponentText r' = x := ⟨_, rfl⟩
  obtain ⟨hexponent, rfl⟩ := of_takeExponentText hmarked
  dsimp only at h
  rw [hmarked] at h
  cases h
  rw [List.append_assoc]
  exact ⟨.mk hsign hmantissa hexponent, by simp only [List.append_assoc]⟩

end Numbers

/-! Terms -/

section Terms

variable {s t dx dy term : List Char} {c : Char}

theorem takeMark_eq_some_iff (hc : isBlank c = false) :
    takeMark c s = some t ↔ ∃ w, allBlank w = true ∧ s = w ++ c :: t := by
  constructor
  · intro h
    have hcut := List.takeWhile_append_dropWhile (p := isBlank) (l := s)
    rw [takeMark, trimStart] at h
    split at h
    · next d r hr =>
      split at h
      · next hd =>
        cases h
        subst hd
        rw [hr] at hcut
        exact ⟨_, List.all_eq_true.2 fun c hc => List.mem_takeWhile_imp hc, hcut.symm⟩
      · cases h
    · cases h
  · rintro ⟨w, hw, rfl⟩
    have htrim : trimStart (w ++ c :: t) = c :: t :=
      dropWhile_run (List.all_eq_true.1 hw) (.cons hc t)
    rw [takeMark, htrim]
    dsimp only
    rw [if_pos rfl]

/-- A number behind white space. -/
theorem takeNumberText_trimStart {n : List Char} (h : takeNumberText (trimStart s) = some (n, t)) :
    ∃ w, allBlank w = true ∧ IsDecimal isDecimalDigit n ∧ s = w ++ (n ++ t) := by
  obtain ⟨hn, hs⟩ := of_takeNumberText h
  have hcut := List.takeWhile_append_dropWhile (p := isBlank) (l := s)
  rw [trimStart] at hs
  rw [hs] at hcut
  exact ⟨_, List.all_eq_true.2 fun c hc => List.mem_takeWhile_imp hc, hn, hcut.symm⟩

theorem matchHere_append (h : IsTerm dx dy term) (t : List Char) :
    matchHere (term ++ t) = some (dx, dy) := by
  cases h with
  | @mk a b c d ha hdx hb hc hdy hd =>
      have hmark (m : Char) (hm : m = ',' ∨ m = ')') : ¬ IsDecimalChar isDecimalDigit m := by
        rcases hm with rfl | rfl <;>
          · rintro (hdigit | hmem)
            · exact absurd hdigit (by decide)
            · exact absurd hmem (by decide)
      rw [matchHere]
      simp only [List.append_assoc, List.cons_append, List.nil_append, Option.bind_eq_bind]
      rw [dropWord_append, Option.bind_some, trimStart_decimal ha hdx,
        takeNumberText_append hdx (endsDecimal_blank hb (hmark ',' (.inl rfl))), Option.bind_some]
      dsimp only
      rw [(takeMark_eq_some_iff (by decide)).2 ⟨b, hb, rfl⟩, Option.bind_some,
        trimStart_decimal hc hdy,
        takeNumberText_append hdy (endsDecimal_blank hd (hmark ')' (.inr rfl))), Option.bind_some]
      dsimp only
      rw [(takeMark_eq_some_iff (by decide)).2 ⟨d, hd, rfl⟩]
      rfl

/-- A term is recognised exactly where one starts. -/
theorem matchHere_eq_some_iff :
    matchHere s = some (dx, dy) ↔ ∃ term t, IsTerm dx dy term ∧ s = term ++ t := by
  constructor
  · intro h
    rw [matchHere] at h
    obtain ⟨s₁, hword, h⟩ := Option.bind_eq_some_iff.1 h
    obtain ⟨⟨dx', s₂⟩, hfirst, h⟩ := Option.bind_eq_some_iff.1 h
    obtain ⟨s₃, hcomma, h⟩ := Option.bind_eq_some_iff.1 h
    obtain ⟨⟨dy', s₄⟩, hsecond, h⟩ := Option.bind_eq_some_iff.1 h
    obtain ⟨s₅, hparenthesis, h⟩ := Option.bind_eq_some_iff.1 h
    cases h
    obtain ⟨a, ha, hdx, rfl⟩ := takeNumberText_trimStart hfirst
    obtain ⟨b, hb, rfl⟩ := (takeMark_eq_some_iff (by decide)).1 hcomma
    obtain ⟨c, hc, hdy, rfl⟩ := takeNumberText_trimStart hsecond
    obtain ⟨d, hd, rfl⟩ := (takeMark_eq_some_iff (by decide)).1 hparenthesis
    refine ⟨_, s₅, .mk ha hdx hb hc hdy hd, ?_⟩
    rw [eq_append_of_dropWord hword]
    simp only [List.append_assoc, List.cons_append, List.nil_append]
  · rintro ⟨term, t, hterm, rfl⟩
    exact matchHere_append hterm t

end Terms

end ShapeCoords.Shift
