import ShapeCoords.Proofs.Json.Compact

/-!
The compact and the indented text of a value differ only in white space between string literals:
without it the indented text is the compact one, and the compact text has none.
-/

namespace ShapeCoords.Json

open Text (isBlank)

/-! String literals -/

inductive Scan where
  | outside
  /-- In a string literal. -/
  | inside
  /-- In a string literal, behind a backslash. -/
  | escaped
  deriving DecidableEq

def Scan.next : Scan → Char → Scan
  | outside, c => if c = '"' then inside else outside
  | inside, c => if c = '"' then outside else if c = '\\' then escaped else inside
  | escaped, _ => inside

/-- Where a scan stands behind a text. -/
def Scan.behind (at_ : Scan) (s : List Char) : Scan :=
  s.foldl Scan.next at_

/-- The text without the gaps that stand outside string literals. -/
def squeeze (gap : Char → Bool) : Scan → List Char → List Char
  | _, [] => []
  | at_, c :: s =>
    if at_ = .outside ∧ gap c = true then squeeze gap (at_.next c) s
    else c :: squeeze gap (at_.next c) s

/-- The characters that stand outside string literals. -/
def outsideLiterals : Scan → List Char → List Char
  | _, [] => []
  | at_, c :: s =>
    if at_ = .outside then c :: outsideLiterals (at_.next c) s
    else outsideLiterals (at_.next c) s

section Squeezing

variable {gap : Char → Bool} {at_ : Scan} {c : Char} {s t s' t' : List Char}

theorem squeeze_append (gap : Char → Bool) (at_ : Scan) (s t : List Char) :
    squeeze gap at_ (s ++ t) = squeeze gap at_ s ++ squeeze gap (at_.behind s) t := by
  induction s generalizing at_ with
  | nil => rfl
  | cons c s ih =>
      rw [List.cons_append, squeeze, squeeze, ih]
      split <;> rfl

/-- A text that is its own squeezed text has no gap outside its literals. -/
theorem not_gap_of_squeeze_eq_self (h : squeeze gap at_ s = s) :
    ∀ c ∈ outsideLiterals at_ s, gap c = false := by
  have hlength (at_ : Scan) (s : List Char) : (squeeze gap at_ s).length ≤ s.length := by
    induction s generalizing at_ with
    | nil => exact Nat.le_refl 0
    | cons c s ih =>
        rw [squeeze]
        split
        · exact (ih _).trans (Nat.le_succ _)
        · exact Nat.succ_le_succ (ih _)
  induction s generalizing at_ with
  | nil => exact fun _ h => nomatch h
  | cons c s ih =>
      rw [squeeze] at h
      split at h
      · have hle := hlength (at_.next c) s
        rw [h, List.length_cons] at hle
        omega
      · next hkept =>
        have hrest := ih (List.cons_inj_right c |>.1 h)
        rw [outsideLiterals]
        split
        · next houtside =>
          refine List.forall_mem_cons.2 ⟨?_, hrest⟩
          exact Bool.eq_false_iff.2 fun hgap => hkept ⟨houtside, hgap⟩
        · exact hrest

/-- A text of whole tokens, which comes to `t` without its gaps. -/
structure SqueezesTo (gap : Char → Bool) (s t : List Char) : Prop where
  squeeze_eq : squeeze gap .outside s = t
  closed : Scan.outside.behind s = .outside

theorem SqueezesTo.append (h : SqueezesTo gap s t) (h' : SqueezesTo gap s' t') :
    SqueezesTo gap (s ++ s') (t ++ t') := by
  constructor
  · rw [squeeze_append, h.squeeze_eq, h.closed, h'.squeeze_eq]
  · rw [Scan.behind, List.foldl_append]
    exact (congrArg (Scan.behind · s') h.closed).trans h'.closed

theorem squeezesTo_nil : SqueezesTo gap [] [] :=
  ⟨rfl, rfl⟩

/-- Gaps come to nothing. -/
theorem squeezesTo_gaps (hs : ∀ c ∈ s, gap c = true ∧ c ≠ '"') : SqueezesTo gap s [] := by
  induction s with
  | nil => exact squeezesTo_nil
  | cons c s ih =>
      obtain ⟨hc, hs⟩ := List.forall_mem_cons.1 hs
      have hnext : Scan.outside.next c = .outside := if_neg hc.2
      constructor
      · rw [squeeze, if_pos ⟨rfl, hc.1⟩, hnext]
        exact (ih hs).squeeze_eq
      · rw [Scan.behind, List.foldl_cons, hnext]
        exact (ih hs).closed

/-- Other characters stay, as long as no literal begins. -/
theorem squeezesTo_plain (hs : ∀ c ∈ s, gap c = false ∧ c ≠ '"') : SqueezesTo gap s s := by
  induction s with
  | nil => exact squeezesTo_nil
  | cons c s ih =>
      obtain ⟨hc, hs⟩ := List.forall_mem_cons.1 hs
      have hnext : Scan.outside.next c = .outside := if_neg hc.2
      constructor
      · rw [squeeze, if_neg fun h => Bool.false_ne_true (hc.1.symm.trans h.2), hnext,
          (ih hs).squeeze_eq]
      · rw [Scan.behind, List.foldl_cons, hnext]
        exact (ih hs).closed

/-! Strings -/

/-- Characters of a literal: none ends it, and all of them stay. -/
structure StaysInside (gap : Char → Bool) (s : List Char) : Prop where
  squeeze_eq : squeeze gap .inside s = s
  inside : Scan.inside.behind s = .inside

theorem StaysInside.append (h : StaysInside gap s) (h' : StaysInside gap t) :
    StaysInside gap (s ++ t) := by
  constructor
  · rw [squeeze_append, h.squeeze_eq, h.inside, h'.squeeze_eq]
  · rw [Scan.behind, List.foldl_append]
    exact (congrArg (Scan.behind · t) h.inside).trans h'.inside

theorem staysInside_plain (hs : ∀ c ∈ s, c ≠ '"' ∧ c ≠ '\\') : StaysInside gap s := by
  induction s with
  | nil => exact ⟨rfl, rfl⟩
  | cons c s ih =>
      obtain ⟨hc, hs⟩ := List.forall_mem_cons.1 hs
      have hnext : Scan.inside.next c = .inside := by rw [Scan.next, if_neg hc.1, if_neg hc.2]
      constructor
      · rw [squeeze, if_neg fun h => Scan.noConfusion h.1, hnext, (ih hs).squeeze_eq]
      · rw [Scan.behind, List.foldl_cons, hnext]
        exact (ih hs).inside

/-- Behind a backslash any character may stand. -/
theorem staysInside_escaped (gap : Char → Bool) (c : Char) : StaysInside gap ['\\', c] :=
  ⟨rfl, rfl⟩

theorem hexDigitChar_plain :
    ∀ n < 16, Text.hexDigitChar n ≠ '"' ∧ Text.hexDigitChar n ≠ '\\' := by
  decide

theorem staysInside_escape (gap : Char → Bool) (c : Char) : StaysInside gap (escape c) := by
  rw [escape]
  split
  · exact staysInside_escaped gap _
  · next hquote =>
  split
  · exact staysInside_escaped gap _
  · next hbackslash =>
  iterate 5
    split
    · exact staysInside_escaped gap _
  split
  · next hcontrol =>
    refine (staysInside_escaped gap 'u').append (staysInside_plain (s := ['0', '0', _, _]) ?_)
    simp only [List.forall_mem_cons]
    exact ⟨by decide, by decide, hexDigitChar_plain _ (by omega), hexDigitChar_plain _ (by omega),
      fun _ h => absurd h List.not_mem_nil⟩
  · exact staysInside_plain (List.forall_mem_singleton.2 ⟨hquote, hbackslash⟩)

theorem squeezesTo_quoted (hgap : gap '"' = false) (s : String) :
    SqueezesTo gap (quoted s) (quoted s) := by
  have hbody : StaysInside gap (s.toList.flatMap escape) := by
    induction s.toList with
    | nil => exact ⟨rfl, rfl⟩
    | cons c s ih =>
        rw [List.flatMap_cons]
        exact (staysInside_escape gap c).append ih
  -- the first quote begins the literal, and the last one ends it
  have hopen : ¬(Scan.outside = .outside ∧ gap '"' = true) := by simp [hgap]
  constructor
  · rw [quoted, List.cons_append, squeeze, if_neg hopen]
    change '"' :: squeeze gap .inside _ = _
    rw [squeeze_append, hbody.squeeze_eq, hbody.inside]
    rfl
  · rw [quoted, Scan.behind, List.foldl_append, List.foldl_cons]
    change Scan.next (Scan.inside.behind _) '"' = _
    rw [hbody.inside]
    rfl

end Squeezing

/-! Values -/

section Values

/-- Gaps are white space, so no token has one. -/
def IsGap (gap : Char → Bool) : Prop :=
  ∀ c, gap c = true → isBlank c = true

/-- All white space between tokens is a gap. -/
structure Spacing.IsDropped (sp : Spacing) (gap : Char → Bool) : Prop where
  lineBreak : ∀ depth, ∀ c ∈ sp.lineBreak depth, gap c = true
  colonSpace : ∀ c ∈ sp.colonSpace, gap c = true

variable {gap : Char → Bool} {sp : Spacing} {s : List Char}

theorem IsGap.ne_quote (hgap : IsGap gap) {c : Char} (hc : gap c = true) : c ≠ '"' := by
  rintro rfl
  exact Bool.false_ne_true (hgap '"' hc)

theorem IsGap.not_of_not_blank (hgap : IsGap gap) {c : Char} (hc : isBlank c = false) :
    gap c = false :=
  Bool.eq_false_iff.2 fun h => Bool.false_ne_true (hc.symm.trans (hgap c h))

theorem IsGap.squeezesTo_spaces (hgap : IsGap gap) (hs : ∀ c ∈ s, gap c = true) :
    SqueezesTo gap s [] :=
  squeezesTo_gaps fun c hc => ⟨hs c hc, hgap.ne_quote (hs c hc)⟩

theorem IsGap.squeezesTo_token (hgap : IsGap gap)
    (hs : (s.all fun c => !isBlank c && c != '"') = true) : SqueezesTo gap s s := by
  refine squeezesTo_plain fun c hc => ?_
  have hplain := List.all_eq_true.1 hs c hc
  rw [Bool.and_eq_true, Bool.not_eq_true', bne_iff_ne] at hplain
  exact ⟨hgap.not_of_not_blank hplain.1, hplain.2⟩

theorem IsGap.squeezesTo_numeral (hgap : IsGap gap) (hs : ∀ c ∈ s, Number.IsNumeralChar c) :
    SqueezesTo gap s s := by
  refine squeezesTo_plain fun c hc => ?_
  refine ⟨hgap.not_of_not_blank (Number.not_blank_of_isNumeralChar (hs c hc)), ?_⟩
  rintro rfl
  rcases hs '"' hc with h | h | h | h | h <;> exact absurd h (by decide)

theorem IsGap.squeezesTo_numberText (hgap : IsGap gap) (v : Float) :
    SqueezesTo gap (numberText v) (numberText v) := by
  have hnull : SqueezesTo gap "null".toList "null".toList := hgap.squeezesTo_token rfl
  cases hv : Number.value v with
  | finite negative m q =>
      exact hgap.squeezesTo_numeral fun _ => isNumeralChar_of_mem_numberText hv
  | nan =>
      rw [numberText, hv]
      exact hnull
  | infinite negative =>
      rw [numberText, hv]
      exact hnull

theorem IsGap.squeezesTo_closing {α : Type} (hgap : IsGap gap) (hsp : sp.IsDropped gap)
    (depth : Nat) (vs : List α) : SqueezesTo gap (sp.closing depth vs) (dense.closing depth vs) := by
  cases vs with
  | nil => exact squeezesTo_nil
  | cons => exact hgap.squeezesTo_spaces (hsp.lineBreak depth)

theorem IsGap.squeezesTo_separator (hgap : IsGap gap) (first : Bool) :
    SqueezesTo gap (separator first) (separator first) := by
  cases first with
  | true => exact squeezesTo_nil
  | false => exact hgap.squeezesTo_token rfl

mutual

/-- Without its gaps a text is the one that has no white space. -/
theorem squeezesTo_spaced (hgap : IsGap gap) (hsp : sp.IsDropped gap) (depth : Nat) :
    (v : Json) → SqueezesTo gap (v.spaced sp depth) (v.spaced dense depth)
  | null => hgap.squeezesTo_token rfl
  | bool true => hgap.squeezesTo_token rfl
  | bool false => hgap.squeezesTo_token rfl
  | int _ => hgap.squeezesTo_numeral fun _ => Number.isNumeralChar_of_mem_intDigits
  | float v => hgap.squeezesTo_numberText v
  | string s => squeezesTo_quoted (hgap.not_of_not_blank rfl) s
  | array items =>
    (hgap.squeezesTo_token (s := ['[']) rfl).append
      ((squeezesTo_spacedItems hgap hsp (depth + 1) true items).append
        ((hgap.squeezesTo_closing hsp depth items).append (hgap.squeezesTo_token rfl)))
  | object members =>
    (hgap.squeezesTo_token (s := ['\x7b']) rfl).append
      ((squeezesTo_spacedMembers hgap hsp (depth + 1) true members).append
        ((hgap.squeezesTo_closing hsp depth members).append (hgap.squeezesTo_token rfl)))

theorem squeezesTo_spacedItems (hgap : IsGap gap) (hsp : sp.IsDropped gap) (depth : Nat)
    (first : Bool) : (vs : List Json) →
      SqueezesTo gap (spacedItems sp depth first vs) (spacedItems dense depth first vs)
  | [] => squeezesTo_nil
  | v :: vs =>
    (hgap.squeezesTo_separator first).append
      ((hgap.squeezesTo_spaces (hsp.lineBreak depth)).append
        ((squeezesTo_spaced hgap hsp depth v).append
          (squeezesTo_spacedItems hgap hsp depth false vs)))

theorem squeezesTo_spacedMembers (hgap : IsGap gap) (hsp : sp.IsDropped gap) (depth : Nat)
    (first : Bool) : (ms : List (String × Json)) →
      SqueezesTo gap (spacedMembers sp depth first ms) (spacedMembers dense depth first ms)
  | [] => squeezesTo_nil
  | (name, v) :: ms =>
    (hgap.squeezesTo_separator first).append
      ((hgap.squeezesTo_spaces (hsp.lineBreak depth)).append
        ((squeezesTo_quoted (hgap.not_of_not_blank rfl) name).append
          ((hgap.squeezesTo_token (s := [':']) rfl).append
            ((hgap.squeezesTo_spaces hsp.colonSpace).append
              ((squeezesTo_spaced hgap hsp depth v).append
                (squeezesTo_spacedMembers hgap hsp depth false ms))))))

end

end Values

def isSpaceOrBreak (c : Char) : Bool :=
  c == ' ' || c == '\n'

theorem isGap_isSpaceOrBreak : IsGap isSpaceOrBreak := by
  intro c hc
  rw [isSpaceOrBreak, Bool.or_eq_true, beq_iff_eq, beq_iff_eq] at hc
  rcases hc with rfl | rfl <;> rfl

theorem indented_isDropped : indented.IsDropped isSpaceOrBreak where
  lineBreak depth c hc := by
    rcases List.mem_cons.1 hc with rfl | hc
    · rfl
    · rw [List.eq_of_mem_replicate hc]
      rfl
  colonSpace c hc := by
    rw [List.mem_singleton.1 hc]
    rfl

/-- The dense text has no white space at all between its tokens. -/
theorem dense_isDropped (gap : Char → Bool) : dense.IsDropped gap :=
  ⟨fun _ _ h => absurd h List.not_mem_nil, fun _ h => absurd h List.not_mem_nil⟩

/-- The indented text without the spaces and line breaks outside its literals is the compact text.
The compact text has no white space outside its literals, and no line break anywhere. -/
theorem squeeze_pretty_eq_compact (v : Json) :
    squeeze isSpaceOrBreak .outside v.pretty = v.compact ∧
      (∀ c ∈ outsideLiterals .outside v.compact, isBlank c = false) ∧
      NoControls v.compact := by
  have hindented := squeezesTo_spaced isGap_isSpaceOrBreak indented_isDropped 0 v
  have hdense := squeezesTo_spaced (fun _ h => h) (dense_isDropped isBlank) 0 v
  refine ⟨?_, ?_, noControls_compact v⟩
  · rw [pretty, prettyAt_eq_spaced, hindented.squeeze_eq, compact_eq_spaced]
  · rw [compact_eq_spaced 0]
    exact not_gap_of_squeeze_eq_self hdense.squeeze_eq

example : squeeze isSpaceOrBreak .outside "\x7b\n  \"a \\\" b\": [ ]\n\x7d".toList =
    "\x7b\"a \\\" b\":[]\x7d".toList := by decide

end ShapeCoords.Json
