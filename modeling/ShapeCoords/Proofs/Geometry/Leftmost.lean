import ShapeCoords.Proofs.Geometry.Term
import ShapeCoords.Proofs.Number.Notation

/-!
The shift in a transform attribute is that of the leftmost term in it, and nothing else in the
attribute counts.
-/

namespace ShapeCoords.Shift

open Number (IsDecimal IsDecimalChar)
open Text

/-- The leftmost term in a text, between what stands before and behind it. -/
structure IsLeftmost (s before term behind dx dy : List Char) : Prop where
  text_eq : s = before ++ (term ++ behind)
  isTerm : IsTerm dx dy term
  first : ∀ before' term' behind' dx' dy', s = before' ++ (term' ++ behind') →
    IsTerm dx' dy' term' → before.length ≤ before'.length

/-- A term stands somewhere in a text. -/
def HoldsTerm (s : List Char) : Prop :=
  ∃ before term behind dx dy, s = before ++ (term ++ behind) ∧ IsTerm dx dy term

section Search

variable {s before term behind dx dy : List Char} {c : Char}

/-- In front of its leftmost term a text may be cut off. -/
theorem IsLeftmost.of_cons (h : IsLeftmost (c :: s) (c :: before) term behind dx dy) :
    IsLeftmost s before term behind dx dy where
  text_eq := List.cons_inj_right c |>.1 h.text_eq
  isTerm := h.isTerm
  first before' term' behind' dx' dy' hs hterm :=
    Nat.le_of_succ_le_succ
      (h.first (c :: before') term' behind' dx' dy' (congrArg (c :: ·) hs) hterm)

theorem IsLeftmost.cons (h : IsLeftmost s before term behind dx dy)
    (hnone : matchHere (c :: s) = none) :
    IsLeftmost (c :: s) (c :: before) term behind dx dy where
  text_eq := congrArg (c :: ·) h.text_eq
  isTerm := h.isTerm
  first before' term' behind' dx' dy' hs hterm := by
    cases before' with
    | nil =>
        rw [hs, List.nil_append, matchHere_append hterm] at hnone
        cases hnone
    | cons d before' =>
        obtain ⟨-, hs⟩ := List.cons.inj hs
        exact Nat.succ_le_succ (h.first before' term' behind' dx' dy' hs hterm)

theorem firstMatch_of_matchHere {m : List Char × List Char} (h : matchHere s = some m) :
    firstMatch s = some m := by
  cases s with
  | nil => exact h
  | cons c s => rw [firstMatch, h]

theorem firstMatch_of_isLeftmost (h : IsLeftmost s before term behind dx dy) :
    firstMatch s = some (dx, dy) := by
  induction before generalizing s with
  | nil =>
      rw [h.text_eq, List.nil_append]
      exact firstMatch_of_matchHere (matchHere_append h.isTerm behind)
  | cons c before ih =>
      have hs := h.text_eq
      rw [List.cons_append] at hs
      subst hs
      have hnone : matchHere (c :: (before ++ (term ++ behind))) = none := by
        refine Option.eq_none_iff_forall_ne_some.2 fun ⟨dx', dy'⟩ hmatch => ?_
        obtain ⟨term', behind', hterm', hs⟩ := matchHere_eq_some_iff.1 hmatch
        exact absurd (h.first [] term' behind' dx' dy' hs hterm') (by simp)
      rw [firstMatch, hnone]
      exact ih h.of_cons

theorem exists_isLeftmost (h : firstMatch s = some (dx, dy)) :
    ∃ before term behind, IsLeftmost s before term behind dx dy := by
  induction s with
  | nil => cases h
  | cons c s ih =>
      rw [firstMatch] at h
      split at h
      · next m hmatch =>
        cases h
        obtain ⟨term, behind, hterm, hs⟩ := matchHere_eq_some_iff.1 hmatch
        exact ⟨[], term, behind, hs, hterm, fun _ _ _ _ _ _ _ => Nat.zero_le _⟩
      · next hnone =>
        obtain ⟨before, term, behind, hleftmost⟩ := ih h
        exact ⟨c :: before, term, behind, hleftmost.cons hnone⟩

theorem exists_firstMatch (hterm : IsTerm dx dy term) (before behind : List Char) :
    ∃ m, firstMatch (before ++ (term ++ behind)) = some m := by
  induction before with
  | nil =>
      rw [List.nil_append]
      exact ⟨_, firstMatch_of_matchHere (matchHere_append hterm behind)⟩
  | cons c before ih =>
      rw [List.cons_append, firstMatch]
      split
      · exact ⟨_, rfl⟩
      · exact ih

/-- Of the terms in a text one is the leftmost. -/
theorem HoldsTerm.exists_isLeftmost (h : HoldsTerm s) :
    ∃ before term behind dx dy, IsLeftmost s before term behind dx dy := by
  obtain ⟨before, term, behind, dx, dy, rfl, hterm⟩ := h
  obtain ⟨⟨dx', dy'⟩, hfirst⟩ := exists_firstMatch hterm before behind
  obtain ⟨before', term', behind', hleftmost⟩ := Shift.exists_isLeftmost hfirst
  exact ⟨before', term', behind', dx', dy', hleftmost⟩

theorem firstMatch_eq_none (h : ¬ HoldsTerm s) : firstMatch s = none := by
  refine Option.eq_none_iff_forall_ne_some.2 fun ⟨dx, dy⟩ hfirst => h ?_
  obtain ⟨before, term, behind, hleftmost⟩ := exists_isLeftmost hfirst
  exact ⟨before, term, behind, dx, dy, hleftmost.text_eq, hleftmost.isTerm⟩

end Search

/-! What stands around a term -/

section Around

variable {term before dx dy x y : List Char}

/-- A term opens one parenthesis, at the end of its name, and ends where it is closed. -/
theorem IsTerm.exists_eq (h : IsTerm dx dy term) :
    ∃ arguments, term = "translate(".toList ++ (arguments ++ [')']) ∧ '(' ∉ arguments := by
  cases h with
  | @mk a b c d ha hdx hb hc hdy hd =>
      have hblank {w : List Char} (hw : allBlank w = true) : '(' ∉ w := fun hmem =>
        absurd (List.all_eq_true.1 hw _ hmem) (by decide)
      have hdecimal {n : List Char} (hn : IsDecimal isDecimalDigit n) : '(' ∉ n := fun hmem => by
        rcases hn.isDecimalChar hmem with hdigit | hmark
        · exact absurd hdigit (by decide)
        · exact absurd hmark (by decide)
      refine ⟨a ++ (dx ++ (b ++ ',' :: (c ++ (dy ++ d)))), ?_, ?_⟩
      · simp only [List.append_assoc, List.cons_append]
      · simp only [List.mem_append, List.mem_cons, not_or]
        exact ⟨hblank ha, hdecimal hdx, hblank hb, by decide, hblank hc, hdecimal hdy, hblank hd⟩

theorem not_holdsTerm_nil : ¬ HoldsTerm [] := by
  rintro ⟨before, term, behind, dx, dy, hnil, hterm⟩
  obtain ⟨arguments, rfl, -⟩ := hterm.exists_eq
  have hlength := congrArg List.length hnil
  simp at hlength

/-- No term starts inside of another one. -/
theorem IsTerm.not_overlap {z t dx' dy' : List Char} (h : IsTerm dx dy (x ++ y)) (hx : x ≠ [])
    (hy : y ≠ []) (hterm : IsTerm dx' dy' term) : y ++ z ≠ term ++ t := by
  intro heq
  obtain ⟨arguments, hargs, hopen⟩ := h.exists_eq
  obtain ⟨arguments', rfl, -⟩ := hterm.exists_eq
  -- the rest of the first term holds its closing parenthesis
  have hclose : ')' ∈ y := by
    have hlast := congrArg List.getLast? hargs
    rw [List.getLast?_append_of_ne_nil _ hy, ← List.append_assoc, List.getLast?_concat] at hlast
    exact List.mem_of_getLast? hlast
  rw [List.append_assoc] at heq
  rcases List.append_eq_append_iff.1 heq with ⟨u, hname, -⟩ | ⟨u, rfl, -⟩
  · have hmem : ')' ∈ "translate(".toList := hname ▸ List.mem_append_left _ hclose
    exact absurd hmem (by decide)
  · -- so it holds the name of the second one, whose parenthesis is behind the first one's name
    obtain ⟨c, w, rfl⟩ := List.exists_cons_of_ne_nil hx
    have hopen' : '(' ∈ (c :: w ++ ("translate(".toList ++ u)).drop 10 := by
      have hsplit : c :: w ++ ("translate(".toList ++ u) =
          (c :: w ++ "translate".toList) ++ '(' :: u := by
        simp only [List.append_assoc]
        rfl
      have hlength : 10 ≤ (c :: w ++ "translate".toList).length := by
        rw [List.length_append, List.length_cons]
        have hname : "translate".toList.length = 9 := rfl
        omega
      rw [hsplit, List.drop_append_of_le_length hlength]
      exact List.mem_append_right _ List.mem_cons_self
    have hdrop : (c :: w ++ ("translate(".toList ++ u)).drop 10 = arguments ++ [')'] := by
      rw [hargs]
      rfl
    rw [hdrop, List.mem_append, List.mem_singleton] at hopen'
    rcases hopen' with hopen' | hopen'
    · exact hopen hopen'
    · exact absurd hopen' (by decide)

/-- Behind a text without a term a term is the leftmost one. -/
theorem isLeftmost_append (hbefore : ¬ HoldsTerm before) (hterm : IsTerm dx dy term)
    (behind : List Char) :
    IsLeftmost (before ++ (term ++ behind)) before term behind dx dy where
  text_eq := rfl
  isTerm := hterm
  first before' term' behind' dx' dy' heq hterm' := by
    by_contra hlt
    rw [Nat.not_le] at hlt
    rcases List.append_eq_append_iff.1 heq with ⟨x, rfl, -⟩ | ⟨x, rfl, hrest⟩
    · rw [List.length_append] at hlt
      omega
    · have hx : x ≠ [] := by
        rintro rfl
        simp at hlt
      rcases List.append_eq_append_iff.1 hrest with ⟨y, rfl, -⟩ | ⟨y, rfl, hy⟩
      · exact hbefore ⟨before', term', y, dx', dy', rfl, hterm'⟩
      · by_cases hempty : y = []
        · subst hempty
          rw [List.append_nil] at hterm'
          exact hbefore ⟨before', x, [], dx', dy', by rw [List.append_nil], hterm'⟩
        · exact hterm'.not_overlap hx hempty hterm hy.symm

end Around

/-! The numbers of a term -/

section Numbers

variable {n : List Char}

/-- A number is none of the names that stand for numbers. -/
theorem readName_decimal (h : IsDecimal isDecimalDigit n) : Number.readName n = none :=
  h.readName_eq_none (by decide)

theorem isDecimalDigit_of_mem_marks {c : Char} (h : c ∈ ['+', '-', '.', 'e', 'E']) :
    isDecimalDigit c = false := by
  simp only [List.mem_cons, List.not_mem_nil, or_false] at h
  rcases h with rfl | rfl | rfl | rfl | rfl <;> decide

/-- A number in ASCII digits has the value that it has as an attribute. -/
theorem exists_readExact (h : IsDecimal isDecimalDigit n)
    (hascii : ∀ c ∈ n, isDecimalDigit c = true → isAsciiDigit c = true) :
    ∃ v, Number.parse n = some v ∧ Number.readExact n = some v := by
  obtain ⟨d, hd⟩ := Option.isSome_iff_exists.1
    (Number.isSome_readDecimal_iff.2 (h.of_digits hascii))
  have hexact : Number.readExact n = some d.toFloat := by rw [Number.readExact, hd]
  have htrim : trim n = n := Number.trim_of_not_blank fun c hc =>
    Bool.eq_false_iff.2 fun hblank => not_isDecimalChar_of_isBlank hblank (h.isDecimalChar hc)
  refine ⟨d.toFloat, ?_, hexact⟩
  rw [Number.parse, htrim]
  split
  · exact absurd rfl h.ne_nil
  · exact hexact

/-- A number in other digits has none. -/
theorem readExact_of_not_ascii {c : Char} (h : IsDecimal isDecimalDigit n) (hc : c ∈ n)
    (hdigit : isDecimalDigit c = true) (hascii : isAsciiDigit c = false) :
    Number.readExact n = none := by
  have hdecimal : Number.readDecimal n = none := by
    refine Option.not_isSome_iff_eq_none.1 fun hsome => ?_
    rcases (Number.isSome_readDecimal_iff.1 hsome).isDecimalChar hc with hdigit' | hmark
    · rw [hascii] at hdigit'
      cases hdigit'
    · rw [isDecimalDigit_of_mem_marks hmark] at hdigit
      cases hdigit
  rw [Number.readExact, hdecimal]
  exact readName_decimal h

end Numbers

/-! The shift -/

section Parsing

variable {text : String} {before term behind dx dy : List Char}

theorem parse_of_not_holdsTerm (h : ¬ HoldsTerm text.toList) : parse text = none := by
  rw [parse, firstMatch_eq_none h]
  rfl

theorem parse_of_isLeftmost (h : IsLeftmost text.toList before term behind dx dy) :
    parse text = (Number.readExact dx).bind fun x => (Number.readExact dy).map fun y => ⟨x, y⟩ := by
  rw [parse, firstMatch_of_isLeftmost h, Option.bind_eq_bind, Option.bind_some]
  dsimp only
  cases Number.readExact dx with
  | none => rfl
  | some x => cases Number.readExact dy <;> rfl

theorem parse_eq_none (h : IsLeftmost text.toList before term behind dx dy)
    (hdigit : ∃ c ∈ dx ++ dy, isDecimalDigit c = true ∧ isAsciiDigit c = false) :
    parse text = none := by
  obtain ⟨c, hc, hdigit, hascii⟩ := hdigit
  rw [parse_of_isLeftmost h]
  cases h.isTerm with
  | mk _ hdx _ _ hdy _ =>
      rcases List.mem_append.1 hc with hc | hc
      · rw [readExact_of_not_ascii hdx hc hdigit hascii]
        rfl
      · rw [readExact_of_not_ascii hdy hc hdigit hascii]
        cases Number.readExact dx <;> rfl

theorem exists_parse (h : IsLeftmost text.toList before term behind dx dy)
    (hascii : ∀ c ∈ dx ++ dy, isDecimalDigit c = true → isAsciiDigit c = true) :
    ∃ x y, Number.parse dx = some x ∧ Number.parse dy = some y ∧ parse text = some ⟨x, y⟩ := by
  rw [parse_of_isLeftmost h]
  cases h.isTerm with
  | mk _ hdx _ _ hdy _ =>
      obtain ⟨x, hx, hreadX⟩ := exists_readExact hdx fun c hc => hascii c (List.mem_append_left _ hc)
      obtain ⟨y, hy, hreadY⟩ := exists_readExact hdy fun c hc => hascii c (List.mem_append_right _ hc)
      refine ⟨x, y, hx, hy, ?_⟩
      rw [hreadX, hreadY]
      rfl

/-- The leftmost term of a text decides which shift it stands for, if any. A text without a term
stands for none; nor does one whose leftmost term has a number in digits that are not ASCII. In
ASCII digits each number is read, as the text of an attribute would be. What stands around the
leftmost term does not count. -/
theorem parse_eq_leftmost (text : String) :
    (¬ HoldsTerm text.toList → parse text = none) ∧
    (HoldsTerm text.toList →
      ∃ before term behind dx dy, IsLeftmost text.toList before term behind dx dy) ∧
    (∀ before term behind dx dy, IsLeftmost text.toList before term behind dx dy →
      ((∃ c ∈ dx ++ dy, isDecimalDigit c = true ∧ isAsciiDigit c = false) → parse text = none) ∧
      ((∀ c ∈ dx ++ dy, isDecimalDigit c = true → isAsciiDigit c = true) →
        ∃ x y, Number.parse dx = some x ∧ Number.parse dy = some y ∧
          parse text = some ⟨x, y⟩)) ∧
    (∀ before term behind dx dy, text.toList = before ++ (term ++ behind) →
      ¬ HoldsTerm before → IsTerm dx dy term →
      IsLeftmost text.toList before term behind dx dy ∧
        parse text = parse (String.ofList term)) := by
  refine ⟨parse_of_not_holdsTerm, HoldsTerm.exists_isLeftmost, ?_, ?_⟩
  · exact fun _ _ _ _ _ h => ⟨parse_eq_none h, exists_parse h⟩
  · intro before term behind dx dy htext hbefore hterm
    have hwhole : IsLeftmost text.toList before term behind dx dy := by
      rw [htext]
      exact isLeftmost_append hbefore hterm behind
    have halone : IsLeftmost (String.ofList term).toList [] term [] dx dy := by
      rw [String.toList_ofList]
      simpa using isLeftmost_append not_holdsTerm_nil hterm []
    refine ⟨hwhole, ?_⟩
    rw [parse_of_isLeftmost hwhole, parse_of_isLeftmost halone]

theorem parse_eq_leftmost_between :
    "rotate(45) translate( .5 , -4. ) translate(1, 2)".toList =
        "rotate(45) ".toList ++ ("translate( .5 , -4. )".toList ++ " translate(1, 2)".toList) ∧
      ¬ HoldsTerm "rotate(45) ".toList ∧
      IsTerm ".5".toList "-4.".toList "translate( .5 , -4. )".toList ∧
      parse "rotate(45) translate( .5 , -4. ) translate(1, 2)" =
        parse (String.ofList "translate( .5 , -4. )".toList) := by
  have htext : "rotate(45) translate( .5 , -4. ) translate(1, 2)".toList =
      "rotate(45) ".toList ++ ("translate( .5 , -4. )".toList ++ " translate(1, 2)".toList) := by
    rfl
  have hbefore : ¬ HoldsTerm "rotate(45) ".toList := by
    rintro ⟨before, term, behind, dx, dy, hs, hterm⟩
    obtain ⟨m, hfirst⟩ := exists_firstMatch hterm before behind
    rw [← hs] at hfirst
    have hnone : firstMatch "rotate(45) ".toList = none := by decide
    rw [hnone] at hfirst
    cases hfirst
  have hdx := of_takeNumberText (s := ".5".toList) (t := []) (n := ".5".toList) (by decide)
  have hdy := of_takeNumberText (s := "-4.".toList) (t := []) (n := "-4.".toList) (by decide)
  have hterm : IsTerm ".5".toList "-4.".toList "translate( .5 , -4. )".toList :=
    .mk (a := [' ']) (b := [' ']) (c := [' ']) (d := [' ']) rfl hdx.1 rfl rfl hdy.1 rfl
  exact ⟨htext, hbefore, hterm,
    ((parse_eq_leftmost _).2.2.2 _ _ _ _ _ htext hbefore hterm).2⟩

end Parsing

end ShapeCoords.Shift
