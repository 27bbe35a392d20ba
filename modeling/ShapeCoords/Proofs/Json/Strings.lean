import ShapeCoords.Proofs.Json.Outcomes

/-!
The texts of strings: what stands between two quotes, and the characters it stands for.
-/

namespace ShapeCoords.Json

open Reader

/-- Characters and escapes, and what they stand for. Surrogates stand in pairs. -/
inductive IsStringBody : List Char → List Char → Prop where
  | nil : IsStringBody [] []
  | plain {c : Char} {s cs : List Char} (hquote : c ≠ '"') (hbackslash : c ≠ '\\')
      (hc : ¬c.toNat < 0x20) (hs : IsStringBody s cs) : IsStringBody (c :: s) (c :: cs)
  | escaped {c e : Char} {s cs : List Char} (he : simpleEscape? c = some e)
      (hs : IsStringBody s cs) : IsStringBody ('\\' :: c :: s) (e :: cs)
  | unicode {a b c d : Char} {n : Nat} {s cs : List Char} (hn : fourHex? a b c d = some n)
      (hscalar : ¬(0xD800 ≤ n ∧ n ≤ 0xDFFF)) (hs : IsStringBody s cs) :
      IsStringBody ('\\' :: 'u' :: a :: b :: c :: d :: s) (Char.ofNat n :: cs)
  | surrogates {a b c d e f g h : Char} {n m : Nat} {s cs : List Char}
      (hn : fourHex? a b c d = some n) (hhigh : 0xD800 ≤ n ∧ n ≤ 0xDBFF)
      (hm : fourHex? e f g h = some m) (hlow : 0xDC00 ≤ m ∧ m ≤ 0xDFFF)
      (hs : IsStringBody s cs) :
      IsStringBody ('\\' :: 'u' :: a :: b :: c :: d :: '\\' :: 'u' :: e :: f :: g :: h :: s)
        (joinSurrogates n m :: cs)

inductive IsString : List Char → String → Prop where
  | mk {s cs : List Char} (hs : IsStringBody s cs) :
      IsString ('"' :: (s ++ ['"'])) (String.ofList cs)

section Bodies

variable {s cs t read : List Char} {a b c d : Char} {n : Nat}

theorem stringBody_plain (hquote : c ≠ '"') (hbackslash : c ≠ '\\') (hc : ¬c.toNat < 0x20)
    (o : Nat) : stringBody read (c :: s) o = stringBody (c :: read) s (o + c.utf8Size) := by
  rw [stringBody, if_neg hc]
  · exact hquote
  all_goals
    intros
    exact absurd ‹c = '\\'› hbackslash

theorem stringBody_escaped {e : Char} (he : simpleEscape? c = some e) (o : Nat) :
    stringBody read ('\\' :: c :: s) o = stringBody (e :: read) s (o + 2) := by
  have hu : c ≠ 'u' := by
    rintro rfl
    cases he
  rw [stringBody, he]
  all_goals
    intros
    exact absurd ‹c = 'u'› hu

theorem stringBody_of_isStringBody (h : IsStringBody s cs) (read t : List Char) (o : Nat) :
    ∃ o', stringBody read (s ++ '"' :: t) o = (.ok (String.ofList (read.reverse ++ cs)), ⟨t, o'⟩) :=
    by
  induction h generalizing read o with
  | nil => exact ⟨o + 1, by rw [List.append_nil]; rfl⟩
  | plain hquote hbackslash hc _ ih =>
      obtain ⟨o', ho⟩ := ih (_ :: read) (o + _)
      refine ⟨o', ?_⟩
      rw [List.cons_append, stringBody_plain hquote hbackslash hc, ho, List.reverse_cons,
        List.append_assoc, List.singleton_append]
  | escaped he _ ih =>
      obtain ⟨o', ho⟩ := ih (_ :: read) (o + 2)
      refine ⟨o', ?_⟩
      rw [List.cons_append, List.cons_append, stringBody_escaped he, ho, List.reverse_cons,
        List.append_assoc, List.singleton_append]
  | unicode hn hscalar _ ih =>
      obtain ⟨o', ho⟩ := ih (_ :: read) (o + 6)
      refine ⟨o', ?_⟩
      simp only [List.cons_append]
      rw [stringBody, hn]
      dsimp only
      rw [if_neg (by omega), if_neg (by omega), ho, List.reverse_cons, List.append_assoc,
        List.singleton_append]
  | surrogates hn hhigh hm hlow _ ih =>
      obtain ⟨o', ho⟩ := ih (_ :: read) (o + 12)
      refine ⟨o', ?_⟩
      simp only [List.cons_append]
      rw [stringBody, hn]
      dsimp only
      rw [if_neg (by omega), if_pos hhigh]
      simp only [hm]
      rw [if_pos hlow, ho, List.reverse_cons, List.append_assoc, List.singleton_append]

/-- One more character in front of what was read. -/
theorem ofList_reverse_cons (e : Char) (read cs : List Char) :
    String.ofList ((e :: read).reverse ++ cs) = String.ofList (read.reverse ++ e :: cs) := by
  rw [List.reverse_cons, List.append_assoc, List.singleton_append]

theorem exists_isStringBody {str : String} {o o' : Nat}
    (h : stringBody read s o = (.ok str, ⟨t, o'⟩)) :
    ∃ u cs, s = u ++ '"' :: t ∧ IsStringBody u cs ∧ str = String.ofList (read.reverse ++ cs) := by
  fun_induction stringBody read s o with
  | case2 read s =>
      cases h
      exact ⟨[], [], rfl, .nil, by rw [List.append_nil]⟩
  | case6 read a b c d _ n hn _ hhigh e f g h' s m hm hlow ih =>
      obtain ⟨u, cs, rfl, hu, rfl⟩ := ih h
      exact ⟨_ :: _ :: a :: b :: c :: d :: _ :: _ :: e :: f :: g :: h' :: u, _, rfl,
        .surrogates hn hhigh hm hlow hu, ofList_reverse_cons ..⟩
  | case13 read a b c d s _ n hn hlow hhigh ih =>
      obtain ⟨u, cs, rfl, hu, rfl⟩ := ih h
      exact ⟨_ :: _ :: a :: b :: c :: d :: u, _, rfl, .unicode hn (by omega) hu,
        ofList_reverse_cons ..⟩
  | case16 read c s _ _ _ e he ih =>
      obtain ⟨u, cs, rfl, hu, rfl⟩ := ih h
      exact ⟨_ :: c :: u, _, rfl, .escaped he hu, ofList_reverse_cons ..⟩
  | case19 read c s _ hquote _ _ hend hescape hc ih =>
      have hbackslash : c ≠ '\\' := by
        intro heq
        cases s with
        | nil => exact hend heq rfl
        | cons d s => exact hescape d s heq rfl
      obtain ⟨u, cs, rfl, hu, rfl⟩ := ih h
      exact ⟨c :: u, _, rfl, .plain hquote hbackslash hc hu, ofList_reverse_cons ..⟩
  | case1 | case3 | case4 | case5 | case7 | case8 | case9 | case10 | case11 | case12 | case14
  | case15 | case17 | case18 => cases h

theorem skipStringBody_of_isStringBody (h : IsStringBody s cs) (t : List Char) (o : Nat) :
    ∃ o', skipStringBody (s ++ '"' :: t) o = (.ok (), ⟨t, o'⟩) := by
  induction h generalizing o with
  | nil => exact ⟨o + 1, rfl⟩
  | @plain c s cs hquote hbackslash hc _ ih =>
      obtain ⟨o', ho⟩ := ih (o + c.utf8Size)
      refine ⟨o', ?_⟩
      rw [List.cons_append, skipStringBody, if_neg hc, ho]
      · exact hquote
      all_goals
        intros
        exact absurd ‹c = '\\'› hbackslash
  | @escaped c e s cs he _ ih =>
      have hu : c ≠ 'u' := by
        rintro rfl
        cases he
      obtain ⟨o', ho⟩ := ih (o + 2)
      refine ⟨o', ?_⟩
      rw [List.cons_append, List.cons_append, skipStringBody, he]
      · exact ho
      all_goals
        intros
        exact absurd ‹c = 'u'› hu
  | unicode hn _ _ ih =>
      obtain ⟨o', ho⟩ := ih (o + 6)
      refine ⟨o', ?_⟩
      simp only [List.cons_append]
      rw [skipStringBody, hn]
      exact ho
  | surrogates hn _ hm _ _ ih =>
      obtain ⟨o', ho⟩ := ih (o + 6 + 6)
      refine ⟨o', ?_⟩
      simp only [List.cons_append]
      rw [skipStringBody, hn]
      dsimp only
      rw [skipStringBody, hm]
      exact ho

end Bodies

/-! The readers of strings -/

section Readers

variable {s cs t : List Char}

/-- Behind its first quote a string is read up to its last one. -/
theorem IsStringBody.reads (h : IsStringBody s cs) (t : List Char) :
    Reads Reader.string (s ++ '"' :: t) (String.ofList cs) t :=
  fun o => stringBody_of_isStringBody h [] t o

theorem IsStringBody.reads_skip (h : IsStringBody s cs) (t : List Char) :
    Reads skipString (s ++ '"' :: t) () t :=
  fun o => skipStringBody_of_isStringBody h t o

theorem Took.of_string {str : String} (h : Took Reader.string s str t) :
    ∃ u, s = u ++ t ∧ IsString ('"' :: u) str := by
  obtain ⟨o, o', ho⟩ := h
  obtain ⟨u, cs, rfl, hu, rfl⟩ := exists_isStringBody ho
  refine ⟨u ++ ['"'], ?_, .mk hu⟩
  rw [List.append_assoc, List.singleton_append]

end Readers

end ShapeCoords.Json
