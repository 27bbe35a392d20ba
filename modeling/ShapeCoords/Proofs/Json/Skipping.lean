import ShapeCoords.Proofs.Json.Values

/-!
Each text of a value is passed over as a whole, however deep it is nested, also where only its end
counts.
-/

namespace ShapeCoords.Json

open Reader
open Text (isAsciiDigit)

namespace Reader.Enclosing

def closing : Enclosing → Char
  | list => ']'
  | object => '\x7d'

/-- Passes over what stands in front of the value of an item. -/
def enter : Enclosing → Reader Unit
  | list => pure ()
  | object => skipName

end Reader.Enclosing

/-- Item and value are the same in a list; in an object there is a name in front of the value. -/
inductive IsItemOf : Enclosing → List Char → List Char → Prop where
  | list (e : List Char) : IsItemOf .list e e
  | object {n w w' : List Char} {name : String} (hn : IsString n name) (hw : Spaces w)
      (hw' : Spaces w') (e : List Char) : IsItemOf .object (n ++ (w ++ ':' :: (w' ++ e))) e

variable {kind : Enclosing} {enclosing stack : List Enclosing} {s t u w w' : List Char} {c : Char}
variable {first after : Bool}

/-! The ends of what encloses a value -/

theorem Reads.skipEnds_closing {x : List Enclosing × Bool}
    (h : Reads (skipEnds enclosing true) u x t) (hw : Spaces w) (after : Bool) :
    Reads (skipEnds (kind :: enclosing) after) (w ++ kind.closing :: u) x t := by
  cases kind with
  | list => exact (Reads.peekToken hw rfl u).bind ((Reads.skip ']' u).bind h)
  | object => exact (Reads.peekToken hw rfl u).bind ((Reads.skip '\x7d' u).bind h)

/-- Behind a comma the next item is entered. -/
theorem Reads.skipEnds_comma (hw : Spaces w) (henter : Reads kind.enter s () u) :
    Reads (skipEnds (kind :: enclosing) true) (w ++ ',' :: s) (kind :: enclosing, true) u := by
  have hgoOn : Reads (do kind.enter; return (kind :: enclosing, true)) s
      (kind :: enclosing, true) u := henter.bind (Reads.pure _ u)
  cases kind with
  | list => exact (Reads.peekToken hw rfl s).bind ((Reads.skip ',' s).bind hgoOn)
  | object => exact (Reads.peekToken hw rfl s).bind ((Reads.skip ',' s).bind hgoOn)

/-- Behind an opening bracket the first item is entered. -/
theorem Reads.skipEnds_first (hw : Spaces w) (hc : isSpace c = false) (hend : c ≠ kind.closing)
    (henter : Reads kind.enter (c :: s) () u) :
    Reads (skipEnds (kind :: enclosing) false) (w ++ c :: s) (kind :: enclosing, true) u := by
  have hgoOn : Reads (do kind.enter; return (kind :: enclosing, true)) (c :: s)
      (kind :: enclosing, true) u := henter.bind (Reads.pure _ u)
  have hcomma : ¬(decide (c = ',') && false) = true := by
    rw [Bool.and_false]
    exact Bool.false_ne_true
  cases kind with
  | list =>
      refine (Reads.peekToken hw hc s).bind ?_
      dsimp only
      rw [if_neg hcomma, if_neg (show ¬c = ']' from hend)]
      exact hgoOn
  | object =>
      refine (Reads.peekToken hw hc s).bind ?_
      dsimp only
      rw [if_neg hcomma, if_neg (show ¬c = '\x7d' from hend)]
      exact hgoOn

/-- From `u` on, what is left of the enclosing values is passed over up to `t`. `after` tells
whether a value was just passed. -/
inductive EndsAt (enclosing : List Enclosing) (after : Bool) (u t : List Char) : Prop where
  | stop (h : Reads (skipEnds enclosing after) u ([], false) t)
  | next {stack : List Enclosing} {v : List Char}
      (h : Reads (skipEnds enclosing after) u (stack, true) v) (hlength : v.length ≤ u.length)
      (hrest : Repeats skipStep stack v [] t)

/-- A step that passes over something and goes on to the ends. -/
theorem EndsAt.repeats {stack : List Enclosing} (h : EndsAt enclosing after u t)
    (hlength : u.length < s.length)
    (hstep : ∀ x v, Reads (skipEnds enclosing after) u x v → Reads (skipStep stack) s x v) :
    Repeats skipStep stack s [] t := by
  cases h with
  | stop h => exact .stop (hstep _ _ h)
  | next h hle hrest => exact .next (hstep _ _ h) (by omega) hrest

theorem EndsAt.closing (h : EndsAt enclosing true u t) (hw : Spaces w) (after : Bool) :
    EndsAt (kind :: enclosing) after (w ++ kind.closing :: u) t := by
  cases h with
  | stop h => exact .stop (h.skipEnds_closing hw after)
  | next h hlength hrest =>
      refine .next (h.skipEnds_closing hw after) ?_ hrest
      rw [List.length_append, List.length_cons]
      omega

/-- Wherever the text stands, it is passed over, and then the ends of what encloses it. -/
def IsPassed (e : List Char) : Prop :=
  ∀ enclosing w u t, Spaces w → EndsNumber u → EndsAt enclosing true u t →
    Repeats skipStep enclosing (w ++ (e ++ u)) [] t

/-! Items -/

theorem IsItemOf.reads_enter {i e : List Char} (h : IsItemOf kind i e) (hw : Spaces w)
    (t : List Char) :
    ∃ w', Spaces w' ∧ Reads kind.enter (w ++ (i ++ t)) () (w' ++ (e ++ t)) ∧
      w'.length + e.length ≤ w.length + i.length := by
  cases h with
  | list e => exact ⟨w, hw, Reads.pure () _, le_refl _⟩
  | @object n v v' name hn hv hv' e =>
      obtain @⟨n, cs, hn⟩ := hn
      refine ⟨v', hv', ?_, ?_⟩
      · simp only [List.cons_append, List.append_assoc, List.nil_append]
        refine (Reads.peekToken hw rfl _).bind ((Reads.skip '"' _).bind ?_)
        exact (hn.reads_skip _).bind (Reads.colon hv _)
      · simp only [List.length_append, List.length_cons]
        omega

/-- Items are passed over with the end of what encloses them. -/
theorem Items.endsAt {β : Type} {P : List Char → β → Prop} {xs : List β}
    (hitem : ∀ i x, P i x → ∃ e, IsItemOf kind i e ∧ IsPassed e)
    (hstart : ∀ i x, P i x → ∃ c u, i = c :: u ∧ isSpace c = false ∧ c ≠ kind.closing)
    (hclosing : ∀ t, EndsNumber (kind.closing :: t)) (hs : Items P first s xs) (hw : Spaces w)
    (h : EndsAt enclosing true u t) :
    EndsAt (kind :: enclosing) (!first) (s ++ (w ++ kind.closing :: u)) t := by
  induction hs with
  | nil first => exact h.closing hw (!first)
  | @cons first v v' i s x xs hv hv' hi hs ih =>
      obtain ⟨e, he, hpassed⟩ := hitem i x hi
      have hends := hs.endsNumber (EndsNumber.spaces hw (hclosing u))
      have hrest (w' : List Char) (hw' : Spaces w') :=
        hpassed (kind :: enclosing) w' _ t hw' hends ih
      cases first with
      | true =>
          obtain ⟨w', hw', henter, hlength⟩ :=
            he.reads_enter Spaces.nil (s ++ (w ++ kind.closing :: u))
          obtain ⟨c, i, rfl, hc, hend⟩ := hstart i x hi
          simp only [separator, if_pos, List.nil_append, List.append_assoc, List.cons_append]
          rw [← List.append_assoc]
          refine .next (Reads.skipEnds_first (hv.append hv') hc hend henter) ?_ (hrest w' hw')
          simp only [List.length_append, List.length_cons, List.length_nil] at hlength ⊢
          omega
      | false =>
          obtain ⟨w', hw', henter, hlength⟩ := he.reads_enter hv' (s ++ (w ++ kind.closing :: u))
          simp only [separator, List.append_assoc]
          refine .next (Reads.skipEnds_comma hv henter) ?_ (hrest w' hw')
          simp only [List.length_append, List.length_cons] at hlength ⊢
          omega

/-! Values -/

section Nested

variable {P : List Char → Json → Prop}

theorem isPassed_list {vs : List Json}
    (hitem : ∀ e x, P e x → IsPassed e ∧ ∃ c u, e = c :: u ∧ isSpace c = false ∧ c ≠ ']')
    (hs : Items P true s vs) (hw : Spaces w) : IsPassed ('[' :: (s ++ (w ++ [']']))) := by
  intro enclosing w' u t hw' hu hends
  have hitems : EndsAt (.list :: enclosing) false (s ++ (w ++ ']' :: u)) t :=
    hs.endsAt (fun i x hi => ⟨i, .list i, (hitem i x hi).1⟩) (fun i x hi => (hitem i x hi).2)
      (fun t => EndsNumber.cons (by decide) t) hw hends
  refine hitems.repeats ?_ fun x v h => ?_
  · simp only [List.length_append, List.length_cons]
    omega
  · simp only [List.cons_append, List.append_assoc, List.nil_append]
    exact (Reads.valueStart hw' rfl _).bind ((Reads.skip '[' _).bind h)

theorem isPassed_object {ms : List (String × Json)} (hvalue : ∀ e x, P e x → IsPassed e)
    (hs : Items (IsMember P) true s ms) (hw : Spaces w) :
    IsPassed ('\x7b' :: (s ++ (w ++ ['\x7d']))) := by
  intro enclosing w' u t hw' hu hends
  have hitems : EndsAt (.object :: enclosing) false (s ++ (w ++ '\x7d' :: u)) t := by
    refine hs.endsAt (fun i x hi => ?_) (fun i x hi => ?_)
      (fun t => EndsNumber.cons (by decide) t) hw hends
    · obtain ⟨hn, hv, hv', he⟩ := hi
      exact ⟨_, .object hn hv hv' _, hvalue _ _ he⟩
    · obtain ⟨u, rfl⟩ := hi.exists_eq_cons
      exact ⟨'"', u, rfl, rfl, by decide⟩
  refine hitems.repeats ?_ fun x v h => ?_
  · simp only [List.length_append, List.length_cons]
    omega
  · simp only [List.cons_append, List.append_assoc, List.nil_append]
    exact (Reads.valueStart hw' rfl _).bind ((Reads.skip '\x7b' _).bind h)

end Nested

theorem isPassed_number {v : Json} (h : IsNumberToken false s v) : IsPassed s := by
  intro enclosing w u t hw hu hends
  have hskip := h.reads_skip hu
  obtain ⟨c, s, rfl, hc⟩ := h.exists_eq_cons
  refine hends.repeats (by simp; omega) fun x v h => ?_
  refine (Reads.valueStart hw (isSpace_of_isAsciiDigit hc) _).bind ?_
  have hminus : c ≠ '-' := by
    rintro rfl
    cases hc
  split
  -- the characters that start a value of another kind
  iterate 6
    · exact absurd hc (by decide)
  · rw [if_neg hminus, if_pos hc]
    exact hskip.bind h

theorem isPassed_of_isTextWith {inner : Option (List Char → Json → Prop)} {v : Json}
    (hinner : ∀ P, inner = some P → ∀ e x, P e x →
      IsPassed e ∧ ∃ c u, e = c :: u ∧ isSpace c = false ∧ c ≠ ']')
    (h : IsTextWith inner s v) : IsPassed s := by
  cases h with
  | array hP hs hw => exact isPassed_list (hinner _ hP) hs hw
  | object hP hs hw => exact isPassed_object (fun e x he => (hinner _ hP e x he).1) hs hw
  | number hnumber => exact isPassed_number hnumber
  | negative hnumber =>
      intro enclosing w u t hw hu hends
      refine hends.repeats (by simp; omega) fun x v h => ?_
      refine (Reads.valueStart hw rfl _).bind ((Reads.skip '-' _).bind ?_)
      exact (hnumber.reads_skip hu).bind h
  | string hstring =>
      obtain ⟨hbody⟩ := hstring
      intro enclosing w u t hw hu hends
      refine hends.repeats (by simp; omega) fun x v h => ?_
      rw [List.cons_append, List.append_assoc, List.singleton_append]
      refine (Reads.valueStart hw rfl _).bind ((Reads.skip '"' _).bind ?_)
      exact (hbody.reads_skip u).bind h
  | null =>
      intro enclosing w u t hw hu hends
      refine hends.repeats (by simp; omega) fun x v h => ?_
      exact (Reads.valueStart hw rfl _).bind (Reads.skip_word 'n' ['u', 'l', 'l'] u h)
  | isTrue =>
      intro enclosing w u t hw hu hends
      refine hends.repeats (by simp; omega) fun x v h => ?_
      exact (Reads.valueStart hw rfl _).bind (Reads.skip_word 't' ['r', 'u', 'e'] u h)
  | isFalse =>
      intro enclosing w u t hw hu hends
      refine hends.repeats (by simp; omega) fun x v h => ?_
      exact (Reads.valueStart hw rfl _).bind (Reads.skip_word 'f' ['a', 'l', 's', 'e'] u h)

theorem IsText.isPassed {d : Nat} {v : Json} (h : IsText d s v) : IsPassed s := by
  induction d generalizing s v with
  | zero =>
      refine isPassed_of_isTextWith (fun P hP => ?_) h
      cases hP
  | succ d ih =>
      refine isPassed_of_isTextWith (fun P hP e x he => ?_) h
      obtain rfl := Option.some.inj hP
      exact ⟨ih he, he.exists_eq_cons⟩

/-- A value of any text is passed over. -/
theorem agrees_skipValue (d : Nat) : Agrees (IsText d) skipValue fun _ => some () := by
  intro s v w t hs hw ht
  exact (hs.isPassed [] w t t hw ht (.stop (Reads.pure _ t))).reads.bind (Reads.pure () t)

end ShapeCoords.Json
