import ShapeCoords.Proofs.Json.Texts

/-!
Each text of a value is read as that value, and lists and objects give what comes of their items
one after the other.
-/

namespace ShapeCoords.Json

open Reader

/-! Items -/

section Items

variable {σ β : Type} {P : List Char → β → Prop} {f : σ → β → Option σ} {first : Bool} {a : σ}
variable {s t w : List Char} {close : Char} {xs : List β}

theorem Items.endsNumber (hs : Items P false s xs) (ht : EndsNumber t) : EndsNumber (s ++ t) := by
  cases hs with
  | nil => exact ht
  | cons hw =>
      rw [List.append_assoc]
      exact EndsNumber.spaces hw (EndsNumber.cons (by decide) _)

/-- On the text of an item a step gives what comes of the item, and it stops in front of `close`. -/
structure GivesItems (step : Bool × σ → Reader ((Bool × σ) × Bool)) (P : List Char → β → Prop)
    (f : σ → β → Option σ) (close : Char) : Prop where
  ne_nil : ∀ e x, P e x → e ≠ []
  item : ∀ first a w w' e x t, Spaces w → Spaces w' → P e x → EndsNumber t →
    Gives (step (first, a)) (w ++ (separator first ++ (w' ++ (e ++ t))))
      (((f a x).map fun b => (false, b)).map fun state => (state, true)) t
  stop : ∀ first a w t, Spaces w →
    Reads (step (first, a)) (w ++ close :: t) ((first, a), false) (close :: t)

namespace GivesItems

variable {step : Bool × σ → Reader ((Bool × σ) × Bool)}

theorem loop (h : GivesItems step P f close) (hclose : EndsNumber (close :: t))
    (hs : Items P first s xs) (hw : Spaces w) {n : Nat} (hn : (s ++ (w ++ close :: t)).length < n)
    (a : σ) :
    Gives (Reader.loop step n (first, a)) (s ++ (w ++ close :: t))
      ((xs.foldlM f a).map fun b => (xs.isEmpty && first, b)) (close :: t) := by
  obtain ⟨n, rfl⟩ := Nat.exists_eq_add_one_of_ne_zero (Nat.ne_zero_of_lt hn)
  induction hs generalizing n a with
  | nil first => exact Gives.loop_stop (h.stop first a w t hw) n
  | @cons first v v' e s x xs hv hv' he hs ih =>
      have hpos : 0 < e.length := List.length_pos_iff.2 (h.ne_nil e x he)
      simp only [List.length_append, List.length_cons] at hn
      obtain ⟨n, rfl⟩ := Nat.exists_eq_add_one_of_ne_zero (show n ≠ 0 by omega)
      have hstep := h.item first a v v' e x (s ++ (w ++ close :: t)) hv hv' he
        (hs.endsNumber (EndsNumber.spaces hw hclose))
      have hrest (b : σ) := ih b n (by simp only [List.length_append, List.length_cons]; omega)
      have hall := hstep.loop_next (n := n + 1) (g := fun state => xs.foldlM f state.2)
        (k := fun b => (false, b)) (u := close :: t) fun state hstate => by
          obtain ⟨b, -, rfl⟩ := Option.map_eq_some_iff.1 hstate
          simpa using hrest b
      simpa [Option.bind_map, Function.comp_def] using hall

/-- A repetition of such steps gives what comes of all items. -/
theorem repeating (h : GivesItems step P f close) (hclose : EndsNumber (close :: t))
    (hs : Items P true s xs) (hw : Spaces w) (a : σ) :
    Gives (do return (← Reader.repeating step (true, a)).2) (s ++ (w ++ close :: t))
      (xs.foldlM f a) (close :: t) := by
  have hloop := h.loop hclose hs hw (Nat.lt_succ_self _) a
  have hall := hloop.repeating.map Prod.snd
  simp only [Option.map_map, Function.comp_def, Option.map_id'] at hall
  exact hall

end GivesItems

/-- Items may start with anything but white space and the end of a list. -/
theorem gives_eachItem {item : σ → Reader σ}
    (hstart : ∀ e x, P e x → ∃ c u, e = c :: u ∧ isSpace c = false ∧ c ≠ ']')
    (hitem : ∀ a e x t, P e x → EndsNumber t → Gives (item a) (e ++ t) (f a x) t)
    (hs : Items P true s xs) (hw : Spaces w) (t : List Char) (a : σ) :
    Gives (eachItem item a) (s ++ (w ++ ']' :: t)) (xs.foldlM f a) (']' :: t) := by
  have hstep : GivesItems (itemStep item) P f ']' := by
    refine ⟨fun e x he => ?_, fun first a v v' e x t hv hv' he ht => ?_, fun first a v t hv => ?_⟩
    · obtain ⟨c, u, rfl, -⟩ := hstart e x he
      exact List.cons_ne_nil c u
    · have hgives := (hitem a e x t he ht).map fun b => ((false, b), true)
      obtain ⟨c, u, rfl, hc, hend⟩ := hstart e x he
      rw [Option.map_map]
      exact Gives.of_reads (Reads.nextItem hv hv' hc hend (u ++ t)) hgives
    · exact (Reads.nextItem_end hv t).bind (Reads.pure _ _)
  exact hstep.repeating (EndsNumber.cons (by decide) t) hs hw a

/-- The reader of a member starts behind the name. -/
theorem gives_eachMember {member : String → σ → Reader σ} {f : σ → String × β → Option σ}
    {xs : List (String × β)}
    (hmember : ∀ a name w w' e x t, Spaces w → Spaces w' → P e x → EndsNumber t →
      Gives (member name a) (w ++ ':' :: (w' ++ (e ++ t))) (f a (name, x)) t)
    (hs : Items (IsMember P) true s xs) (hw : Spaces w) (t : List Char) (a : σ) :
    Gives (eachMember member a) (s ++ (w ++ '\x7d' :: t)) (xs.foldlM f a) ('\x7d' :: t) := by
  have hstep : GivesItems (memberStep member) (IsMember P) f '\x7d' := by
    refine ⟨fun e x he => ?_, fun first a v v' e x t hv hv' he ht => ?_, fun first a v t hv => ?_⟩
    · obtain ⟨u, rfl⟩ := he.exists_eq_cons
      exact List.cons_ne_nil _ _
    · obtain @⟨_, w, w', e, name, x, @⟨n, cs, hn⟩, hw, hw', he⟩ := he
      have hgives := (hmember a (String.ofList cs) w w' e x t hw hw' he ht).map fun b =>
        ((false, b), true)
      simp only [List.cons_append, List.append_assoc, List.nil_append]
      rw [Option.map_map]
      refine Gives.of_reads (Reads.nextMember hv hv' _) ?_
      exact Gives.of_reads (hn.reads _) hgives
    · exact (Reads.nextMember_end hv t).bind (Reads.pure _ _)
  exact hstep.repeating (EndsNumber.cons (by decide) t) hs hw a

end Items

/-! Values -/

/-- A text of the value is read as what the value stands for, or is a fault if that is nothing. -/
def Agrees {α β : Type} (P : List Char → α → Prop) (r : Reader β) (f : α → Option β) : Prop :=
  ∀ s x w t, P s x → Spaces w → EndsNumber t → Gives r (w ++ (s ++ t)) (f x) t

theorem Agrees.map {α β γ : Type} {P : List Char → α → Prop} {r : Reader β} {f : α → Option β}
    (h : Agrees P r f) (g : β → γ) : Agrees P (g <$> r) fun x => (f x).map g := by
  intro s x w t hs hw ht
  exact (h s x w t hs hw ht).map g

section Lists

variable {α β : Type} {P : List Char → β → Prop} {r : Reader β} {s t w : List Char}

theorem Agrees.gives_items {r : Reader α} {f : β → Option α} (hr : Agrees P r f)
    (hstart : ∀ e x, P e x → ∃ c u, e = c :: u ∧ isSpace c = false ∧ c ≠ ']') {xs : List β}
    (hs : Items P true s xs) (hw : Spaces w) (t : List Char) :
    Gives ((eachItem (pushItem r) []).closedBy listEnd) (s ++ (w ++ ']' :: t))
      (xs.foldlM (fun read x => (f x).map fun a => a :: read) []) t := by
  have hitem (read : List α) (e : List Char) (x : β) (t : List Char) (he : P e x)
      (ht : EndsNumber t) : Gives (pushItem r read) (e ++ t) ((f x).map fun a => a :: read) t :=
    (hr e x [] t he Spaces.nil ht).map fun a => a :: read
  exact (gives_eachItem hstart hitem hs hw t []).closedBy (Reads.listEnd Spaces.nil t)

theorem Agrees.reads_items (hr : Agrees P r some)
    (hstart : ∀ e x, P e x → ∃ c u, e = c :: u ∧ isSpace c = false ∧ c ≠ ']') {xs : List β}
    (hs : Items P true s xs) (hw : Spaces w) (t : List Char) :
    Reads ((eachItem (pushItem r) []).closedBy listEnd) (s ++ (w ++ ']' :: t)) xs.reverse t := by
  have hitems := hr.gives_items hstart hs hw t
  simp only [Option.map_some] at hitems
  rw [foldlM_cons_eq, List.append_nil] at hitems
  exact hitems

theorem Agrees.reads_members (hr : Agrees P r some) {ms : List (String × β)}
    (hs : Items (IsMember P) true s ms) (hw : Spaces w) (t : List Char) :
    Reads ((eachMember (pushMember r) []).closedBy objectEnd) (s ++ (w ++ '\x7d' :: t))
      ms.reverse t := by
  have hmember (read : List (String × β)) (name : String) (w w' e : List Char) (x : β)
      (t : List Char) (hw : Spaces w) (hw' : Spaces w') (he : P e x) (ht : EndsNumber t) :
      Gives (pushMember r name read) (w ++ ':' :: (w' ++ (e ++ t))) (some ((name, x) :: read)) t :=
    (Reads.colon hw _).bind (Reads.bind (hr e x w' t he hw' ht) (Reads.pure _ t))
  have hmembers := gives_eachMember (f := fun read x => some (x :: read)) hmember hs hw t []
  rw [foldlM_cons_eq, List.append_nil] at hmembers
  exact Reads.closedBy hmembers (Reads.objectEnd t)

end Lists

theorem agrees_anyWith {inner : Option (Reader Json)} {P : Option (List Char → Json → Prop)}
    (hinner : ∀ Q, P = some Q → ∃ r, inner = some r ∧ Agrees Q r some ∧
      ∀ e x, Q e x → ∃ c u, e = c :: u ∧ isSpace c = false ∧ c ≠ ']') :
    Agrees (IsTextWith P) (anyWith inner) some := by
  intro s v w t hs hw ht
  cases hs with
  | null => exact Reads.anyWith_null hw t
  | isTrue =>
      exact (Reads.valueStart hw rfl _).bind
        (Reads.locate (Reads.skip_word 't' ['r', 'u', 'e'] t (Reads.pure _ t)))
  | isFalse =>
      exact (Reads.valueStart hw rfl _).bind
        (Reads.locate (Reads.skip_word 'f' ['a', 'l', 's', 'e'] t (Reads.pure _ t)))
  | string h =>
      obtain ⟨hbody⟩ := h
      rw [List.cons_append, List.append_assoc, List.singleton_append]
      refine (Reads.valueStart hw rfl _).bind (Reads.locate ((Reads.skip '"' _).bind ?_))
      exact (hbody.reads t).bind (Reads.pure _ t)
  | number h =>
      have hnumber := h.reads t ht
      obtain ⟨c, u, rfl, hc⟩ := h.exists_eq_cons
      exact Reads.anyWith_digit hw hc hnumber
  | negative h => exact Reads.anyWith_minus hw (h.reads t ht)
  | array hP hs hw' =>
      obtain ⟨r, rfl, hr, hstart⟩ := hinner _ hP
      have hitems := hr.reads_items hstart hs hw' t
      simp only [List.cons_append, List.append_assoc, List.nil_append]
      refine (Reads.valueStart hw rfl _).bind (Reads.locate ((Reads.skip '[' _).bind ?_))
      refine hitems.bind ?_
      rw [List.reverse_reverse]
      exact Reads.pure _ t
  | object hP hs hw' =>
      obtain ⟨r, rfl, hr, -⟩ := hinner _ hP
      have hmembers := hr.reads_members hs hw' t
      simp only [List.cons_append, List.append_assoc, List.nil_append]
      refine (Reads.valueStart hw rfl _).bind (Reads.locate ((Reads.skip '\x7b' _).bind ?_))
      refine hmembers.bind ?_
      rw [List.reverse_reverse]
      exact Reads.pure _ t

theorem agrees_any (d : Nat) : Agrees (IsText d) (any d) some := by
  induction d with
  | zero => exact agrees_anyWith fun _ h => nomatch h
  | succ d ih =>
      refine agrees_anyWith fun Q hQ => ⟨_, rfl, ?_⟩
      obtain rfl := Option.some.inj hQ
      exact ⟨ih, fun e x he => he.exists_eq_cons⟩

/-- Exactly the texts of values, with white space around them, are read. -/
theorem parse_eq_ok_iff {text : String} {v : Json} :
    parse text = .ok v ↔ ∃ w s w', text.toList = w ++ (s ++ w') ∧ Spaces w ∧ Spaces w' ∧
      IsText maxDepth s v := by
  constructor
  · intro h
    obtain ⟨w', hw', htook⟩ := took_of_run h
    obtain ⟨w, s, hw, htext, hs⟩ := takesTexts_any _ _ _ _ htook
    exact ⟨w, s, w', htext, hw, hw', hs⟩
  · rintro ⟨w, s, w', htext, hw, hw', hs⟩
    have hreads := agrees_any _ s v w w' hs hw hw'.endsNumber
    have hrun := run_of_reads_spaces hreads hw'
    rwa [← htext, String.ofList_toList] at hrun

end ShapeCoords.Json
