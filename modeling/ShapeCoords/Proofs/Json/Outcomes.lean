import ShapeCoords.Proofs.Json.Reading

/-!
What readers make of any text: a value that stood at its front, or a fault.
-/

namespace ShapeCoords.Json

open Reader

section Definitions

variable {α : Type}

/-- At some offset the reader gave `a` on the text `s` and left `t`. -/
def Took (r : Reader α) (s : List Char) (a : α) (t : List Char) : Prop :=
  ∃ o o', r ⟨s, o⟩ = (.ok a, ⟨t, o'⟩)

/-- On the text `s` the reader gives a fault, at every offset. -/
def Fails (r : Reader α) (s : List Char) : Prop :=
  ∀ o, ∃ e c, r ⟨s, o⟩ = (.error e, c)

/-- On the text `s` the reader gives the value and leaves `t`, or a fault if there is no value. -/
def Gives (r : Reader α) (s : List Char) : Option α → List Char → Prop
  | some a, t => Reads r s a t
  | none, _ => Fails r s

end Definitions

variable {α β σ : Type} {r : Reader α} {f : α → Reader β} {s t u : List Char} {a : α} {b : β}

/-! Faults -/

theorem fails_fail (cause : Cause) (s : List Char) : Fails (Reader.fail cause : Reader α) s :=
  fun _ => ⟨_, _, rfl⟩

theorem fails_failHere (cause : Cause) (s : List Char) :
    Fails (Reader.failHere cause : Reader α) s :=
  fun _ => ⟨_, _, rfl⟩

theorem fails_failNext (cause : Cause) (s : List Char) :
    Fails (Reader.failNext cause : Reader α) s :=
  fun _ => ⟨_, _, rfl⟩

theorem Fails.bind (h : Fails r s) : Fails (r >>= f) s := by
  intro o
  obtain ⟨e, c, ho⟩ := h o
  refine ⟨e, c, ?_⟩
  change Reader.bind r f ⟨s, o⟩ = _
  rw [Reader.bind, ho]

/-- What comes first may fail or not, if what comes next fails on every text. -/
theorem fails_bind (r : Reader α) (h : ∀ a s, Fails (f a) s) : Fails (r >>= f) s := by
  intro o
  change ∃ e c, Reader.bind r f ⟨s, o⟩ = _
  rw [Reader.bind]
  split
  · next a c _ => exact h a c.rest c.offset
  · next e c _ => exact ⟨e, c, rfl⟩

theorem Reads.fails (h : Reads r s a t) (hf : Fails (f a) t) : Fails (r >>= f) s := by
  intro o
  obtain ⟨o', ho⟩ := h o
  obtain ⟨e, c, ho'⟩ := hf o'
  refine ⟨e, c, ?_⟩
  change Reader.bind r f ⟨s, o⟩ = _
  rw [Reader.bind, ho]
  exact ho'

theorem Fails.locate (h : Fails r s) : Fails (locate r) s := by
  intro o
  obtain ⟨⟨cause, place⟩, c, ho⟩ := h o
  rw [Reader.locate, ho]
  cases place <;> exact ⟨_, _, rfl⟩

theorem Fails.closedBy (h : Fails r s) (close : Reader Unit) : Fails (r.closedBy close) s := by
  intro o
  obtain ⟨e, c, ho⟩ := h o
  refine ⟨e, (close c).2, ?_⟩
  rw [Reader.closedBy, ho]

theorem Reads.fails_closedBy {close : Reader Unit} (h : Reads r s a t) (hclose : Fails close t) :
    Fails (r.closedBy close) s := by
  intro o
  obtain ⟨o', ho⟩ := h o
  obtain ⟨e, c, ho'⟩ := hclose o'
  refine ⟨e, c, ?_⟩
  simp only [Reader.closedBy, ho, ho']

/-! Values or faults -/

theorem Reads.ite {p : Prop} [Decidable p] {r' : Reader α} (h : Reads r s a t) (hp : p) :
    Reads (if p then r else r') s a t := by
  rwa [if_pos hp]

namespace Gives

variable {x : Option α} {y : Option β}

theorem bind {g : α → Option β} (h : Gives r s x t)
    (hf : ∀ a, x = some a → Gives (f a) t (g a) u) : Gives (r >>= f) s (x.bind g) u := by
  cases x with
  | none => exact Fails.bind h
  | some a =>
      have hnext := hf a rfl
      rw [Option.bind_some]
      cases hg : g a with
      | none =>
          rw [hg] at hnext
          exact Reads.fails h hnext
      | some b =>
          rw [hg] at hnext
          exact Reads.bind h hnext

theorem map (h : Gives r s x t) (g : α → β) : Gives (g <$> r) s (x.map g) t := by
  rw [Option.map_eq_bind]
  exact h.bind fun a _ => Reads.pure (g a) t

/-- Behind a value that is read, the outcome is that of the rest. -/
theorem of_reads (h : Reads r s a t) (hf : Gives (f a) t y u) : Gives (r >>= f) s y u := by
  cases y with
  | none => exact h.fails hf
  | some b => exact h.bind hf

theorem locate (h : Gives r s x t) : Gives (Reader.locate r) s x t := by
  cases x with
  | none => exact Fails.locate h
  | some a => exact Reads.locate h

theorem closedBy {close : Reader Unit} (h : Gives r s x t) (hclose : Reads close t () u) :
    Gives (r.closedBy close) s x u := by
  cases x with
  | none => exact Fails.closedBy h close
  | some a => exact Reads.closedBy h hclose

/-- If what is left is no end, there is no value. -/
theorem fails_closedBy {close : Reader Unit} (h : Gives r s x t) (hclose : Fails close t) :
    Fails (r.closedBy close) s := by
  cases x with
  | none => exact Fails.closedBy h close
  | some a => exact Reads.fails_closedBy h hclose

/-- The last round of a repetition. -/
theorem loop_stop {step : σ → Reader (σ × Bool)} {c d : σ} (h : Reads (step c) s (d, false) t)
    (n : Nat) : Gives (loop step (n + 1) c) s (some d) t := by
  intro o
  obtain ⟨o', ho⟩ := h o
  exact ⟨o', by simp only [loop, ho]⟩

theorem repeating {step : σ → Reader (σ × Bool)} {c : σ} {z : Option σ}
    (h : Gives (loop step (s.length + 1) c) s z t) : Gives (repeating step c) s z t := by
  cases z <;> exact h

/-- One round of a repetition, and those behind it. -/
theorem loop_next {step : σ → Reader (σ × Bool)} {c : σ} {z : Option σ} {n : Nat}
    {g : σ → Option β} {k : β → σ} (h : Gives (step c) s (z.map fun d => (d, true)) t)
    (hrest : ∀ d, z = some d → Gives (loop step n d) t ((g d).map k) u) :
    Gives (loop step (n + 1) c) s ((z.bind g).map k) u := by
  cases z with
  | none =>
      intro o
      obtain ⟨e, c', ho⟩ := h o
      exact ⟨e, c', by simp only [loop, ho]⟩
  | some d =>
      have hgo : Reads (step c) s (d, true) t := h
      have hstep (o : Nat) : ∃ o', loop step (n + 1) c ⟨s, o⟩ = loop step n d ⟨t, o'⟩ := by
        obtain ⟨o', ho⟩ := hgo o
        exact ⟨o', by simp only [loop, ho]⟩
      have hnext := hrest d rfl
      rw [Option.bind_some]
      cases hg : g d with
      | none =>
          rw [hg] at hnext
          intro o
          obtain ⟨o', ho⟩ := hstep o
          rw [ho]
          exact hnext o'
      | some b =>
          rw [hg] at hnext
          intro o
          obtain ⟨o', ho⟩ := hstep o
          rw [ho]
          exact hnext o'

end Gives

/-! Values that were taken -/

theorem Fails.not_took (h : Fails r s) : ¬Took r s a t := by
  rintro ⟨o, o', ho⟩
  obtain ⟨e, c, he⟩ := h o
  rw [he] at ho
  cases ho

namespace Took

theorem of_pure {b : α} (h : Took (Pure.pure a) s b t) : b = a ∧ t = s := by
  obtain ⟨o, o', ho⟩ := h
  cases ho
  exact ⟨rfl, rfl⟩

theorem of_bind (h : Took (r >>= f) s b u) : ∃ a t, Took r s a t ∧ Took (f a) t b u := by
  obtain ⟨o, o', ho⟩ := h
  change Reader.bind r f ⟨s, o⟩ = _ at ho
  rw [Reader.bind] at ho
  split at ho
  · next a c hr => exact ⟨a, c.rest, ⟨o, c.offset, hr⟩, c.offset, o', ho⟩
  · cases ho

theorem of_loop_succ {step : σ → Reader (σ × Bool)} {n : Nat} {x y : σ}
    (h : Took (loop step (n + 1) x) s y t) :
    (∃ z u, Took (step x) s (z, true) u ∧ Took (loop step n z) u y t) ∨
      Took (step x) s (y, false) t := by
  obtain ⟨o, o', ho⟩ := h
  rw [loop] at ho
  dsimp only at ho
  split at ho
  · next z c hstep => exact .inl ⟨z, c.rest, ⟨o, c.offset, hstep⟩, c.offset, o', ho⟩
  · next z c hstep =>
    cases ho
    exact .inr ⟨o, o', hstep⟩
  · cases ho

theorem of_ite {p : Prop} [Decidable p] {r' : Reader α}
    (h : Took (if p then r else r') s a t) : p ∧ Took r s a t ∨ ¬p ∧ Took r' s a t := by
  split at h
  · next hp => exact .inl ⟨hp, h⟩
  · next hp => exact .inr ⟨hp, h⟩

theorem of_locate (h : Took (locate r) s a t) : Took r s a t := by
  obtain ⟨o, o', ho⟩ := h
  rw [Reader.locate] at ho
  split at ho
  · cases ho
  · exact ⟨o, o', ho⟩

theorem of_closedBy {close : Reader Unit} (h : Took (r.closedBy close) s a u) :
    ∃ t, Took r s a t ∧ Took close t () u := by
  obtain ⟨o, o', ho⟩ := h
  rw [Reader.closedBy] at ho
  split at ho
  · cases ho
  · next b c hr =>
    split at ho
    · next c' hclose =>
      cases ho
      exact ⟨c.rest, ⟨o, c.offset, hr⟩, c.offset, o', hclose⟩
    · cases ho

theorem of_pure_bind {b : β} (h : Took (Pure.pure a >>= f) s b t) : Took (f a) s b t := by
  obtain ⟨o, o', ho⟩ := h
  exact ⟨o, o', ho⟩

theorem of_here_bind {f : Cursor → Reader α} (h : Took (here >>= f) s a t) :
    ∃ c, Took (f c) s a t := by
  obtain ⟨o, o', ho⟩ := h
  exact ⟨⟨s, o⟩, o, o', ho⟩

theorem of_peek_bind {f : Option Char → Reader α} (h : Took (peek >>= f) s a t) :
    Took (f s.head?) s a t := by
  obtain ⟨o, o', ho⟩ := h
  exact ⟨o, o', ho⟩

theorem of_skip_bind {c : Char} {f : Unit → Reader α} (h : Took (skip >>= f) (c :: s) a t) :
    Took (f ()) s a t := by
  obtain ⟨o, o', ho⟩ := h
  exact ⟨o + c.utf8Size, o', ho⟩

theorem of_skip {c : Char} (h : Took skip (c :: s) () t) : t = s := by
  obtain ⟨o, o', ho⟩ := h
  cases ho
  rfl

theorem of_word {w : List Char} (h : Took (word w) s () t) : s = w ++ t := by
  obtain ⟨o, o', ho⟩ := h
  induction w generalizing s o with
  | nil =>
      cases ho
      rfl
  | cons c w ih =>
      rw [word] at ho
      dsimp only at ho
      split at ho
      · cases ho
      · next x rest =>
        split at ho
        · next hx => rw [hx, ih _ ho, List.cons_append]
        · cases ho

/-- A word of which the first character was passed over. -/
theorem of_skip_word {c : Char} {w : List Char} {k : Reader α}
    (h : Took (Reader.skip >>= fun _ => Reader.word w >>= fun _ => k) (c :: s) a t) :
    ∃ u, s = w ++ u ∧ Took k u a t := by
  obtain ⟨⟨⟩, u, hword, hk⟩ := h.of_skip_bind.of_bind
  exact ⟨u, hword.of_word, hk⟩

end Took

/-! White space -/

theorem exists_skipSpaces (s : List Char) (o : Nat) :
    ∃ w t o', skipSpaces s o = ⟨t, o'⟩ ∧ Spaces w ∧ s = w ++ t ∧
      ∀ c ∈ t.head?, isSpace c = false := by
  induction s generalizing o with
  | nil => exact ⟨[], [], o, rfl, Spaces.nil, rfl, fun _ h => nomatch h⟩
  | cons c s ih =>
      rw [skipSpaces]
      split
      · next hc =>
        obtain ⟨w, t, o', hs, hw, rfl, ht⟩ := ih (o + 1)
        exact ⟨c :: w, t, o', hs, List.forall_mem_cons.2 ⟨hc, hw⟩, rfl, ht⟩
      · next hc =>
        refine ⟨[], c :: s, o, rfl, Spaces.nil, rfl, fun d hd => ?_⟩
        cases hd
        exact Bool.eq_false_iff.2 hc

/-- What `nextMember` does where a name should start. -/
def memberName : Option Char → Reader Bool
  | some '"' => do skip; return true
  | some '\x7d' => failNext .trailingComma
  | some _ => failNext .nameNotString
  | none => failNext .endInValue

namespace Took

variable {c : Char}

theorem of_peekToken_bind {f : Option Char → Reader α} (h : Took (peekToken >>= f) s a t) :
    ∃ w u, Spaces w ∧ s = w ++ u ∧ (∀ c ∈ u.head?, isSpace c = false) ∧
      Took (f u.head?) u a t := by
  obtain ⟨o, o', ho⟩ := h
  obtain ⟨w, u, o'', hs, hw, rfl, hu⟩ := exists_skipSpaces s o
  change Reader.bind peekToken f ⟨w ++ u, o⟩ = _ at ho
  rw [Reader.bind, Reader.peekToken] at ho
  dsimp only at ho
  rw [hs] at ho
  exact ⟨w, u, hw, rfl, hu, o'', o', ho⟩

theorem of_valueStart_bind {f : Char → Reader α} (h : Took (valueStart >>= f) s a t) :
    ∃ w c u, Spaces w ∧ s = w ++ c :: u ∧ isSpace c = false ∧ Took (f c) (c :: u) a t := by
  obtain ⟨c, s', hstart, hf⟩ := h.of_bind
  obtain ⟨w, u, hw, rfl, hspace, hnext⟩ := hstart.of_peekToken_bind
  cases u with
  | nil => exact absurd hnext (fails_failNext _ _).not_took
  | cons d u =>
      obtain ⟨rfl, rfl⟩ := hnext.of_pure
      exact ⟨w, c, u, hw, rfl, hspace c rfl, hf⟩

theorem of_colon (h : Took colon s () t) : ∃ w, Spaces w ∧ s = w ++ ':' :: t := by
  obtain ⟨w, u, hw, rfl, -, hnext⟩ := h.of_peekToken_bind
  split at hnext
  · next hu =>
    obtain ⟨v, rfl⟩ := List.head?_eq_some_iff.1 hu
    obtain rfl := hnext.of_skip
    exact ⟨w, hw, rfl⟩
  · exact absurd hnext (fails_failNext _ _).not_took
  · exact absurd hnext (fails_failNext _ _).not_took

theorem of_listEnd (h : Took listEnd s () t) : ∃ w, Spaces w ∧ s = w ++ ']' :: t := by
  obtain ⟨w, u, hw, rfl, -, hnext⟩ := h.of_peekToken_bind
  split at hnext
  · next hu =>
    obtain ⟨v, rfl⟩ := List.head?_eq_some_iff.1 hu
    obtain rfl := hnext.of_skip
    exact ⟨w, hw, rfl⟩
  · next hu =>
    obtain ⟨v, rfl⟩ := List.head?_eq_some_iff.1 hu
    obtain ⟨_, _, -, -, -, hfail⟩ := hnext.of_skip_bind.of_peekToken_bind
    split at hfail <;> exact absurd hfail (fails_failNext _ _).not_took
  · exact absurd hnext (fails_failNext _ _).not_took
  · exact absurd hnext (fails_failNext _ _).not_took

theorem of_objectEnd (h : Took objectEnd s () t) : ∃ w, Spaces w ∧ s = w ++ '\x7d' :: t := by
  obtain ⟨w, u, hw, rfl, -, hnext⟩ := h.of_peekToken_bind
  split at hnext
  · next hu =>
    obtain ⟨v, rfl⟩ := List.head?_eq_some_iff.1 hu
    obtain rfl := hnext.of_skip
    exact ⟨w, hw, rfl⟩
  all_goals exact absurd hnext (fails_failNext _ _).not_took

/-- Up to an item, or up to where it should be the end. -/
theorem of_nextItem {first b : Bool} (h : Took (nextItem first) s b t) :
    (b = true ∧ ∃ w w', Spaces w ∧ Spaces w' ∧ s = w ++ (separator first ++ (w' ++ t))) ∨
      b = false ∧ ∃ w, Spaces w ∧ s = w ++ t := by
  obtain ⟨w, u, hw, rfl, -, hnext⟩ := h.of_peekToken_bind
  split at hnext
  · exact absurd hnext (fails_failNext _ _).not_took
  · obtain ⟨rfl, rfl⟩ := hnext.of_pure
    exact .inr ⟨rfl, w, hw, rfl⟩
  · next c hu =>
    obtain ⟨v, rfl⟩ := List.head?_eq_some_iff.1 hu
    rcases hnext.of_ite with ⟨rfl, hpure⟩ | ⟨hfirst, hnext⟩
    · obtain ⟨rfl, rfl⟩ := hpure.of_pure
      exact .inl ⟨rfl, w, [], hw, Spaces.nil, rfl⟩
    · rcases hnext.of_ite with ⟨rfl, hskip⟩ | ⟨-, hfail⟩
      · obtain ⟨w', u', hw', rfl, -, hnext⟩ := hskip.of_skip_bind.of_peekToken_bind
        split at hnext
        · exact absurd hnext (fails_failNext _ _).not_took
        · obtain ⟨rfl, rfl⟩ := hnext.of_pure
          exact .inl ⟨rfl, w, w', hw, hw', by rw [Bool.not_eq_true] at hfirst; rw [hfirst]; rfl⟩
        · exact absurd hnext (fails_failNext _ _).not_took
      · exact absurd hfail (fails_failNext _ _).not_took

theorem of_memberName {b : Bool} (h : Took (memberName s.head?) s b t) :
    b = true ∧ s = '"' :: t := by
  unfold memberName at h
  split at h
  · next hs =>
    obtain ⟨u, rfl⟩ := List.head?_eq_some_iff.1 hs
    obtain ⟨rfl, rfl⟩ := h.of_skip_bind.of_pure
    exact ⟨rfl, rfl⟩
  all_goals exact absurd h (fails_failNext _ _).not_took

/-- Up to the name of a member, behind its quote. -/
theorem of_nextMember {first b : Bool} (h : Took (nextMember first) s b t) :
    (b = true ∧ ∃ w w', Spaces w ∧ Spaces w' ∧ s = w ++ (separator first ++ (w' ++ '"' :: t))) ∨
      b = false ∧ ∃ w, Spaces w ∧ s = w ++ t := by
  obtain ⟨w, u, hw, rfl, -, hnext⟩ := h.of_peekToken_bind
  split at hnext
  · obtain ⟨rfl, rfl⟩ := hnext.of_pure
    exact .inr ⟨rfl, w, hw, rfl⟩
  · next c _ hu =>
    obtain ⟨v, rfl⟩ := List.head?_eq_some_iff.1 hu
    rcases hnext.of_ite with ⟨rfl, hname⟩ | ⟨hfirst, hnext⟩
    · obtain ⟨rfl, hv⟩ := of_memberName (s := c :: v) hname
      exact .inl ⟨rfl, w, [], hw, Spaces.nil, by rw [hv]; rfl⟩
    · rcases hnext.of_ite with ⟨rfl, hskip⟩ | ⟨-, hfail⟩
      · obtain ⟨w', u', hw', rfl, -, hname⟩ := hskip.of_skip_bind.of_peekToken_bind
        obtain ⟨rfl, rfl⟩ := of_memberName hname
        exact .inl ⟨rfl, w, w', hw, hw', by rw [Bool.not_eq_true] at hfirst; rw [hfirst]; rfl⟩
      · exact absurd hfail (fails_failNext _ _).not_took
  · exact absurd hnext (fails_failNext _ _).not_took

theorem of_textEnd (h : Took textEnd s () t) : Spaces s := by
  obtain ⟨w, u, hw, rfl, -, hnext⟩ := h.of_peekToken_bind
  rcases hnext.of_ite with ⟨-, hfail⟩ | ⟨hnone, -⟩
  · exact absurd hfail (fails_failNext _ _).not_took
  · rw [Option.isSome_iff_ne_none, not_not, List.head?_eq_none_iff] at hnone
    rwa [hnone, List.append_nil]

end Took

/-! Whole texts -/

theorem took_of_run {text : String} (h : r.run text = .ok a) :
    ∃ w, Spaces w ∧ Took r text.toList a w := by
  rw [run] at h
  split at h
  · next b hb =>
    cases h
    obtain ⟨w, u, hr, hend⟩ : ∃ w u, Took r text.toList a w ∧ Took textEnd w () u := by
      have htook : Took (do let a ← r; textEnd; return a) text.toList a
          ((do let a ← r; textEnd; return a : Reader α) ⟨text.toList, 0⟩).2.rest :=
        ⟨0, _, Prod.ext hb rfl⟩
      obtain ⟨b, w, hr, hrest⟩ := htook.of_bind
      obtain ⟨⟨⟩, u, hend, hpure⟩ := hrest.of_bind
      obtain ⟨rfl, -⟩ := hpure.of_pure
      exact ⟨w, u, hr, hend⟩
    exact ⟨w, hend.of_textEnd, hr⟩
  · cases h

theorem toOption_run {x : Option α} {text : String} {w : List Char}
    (h : Gives r text.toList x w) (hw : Spaces w) : (r.run text).toOption = x := by
  cases x with
  | some a =>
      have hrun := run_of_reads_spaces (r := r) h hw
      rw [String.ofList_toList] at hrun
      rw [hrun]
      rfl
  | none =>
      obtain ⟨e, c, ho⟩ := Fails.bind (f := fun a => do textEnd; return a) h 0
      rw [run, ho]
      rfl

theorem run_eq_ok_iff {x : Option α} {text : String} {w : List Char}
    (h : Gives r text.toList x w) (hw : Spaces w) : r.run text = .ok a ↔ x = some a := by
  rw [← toOption_run h hw]
  cases r.run text <;> simp [Except.toOption]

end ShapeCoords.Json
