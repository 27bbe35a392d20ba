import Mathlib.Tactic
import ShapeCoords.Json.Reader.Values

/-!
What a reader reads: its value and what it leaves of the text, whatever lies before.
-/

namespace ShapeCoords.Json

open Reader

/-- On the text `s` the reader gives `a` and leaves `t`, at every offset. -/
def Reads {α : Type} (r : Reader α) (s : List Char) (a : α) (t : List Char) : Prop :=
  ∀ o, ∃ o', r ⟨s, o⟩ = (.ok a, ⟨t, o'⟩)

namespace Reads

variable {α β σ : Type} {r : Reader α} {s t u w : List Char} {a : α} {b : β} {c : Char}

theorem pure (a : α) (s : List Char) : Reads (Pure.pure a) s a s :=
  fun o => ⟨o, rfl⟩

theorem bind {f : α → Reader β} (h : Reads r s a t) (hf : Reads (f a) t b u) :
    Reads (r >>= f) s b u := by
  intro o
  obtain ⟨o', ho⟩ := h o
  obtain ⟨o'', ho'⟩ := hf o'
  refine ⟨o'', ?_⟩
  change Reader.bind r f ⟨s, o⟩ = _
  rw [Reader.bind, ho]
  exact ho'

theorem locate (h : Reads r s a t) : Reads (locate r) s a t := by
  intro o
  obtain ⟨o', ho⟩ := h o
  refine ⟨o', ?_⟩
  rw [Reader.locate, ho]

theorem closedBy {close : Reader Unit} (h : Reads r s a t) (hclose : Reads close t () u) :
    Reads (r.closedBy close) s a u := by
  intro o
  obtain ⟨o', ho⟩ := h o
  obtain ⟨o'', ho'⟩ := hclose o'
  refine ⟨o'', ?_⟩
  simp only [Reader.closedBy, ho, ho']

theorem here (s : List Char) {f : Cursor → Reader α} (h : ∀ c, Reads (f c) s a t) :
    Reads (Reader.here >>= f) s a t :=
  fun o => h ⟨s, o⟩ o

/-! Characters -/

theorem peek (s : List Char) : Reads peek s s.head? s :=
  fun o => ⟨o, rfl⟩

theorem skip (c : Char) (s : List Char) : Reads skip (c :: s) () s :=
  fun o => ⟨o + c.utf8Size, rfl⟩

theorem word (w s : List Char) : Reads (word w) (w ++ s) () s := by
  induction w with
  | nil => exact Reads.pure () s
  | cons c w ih =>
      intro o
      obtain ⟨o', ho⟩ := ih (o + 1)
      refine ⟨o', ?_⟩
      simp only [Reader.word, List.cons_append, if_true]
      exact ho

/-- A word of which the first character is passed over. -/
theorem skip_word (c : Char) (w s : List Char) {f : Reader α} (h : Reads f s a t) :
    Reads (Reader.skip >>= fun _ => Reader.word w >>= fun _ => f) (c :: w ++ s) a t :=
  (Reads.skip c (w ++ s)).bind ((Reads.word w s).bind h)

end Reads

/-! White space -/

def Spaces (w : List Char) : Prop :=
  ∀ c ∈ w, isSpace c = true

theorem Spaces.nil : Spaces [] :=
  fun _ h => absurd h List.not_mem_nil

theorem Spaces.append {v w : List Char} (hv : Spaces v) (hw : Spaces w) : Spaces (v ++ w) :=
  List.forall_mem_append.2 ⟨hv, hw⟩

section Tokens

variable {w s t : List Char} {c : Char}

theorem skipSpaces_append (hw : Spaces w) (hc : isSpace c = false) (s : List Char) (o : Nat) :
    ∃ o', skipSpaces (w ++ c :: s) o = ⟨c :: s, o'⟩ := by
  induction w generalizing o with
  | nil =>
      refine ⟨o, ?_⟩
      rw [List.nil_append, skipSpaces, hc, if_neg Bool.false_ne_true]
  | cons x w ih =>
      obtain ⟨o', ho⟩ := ih (fun y hy => hw y (List.mem_cons_of_mem x hy)) (o + 1)
      refine ⟨o', ?_⟩
      rw [List.cons_append, skipSpaces, if_pos (hw x List.mem_cons_self)]
      exact ho

theorem Reads.peekToken (hw : Spaces w) (hc : isSpace c = false) (s : List Char) :
    Reads peekToken (w ++ c :: s) (some c) (c :: s) := by
  intro o
  obtain ⟨o', ho⟩ := skipSpaces_append hw hc s o
  refine ⟨o', ?_⟩
  rw [Reader.peekToken, ho]
  rfl

theorem Reads.valueStart (hw : Spaces w) (hc : isSpace c = false) (s : List Char) :
    Reads valueStart (w ++ c :: s) c (c :: s) :=
  (Reads.peekToken hw hc s).bind (Reads.pure c _)

theorem Reads.colon (hw : Spaces w) (s : List Char) : Reads colon (w ++ ':' :: s) () s :=
  (Reads.peekToken hw rfl s).bind (Reads.skip ':' s)

theorem Reads.listEnd (hw : Spaces w) (s : List Char) : Reads listEnd (w ++ ']' :: s) () s :=
  (Reads.peekToken hw rfl s).bind (Reads.skip ']' s)

theorem Reads.objectEnd (s : List Char) : Reads objectEnd ('\x7d' :: s) () s :=
  (Reads.peekToken Spaces.nil rfl s).bind (Reads.skip '\x7d' s)

theorem skipSpaces_spaces (hw : Spaces w) (o : Nat) : ∃ o', skipSpaces w o = ⟨[], o'⟩ := by
  induction w generalizing o with
  | nil => exact ⟨o, rfl⟩
  | cons x w ih =>
      obtain ⟨o', ho⟩ := ih (fun y hy => hw y (List.mem_cons_of_mem x hy)) (o + 1)
      refine ⟨o', ?_⟩
      rw [skipSpaces, if_pos (hw x List.mem_cons_self)]
      exact ho

theorem Reads.textEnd (hw : Spaces w) : Reads textEnd w () [] := by
  have hpeek : Reads Reader.peekToken w none [] := by
    intro o
    obtain ⟨o', ho⟩ := skipSpaces_spaces hw o
    refine ⟨o', ?_⟩
    rw [Reader.peekToken, ho]
    rfl
  exact hpeek.bind (Reads.pure () [])

/-- A text that a reader reads, but for white space at its end. -/
theorem run_of_reads_spaces {α : Type} {r : Reader α} {a : α} (h : Reads r s a w)
    (hw : Spaces w) : r.run (String.ofList s) = .ok a := by
  have hwhole : Reads (do let a ← r; textEnd; return a) s a [] :=
    h.bind ((Reads.textEnd hw).bind (Reads.pure a []))
  obtain ⟨o, ho⟩ := hwhole 0
  rw [Reader.run]
  simp only [String.toList_ofList]
  rw [ho]

end Tokens

/-! Repetition -/

section Repetition

variable {σ : Type} {step : σ → Reader (σ × Bool)} {a b c : σ} {s t u : List Char}

/-- The steps of a repetition. All but the last shorten the text. -/
inductive Repeats (step : σ → Reader (σ × Bool)) : σ → List Char → σ → List Char → Prop
  | stop {a b : σ} {s t : List Char} (h : Reads (step a) s (b, false) t) : Repeats step a s b t
  | next {a b c : σ} {s t u : List Char} (h : Reads (step a) s (b, true) t)
      (hlength : t.length < s.length) (hrest : Repeats step b t c u) : Repeats step a s c u

theorem Repeats.reads_loop (h : Repeats step a s b t) {n : Nat} (hn : s.length < n) :
    Reads (loop step n a) s b t := by
  -- there is more fuel than text, and each step uses up as much text as fuel
  induction h generalizing n with
  | stop h =>
      obtain ⟨n, rfl⟩ := Nat.exists_eq_add_one_of_ne_zero (Nat.ne_zero_of_lt hn)
      intro o
      obtain ⟨o', ho⟩ := h o
      exact ⟨o', by simp only [loop, ho]⟩
  | next h hlength _ ih =>
      obtain ⟨n, rfl⟩ := Nat.exists_eq_add_one_of_ne_zero (Nat.ne_zero_of_lt hn)
      intro o
      obtain ⟨o', ho⟩ := h o
      obtain ⟨o'', ho'⟩ := ih (by omega : _ < n) o'
      exact ⟨o'', by simp only [loop, ho, ho']⟩

/-- The fuel of a repetition suffices. -/
theorem Repeats.reads (h : Repeats step a s b t) : Reads (repeating step a) s b t :=
  fun o => h.reads_loop (Nat.lt_succ_self _) o

end Repetition

/-! Lists and objects -/

section Lists

variable {σ : Type} {w w' s t : List Char} {c : Char} {first : Bool}

/-- What stands before an item or member. -/
def separator (first : Bool) : List Char :=
  if first then [] else [',']

theorem Reads.nextItem (hw : Spaces w) (hw' : Spaces w') (hc : isSpace c = false)
    (hend : c ≠ ']') (s : List Char) :
    Reads (nextItem first) (w ++ (separator first ++ (w' ++ c :: s))) true (c :: s) := by
  cases first with
  | true =>
      rw [separator, if_pos rfl, List.nil_append, ← List.append_assoc]
      refine (Reads.peekToken (hw.append hw') hc s).bind ?_
      split
      · next h => cases h
      · next h => exact absurd (Option.some.inj h) hend
      · next h => exact Reads.pure true _
  | false =>
      refine (Reads.peekToken hw rfl (w' ++ c :: s)).bind ?_
      refine (Reads.skip ',' (w' ++ c :: s)).bind ((Reads.peekToken hw' hc s).bind ?_)
      split
      · next h => exact absurd (Option.some.inj h) hend
      · exact Reads.pure true _
      · next h => cases h

theorem Reads.nextItem_end (hw : Spaces w) (s : List Char) :
    Reads (Reader.nextItem first) (w ++ ']' :: s) false (']' :: s) :=
  (Reads.peekToken hw rfl s).bind (Reads.pure false _)

theorem Reads.nextMember (hw : Spaces w) (hw' : Spaces w') (s : List Char) :
    Reads (nextMember first) (w ++ (separator first ++ (w' ++ '"' :: s))) true s := by
  cases first with
  | true =>
      rw [separator, if_pos rfl, List.nil_append, ← List.append_assoc]
      refine (Reads.peekToken (hw.append hw') rfl s).bind ?_
      exact (Reads.skip '"' s).bind (Reads.pure true s)
  | false =>
      refine (Reads.peekToken hw rfl (w' ++ '"' :: s)).bind ?_
      refine (Reads.skip ',' (w' ++ '"' :: s)).bind ((Reads.peekToken hw' rfl s).bind ?_)
      exact (Reads.skip '"' s).bind (Reads.pure true s)

theorem Reads.nextMember_end (hw : Spaces w) (s : List Char) :
    Reads (Reader.nextMember first) (w ++ '\x7d' :: s) false ('\x7d' :: s) :=
  (Reads.peekToken hw rfl s).bind (Reads.pure false _)

def itemStep (item : σ → Reader σ) (state : Bool × σ) : Reader ((Bool × σ) × Bool) := do
  if ← Reader.nextItem state.1 then return ((false, ← item state.2), true)
  else return (state, false)

def memberStep (member : String → σ → Reader σ) (state : Bool × σ) :
    Reader ((Bool × σ) × Bool) := do
  if ← Reader.nextMember state.1 then
    let name ← Reader.string
    return ((false, ← member name state.2), true)
  else return (state, false)

theorem Repeats.reads_eachItem {item : σ → Reader σ} {a b : σ}
    (h : Repeats (itemStep item) (true, a) s (first, b) t) : Reads (eachItem item a) s b t :=
  h.reads.bind (Reads.pure b t)

theorem Repeats.reads_eachMember {member : String → σ → Reader σ} {a b : σ}
    (h : Repeats (memberStep member) (true, a) s (first, b) t) :
    Reads (eachMember member a) s b t :=
  h.reads.bind (Reads.pure b t)

end Lists

end ShapeCoords.Json
