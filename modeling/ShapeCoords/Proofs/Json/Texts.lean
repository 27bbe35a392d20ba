import ShapeCoords.Proofs.Json.NumberTokens
import ShapeCoords.Proofs.Json.Strings

/-!
The texts of values, with any white space in them, up to a depth of nesting. Each text that is read
as a value is one of its texts.
-/

namespace ShapeCoords.Json

open Reader
open Text (isAsciiDigit)

/-! The grammar -/

section Grammar

variable {α β : Type}

/-- Items one after the other, each with a text that `P` admits, and what separates them. -/
inductive Items (P : List Char → α → Prop) : Bool → List Char → List α → Prop where
  | nil (first : Bool) : Items P first [] []
  | cons {first : Bool} {w w' e s : List Char} {a : α} {as : List α} (hw : Spaces w)
      (hw' : Spaces w') (he : P e a) (hs : Items P false s as) :
      Items P first (w ++ (separator first ++ (w' ++ (e ++ s)))) (a :: as)

/-- A name, and behind a colon its value. -/
inductive IsMember (P : List Char → α → Prop) : List Char → String × α → Prop where
  | mk {n w w' e : List Char} {name : String} {a : α} (hn : IsString n name) (hw : Spaces w)
      (hw' : Spaces w') (he : P e a) : IsMember P (n ++ (w ++ ':' :: (w' ++ e))) (name, a)

/-- The texts of a value, if `inner` has the texts of what it holds. Without them there are no lists
and objects. -/
inductive IsTextWith (inner : Option (List Char → Json → Prop)) : List Char → Json → Prop where
  | null : IsTextWith inner ['n', 'u', 'l', 'l'] .null
  | isTrue : IsTextWith inner ['t', 'r', 'u', 'e'] (.bool true)
  | isFalse : IsTextWith inner ['f', 'a', 'l', 's', 'e'] (.bool false)
  | string {s : List Char} {str : String} (h : IsString s str) : IsTextWith inner s (.string str)
  | number {s : List Char} {j : Json} (h : IsNumberToken false s j) : IsTextWith inner s j
  | negative {s : List Char} {j : Json} (h : IsNumberToken true s j) :
      IsTextWith inner ('-' :: s) j
  | array {P : List Char → Json → Prop} {s w : List Char} {vs : List Json} (hP : inner = some P)
      (hs : Items P true s vs) (hw : Spaces w) :
      IsTextWith inner ('[' :: (s ++ (w ++ [']']))) (.array vs)
  | object {P : List Char → Json → Prop} {s w : List Char} {ms : List (String × Json)}
      (hP : inner = some P) (hs : Items (IsMember P) true s ms) (hw : Spaces w) :
      IsTextWith inner ('\x7b' :: (s ++ (w ++ ['\x7d']))) (.object ms)

/-- `s` is a text of `v` in which lists and objects are nested at most `depth` deep. -/
def IsText : Nat → List Char → Json → Prop
  | 0 => IsTextWith none
  | depth + 1 => IsTextWith (some (IsText depth))

variable {P Q : List Char → α → Prop} {first : Bool} {s : List Char} {as : List α}

theorem Items.mono (h : ∀ e a, P e a → Q e a) (hs : Items P first s as) : Items Q first s as := by
  induction hs with
  | nil first => exact .nil first
  | cons hw hw' he _ ih => exact .cons hw hw' (h _ _ he) ih

theorem IsMember.mono {m : String × α} (h : ∀ e a, P e a → Q e a) (hm : IsMember P s m) :
    IsMember Q s m := by
  obtain ⟨hn, hw, hw', he⟩ := hm
  exact .mk hn hw hw' (h _ _ he)

theorem IsMember.exists_eq_cons {m : String × α} (h : IsMember P s m) : ∃ u, s = '"' :: u := by
  obtain ⟨⟨_⟩⟩ := h
  exact ⟨_, rfl⟩

end Grammar

section Texts

variable {inner : Option (List Char → Json → Prop)} {d : Nat} {s : List Char} {v : Json}

/-- What stands inside may be nested one level more. -/
theorem IsText.succ (h : IsText d s v) : IsText (d + 1) s v := by
  induction d generalizing s v with
  | zero =>
      cases h with
      | null => exact .null
      | isTrue => exact .isTrue
      | isFalse => exact .isFalse
      | string h => exact .string h
      | number h => exact .number h
      | negative h => exact .negative h
      | array hP => cases hP
      | object hP => cases hP
  | succ d ih =>
      cases h with
      | null => exact .null
      | isTrue => exact .isTrue
      | isFalse => exact .isFalse
      | string h => exact .string h
      | number h => exact .number h
      | negative h => exact .negative h
      | array hP hs hw =>
          cases hP
          exact .array rfl (hs.mono fun _ _ => ih) hw
      | object hP hs hw =>
          cases hP
          exact .object rfl (hs.mono fun _ _ => .mono fun _ _ => ih) hw

/-- The first character of a text is no white space, and no end of a list. -/
theorem IsTextWith.exists_eq_cons (h : IsTextWith inner s v) :
    ∃ c u, s = c :: u ∧ isSpace c = false ∧ c ≠ ']' := by
  cases h with
  | null => exact ⟨_, _, rfl, rfl, by decide⟩
  | isTrue => exact ⟨_, _, rfl, rfl, by decide⟩
  | isFalse => exact ⟨_, _, rfl, rfl, by decide⟩
  | string h =>
      cases h
      exact ⟨_, _, rfl, rfl, by decide⟩
  | number h =>
      obtain ⟨c, u, rfl, hc⟩ := h.exists_eq_cons
      refine ⟨c, u, rfl, isSpace_of_isAsciiDigit hc, ?_⟩
      rintro rfl
      cases hc
  | negative => exact ⟨_, _, rfl, rfl, by decide⟩
  | array => exact ⟨_, _, rfl, rfl, by decide⟩
  | object => exact ⟨_, _, rfl, rfl, by decide⟩

theorem IsText.exists_eq_cons (h : IsText d s v) :
    ∃ c u, s = c :: u ∧ isSpace c = false ∧ c ≠ ']' := by
  cases d with
  | zero => exact IsTextWith.exists_eq_cons h
  | succ d => exact IsTextWith.exists_eq_cons h

def isScalar : Json → Bool
  | .array _ | .object _ => false
  | _ => true

/-- What a text holds has one level less to be nested in. -/
theorem IsText.exists_inner (h : IsText d s v) :
    ∃ inner, IsTextWith inner s v ∧ ∀ P, inner = some P → ∃ d', d = d' + 1 ∧ P = IsText d' := by
  cases d with
  | zero => exact ⟨none, h, fun _ hP => nomatch hP⟩
  | succ d => exact ⟨_, h, fun P hP => ⟨d, rfl, (Option.some.inj hP).symm⟩⟩

theorem IsText.of_scalar (h : IsText d s v) (hv : v.isScalar = true) :
    ∃ c u, s = c :: u ∧ isSpace c = false ∧ c ≠ '[' ∧ c ≠ '\x7b' := by
  obtain ⟨inner, htext, -⟩ := h.exists_inner
  cases htext with
  | null => exact ⟨_, _, rfl, rfl, by decide, by decide⟩
  | isTrue => exact ⟨_, _, rfl, rfl, by decide, by decide⟩
  | isFalse => exact ⟨_, _, rfl, rfl, by decide, by decide⟩
  | string hstring =>
      cases hstring
      exact ⟨_, _, rfl, rfl, by decide, by decide⟩
  | number hnumber =>
      obtain ⟨c, u, rfl, hc⟩ := hnumber.exists_eq_cons
      refine ⟨c, u, rfl, isSpace_of_isAsciiDigit hc, ?_, ?_⟩
      · rintro rfl
        cases hc
      · rintro rfl
        cases hc
  | negative => exact ⟨_, _, rfl, rfl, by decide, by decide⟩
  | array => cases hv
  | object => cases hv

theorem IsText.of_array {vs : List Json} (h : IsText d s (.array vs)) :
    ∃ d' body w, d = d' + 1 ∧ s = '[' :: (body ++ (w ++ [']'])) ∧
      Items (IsText d') true body vs ∧ Spaces w := by
  obtain ⟨inner, htext, hinner⟩ := h.exists_inner
  cases htext with
  | number hnumber => cases hnumber.isNumeric
  | negative hnumber => cases hnumber.isNumeric
  | array hP hs hw =>
      obtain ⟨d', rfl, rfl⟩ := hinner _ hP
      exact ⟨d', _, _, rfl, rfl, hs, hw⟩

theorem IsText.of_object {ms : List (String × Json)} (h : IsText d s (.object ms)) :
    ∃ d' body w, d = d' + 1 ∧ s = '\x7b' :: (body ++ (w ++ ['\x7d'])) ∧
      Items (IsMember (IsText d')) true body ms ∧ Spaces w := by
  obtain ⟨inner, htext, hinner⟩ := h.exists_inner
  cases htext with
  | number hnumber => cases hnumber.isNumeric
  | negative hnumber => cases hnumber.isNumeric
  | object hP hs hw =>
      obtain ⟨d', rfl, rfl⟩ := hinner _ hP
      exact ⟨d', _, _, rfl, rfl, hs, hw⟩

end Texts

/-! What is taken from a text -/

section Items

variable {σ β : Type} {P : List Char → β → Prop} {put : σ → β → Option σ}
variable {step : Bool × σ → Reader ((Bool × σ) × Bool)} {first first' : Bool} {a b : σ}
variable {s t : List Char}

/-- Each step takes an item and puts it to what was read, or stops. -/
def TakesItems (step : Bool × σ → Reader ((Bool × σ) × Bool)) (P : List Char → β → Prop)
    (put : σ → β → Option σ) : Prop :=
  ∀ first a s first' b more t, Took (step (first, a)) s ((first', b), more) t →
    (more = true ∧ first' = false ∧ ∃ w w' e x, Spaces w ∧ Spaces w' ∧
      s = w ++ (separator first ++ (w' ++ (e ++ t))) ∧ P e x ∧ put a x = some b) ∨
    more = false ∧ b = a ∧ ∃ w, Spaces w ∧ s = w ++ t

theorem Took.of_loop (hstep : TakesItems step P put) {n : Nat}
    (h : Took (loop step n (first, a)) s (first', b) t) :
    ∃ body w xs, s = body ++ (w ++ t) ∧ Items P first body xs ∧ Spaces w ∧
      xs.foldlM put a = some b := by
  induction n generalizing first a s with
  | zero =>
      obtain ⟨hstate, rfl⟩ := h.of_pure
      cases hstate
      exact ⟨[], [], [], rfl, .nil _, Spaces.nil, rfl⟩
  | succ n ih =>
      rcases h.of_loop_succ with ⟨⟨first'', c⟩, u, hgo, hrest⟩ | hstop
      · rcases hstep _ _ _ _ _ _ _ hgo with ⟨-, rfl, w, w', e, x, hw, hw', rfl, he, hx⟩ | ⟨hmore, -⟩
        · obtain ⟨body, v, xs, rfl, hbody, hv, hxs⟩ := ih hrest
          refine ⟨w ++ (separator first ++ (w' ++ (e ++ body))), v, x :: xs, by simp,
            .cons hw hw' he hbody, hv, ?_⟩
          rw [List.foldlM_cons, hx]
          exact hxs
        · cases hmore
      · rcases hstep _ _ _ _ _ _ _ hstop with ⟨hmore, -⟩ | ⟨-, rfl, w, hw, rfl⟩
        · cases hmore
        · exact ⟨[], w, [], rfl, .nil _, hw, rfl⟩

/-- What the reader takes for `put a x` stands behind white space and has a text of `x` in `P`. -/
theorem Took.of_eachItem {item : σ → Reader σ}
    (hitem : ∀ a s b t, Took (item a) s b t →
      ∃ w e x, Spaces w ∧ s = w ++ (e ++ t) ∧ P e x ∧ put a x = some b)
    (h : Took (eachItem item a) s b t) :
    ∃ body w xs, s = body ++ (w ++ t) ∧ Items P true body xs ∧ Spaces w ∧
      xs.foldlM put a = some b := by
  have hstep : TakesItems (itemStep item) P put := by
    intro first a s first' b more t hstep
    obtain ⟨goOn, u, hnext, hrest⟩ := hstep.of_bind
    rcases hnext.of_nextItem with ⟨rfl, w, w', hw, hw', rfl⟩ | ⟨rfl, w, hw, rfl⟩
    · obtain ⟨c, u', htook, hpure⟩ := hrest.of_bind
      obtain ⟨hstate, rfl⟩ := hpure.of_pure
      cases hstate
      obtain ⟨w'', e, x, hw'', rfl, he, hx⟩ := hitem _ _ _ _ htook
      exact .inl ⟨rfl, rfl, w, w' ++ w'', e, x, hw, hw'.append hw'', by simp, he, hx⟩
    · obtain ⟨hstate, rfl⟩ := hrest.of_pure
      cases hstate
      exact .inr ⟨rfl, rfl, w, hw, rfl⟩
  obtain ⟨⟨first', b'⟩, u, hrepeated, hpure⟩ := h.of_bind
  obtain ⟨rfl, rfl⟩ := hpure.of_pure
  have hloop : Took (loop (itemStep item) (s.length + 1) (true, a)) s (first', b) t := hrepeated
  exact hloop.of_loop hstep

theorem Took.of_eachMember {member : String → σ → Reader σ} {f : σ → String × β → Option σ}
    (hmember : ∀ name a s b t, Took (member name a) s b t → ∃ w w' e x, Spaces w ∧ Spaces w' ∧
      s = w ++ ':' :: (w' ++ (e ++ t)) ∧ P e x ∧ f a (name, x) = some b)
    (h : Took (eachMember member a) s b t) :
    ∃ body w xs, s = body ++ (w ++ t) ∧ Items (IsMember P) true body xs ∧ Spaces w ∧
      xs.foldlM f a = some b := by
  have hstep : TakesItems (memberStep member) (IsMember P) f := by
    intro first a s first' b more t hstep
    obtain ⟨goOn, u, hnext, hrest⟩ := hstep.of_bind
    rcases hnext.of_nextMember with ⟨rfl, w, w', hw, hw', rfl⟩ | ⟨rfl, w, hw, rfl⟩
    · obtain ⟨name, v, hname, hvalue⟩ := hrest.of_bind
      obtain ⟨n, rfl, hn⟩ := hname.of_string
      obtain ⟨c, u', htook, hpure⟩ := hvalue.of_bind
      obtain ⟨hstate, rfl⟩ := hpure.of_pure
      cases hstate
      obtain ⟨v, v', e, x, hv, hv', rfl, he, hx⟩ := hmember _ _ _ _ _ htook
      exact .inl ⟨rfl, rfl, w, w', '"' :: n ++ (v ++ ':' :: (v' ++ e)), (name, x), hw, hw',
        by simp, .mk hn hv hv' he, hx⟩
    · obtain ⟨hstate, rfl⟩ := hrest.of_pure
      cases hstate
      exact .inr ⟨rfl, rfl, w, hw, rfl⟩
  obtain ⟨⟨first', b'⟩, u, hrepeated, hpure⟩ := h.of_bind
  obtain ⟨rfl, rfl⟩ := hpure.of_pure
  have hloop : Took (loop (memberStep member) (s.length + 1) (true, a)) s (first', b) t :=
    hrepeated
  exact hloop.of_loop hstep

end Items

/-- What the reader takes is a text of the value that it gives, behind white space. -/
def TakesTexts {α : Type} (r : Reader α) (P : List Char → α → Prop) : Prop :=
  ∀ s a t, Took r s a t → ∃ w e, Spaces w ∧ s = w ++ (e ++ t) ∧ P e a

section Lists

variable {β : Type} {r : Reader β} {P : List Char → β → Prop} {s t : List Char}

/-- Reads an item and puts it in front of those before. -/
def pushItem (r : Reader β) (read : List β) : Reader (List β) := do
  return (← r) :: read

/-- Reads a member behind its name and puts it in front of those before. -/
def pushMember (r : Reader β) (name : String) (read : List (String × β)) :
    Reader (List (String × β)) := do
  colon
  return (name, ← r) :: read

/-- What comes of the items is put in front of each other. -/
theorem foldlM_push_eq_some_iff {α β : Type} {f : α → Option β} {xs : List α} {acc ys : List β} :
    xs.foldlM (fun read x => (f x).map fun y => y :: read) acc = some ys ↔
      ∃ zs, List.Forall₂ (fun x z => f x = some z) xs zs ∧ ys = zs.reverse ++ acc := by
  induction xs generalizing acc with
  | nil => simp [eq_comm]
  | cons x xs ih =>
      constructor
      · intro h
        obtain ⟨read, hread, hrest⟩ := Option.bind_eq_some_iff.1 h
        obtain ⟨z, hz, rfl⟩ := Option.map_eq_some_iff.1 hread
        obtain ⟨zs, hzs, rfl⟩ := ih.1 hrest
        exact ⟨z :: zs, .cons hz hzs, by simp⟩
      · rintro ⟨all, hall, rfl⟩
        obtain ⟨z, zs, hz, hzs, rfl⟩ := List.forall₂_cons_left_iff.1 hall
        rw [List.foldlM_cons, hz]
        exact ih.2 ⟨zs, hzs, by simp⟩

theorem foldlM_cons_eq {α : Type} (xs acc : List α) :
    xs.foldlM (fun read x => some (x :: read)) acc = some (xs.reverse ++ acc) :=
  foldlM_push_eq_some_iff.2 ⟨xs, List.forall₂_same.2 fun _ _ => rfl, rfl⟩

theorem TakesTexts.items (hr : TakesTexts r P) {xs : List β}
    (h : Took ((eachItem (pushItem r) []).closedBy listEnd) s xs t) :
    ∃ body w, Spaces w ∧ s = body ++ (w ++ ']' :: t) ∧ Items P true body xs.reverse := by
  obtain ⟨u, hitems, hclose⟩ := h.of_closedBy
  obtain ⟨w', hw', rfl⟩ := hclose.of_listEnd
  have hitem (read : List β) (s : List Char) (b : List β) (t : List Char)
      (h : Took (pushItem r read) s b t) :
      ∃ w e x, Spaces w ∧ s = w ++ (e ++ t) ∧ P e x ∧ some (x :: read) = some b := by
    obtain ⟨x, _, hx, hpure⟩ := h.of_bind
    obtain ⟨rfl, rfl⟩ := hpure.of_pure
    obtain ⟨w, e, hw, hs, he⟩ := hr _ _ _ hx
    exact ⟨w, e, x, hw, hs, he, rfl⟩
  obtain ⟨body, w, ys, rfl, hbody, hw, hys⟩ := hitems.of_eachItem hitem
  rw [foldlM_cons_eq, List.append_nil] at hys
  obtain rfl := Option.some.inj hys
  rw [List.reverse_reverse]
  exact ⟨body, w ++ w', hw.append hw', by simp, hbody⟩

theorem TakesTexts.members (hr : TakesTexts r P) {xs : List (String × β)}
    (h : Took ((eachMember (pushMember r) []).closedBy objectEnd) s xs t) :
    ∃ body w, Spaces w ∧ s = body ++ (w ++ '\x7d' :: t) ∧
      Items (IsMember P) true body xs.reverse := by
  obtain ⟨u, hmembers, hclose⟩ := h.of_closedBy
  obtain ⟨w', hw', rfl⟩ := hclose.of_objectEnd
  have hmember (name : String) (read : List (String × β)) (s : List Char)
      (b : List (String × β)) (t : List Char) (h : Took (pushMember r name read) s b t) :
      ∃ w w' e x, Spaces w ∧ Spaces w' ∧ s = w ++ ':' :: (w' ++ (e ++ t)) ∧ P e x ∧
        some ((name, x) :: read) = some b := by
    obtain ⟨⟨⟩, _, hcolon, hrest⟩ := h.of_bind
    obtain ⟨x, _, hx, hpure⟩ := hrest.of_bind
    obtain ⟨rfl, rfl⟩ := hpure.of_pure
    obtain ⟨w, hw, rfl⟩ := hcolon.of_colon
    obtain ⟨w', e, hw', rfl, he⟩ := hr _ _ _ hx
    exact ⟨w, w', e, x, hw, hw', rfl, he, rfl⟩
  obtain ⟨body, w, ys, rfl, hbody, hw, hys⟩ :=
    hmembers.of_eachMember (f := fun read x => some (x :: read)) hmember
  rw [foldlM_cons_eq, List.append_nil] at hys
  obtain rfl := Option.some.inj hys
  rw [List.reverse_reverse]
  exact ⟨body, w ++ w', hw.append hw', by simp, hbody⟩

end Lists

section Values

variable {inner : Option (Reader Json)} {P : Option (List Char → Json → Prop)}

theorem takesTexts_anyWith
    (hinner : ∀ r, inner = some r → ∃ Q, P = some Q ∧ TakesTexts r Q) :
    TakesTexts (anyWith inner) (IsTextWith P) := by
  intro s v t h
  obtain ⟨w, c, u, hw, rfl, -, hvalue⟩ := h.of_valueStart_bind
  replace hvalue := hvalue.of_locate
  split at hvalue
  · obtain ⟨u', rfl, hpure⟩ := hvalue.of_skip_word
    obtain ⟨rfl, rfl⟩ := hpure.of_pure
    exact ⟨w, _, hw, rfl, .null⟩
  · obtain ⟨u', rfl, hpure⟩ := hvalue.of_skip_word
    obtain ⟨rfl, rfl⟩ := hpure.of_pure
    exact ⟨w, _, hw, rfl, .isTrue⟩
  · obtain ⟨u', rfl, hpure⟩ := hvalue.of_skip_word
    obtain ⟨rfl, rfl⟩ := hpure.of_pure
    exact ⟨w, _, hw, rfl, .isFalse⟩
  · obtain ⟨str, v, hstr, hpure⟩ := hvalue.of_skip_bind.of_bind
    obtain ⟨rfl, rfl⟩ := hpure.of_pure
    obtain ⟨e, rfl, he⟩ := hstr.of_string
    exact ⟨w, '"' :: e, hw, rfl, .string he⟩
  · exact absurd hvalue (fails_failNext _ _).not_took
  · exact absurd hvalue (fails_failNext _ _).not_took
  · next r =>
    obtain ⟨Q, rfl, hQ⟩ := hinner r rfl
    obtain ⟨items, u', hclosed, hpure⟩ := hvalue.of_skip_bind.of_bind
    obtain ⟨rfl, rfl⟩ := hpure.of_pure
    obtain ⟨body, w', hw', rfl, hbody⟩ := hQ.items hclosed
    exact ⟨w, '[' :: (body ++ (w' ++ [']'])), hw, by simp, .array rfl hbody hw'⟩
  · next r =>
    obtain ⟨Q, rfl, hQ⟩ := hinner r rfl
    obtain ⟨members, u', hclosed, hpure⟩ := hvalue.of_skip_bind.of_bind
    obtain ⟨rfl, rfl⟩ := hpure.of_pure
    obtain ⟨body, w', hw', rfl, hbody⟩ := hQ.members hclosed
    exact ⟨w, '\x7b' :: (body ++ (w' ++ ['\x7d'])), hw, by simp, .object rfl hbody hw'⟩
  · obtain ⟨e, rfl, he⟩ := hvalue.of_skip_bind.of_number
    exact ⟨w, '-' :: e, hw, rfl, .negative he⟩
  · split at hvalue
    · obtain ⟨e, he, hnumber⟩ := hvalue.of_number
      exact ⟨w, e, hw, by rw [he], .number hnumber⟩
    · exact absurd hvalue (fails_failNext _ _).not_took

theorem takesTexts_any (d : Nat) : TakesTexts (any d) (IsText d) := by
  induction d with
  | zero => exact takesTexts_anyWith fun _ h => nomatch h
  | succ d ih =>
      refine takesTexts_anyWith fun r hr => ⟨_, rfl, ?_⟩
      obtain rfl := Option.some.inj hr
      exact ih

end Values

end ShapeCoords.Json
