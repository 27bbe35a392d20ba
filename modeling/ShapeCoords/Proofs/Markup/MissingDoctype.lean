import ShapeCoords.Proofs.Markup.KeptOrder

/-!
A text without a doctype at its start has a fault for that, which moves nothing. Any other fault of
its kind may tell of content that moved.
-/

namespace ShapeCoords.Markup

open Builder

/-- What may stand in front of a doctype. -/
def Item.isIgnorable : Item → Bool
  | .fault _ => true
  | .token .comment => true
  | .token (.text s) => isAllSpace s
  | .token _ => false

/-- Whether a doctype comes in front of all else that counts. It is looked for in at most so many
steps. -/
def startsWithDoctype : Nat → Source → Bool
  | 0, _ => false
  | n + 1, src =>
    if src.rest.isEmpty then false
    else
      let (items, src) := src.next false .markup
      match items.find? fun item => !item.isIgnorable with
      | some (.token (.doctype _)) => true
      | some _ => false
      | none => startsWithDoctype n src

namespace Builder

/-- Nothing has been come by but faults. -/
def atStart (faults : List Fault) : Builder :=
  { faults := faults }

/-- The root is looked for, as there was no doctype. -/
def withoutDoctype (faults : List Fault) : Builder :=
  { mode := .beforeHtml, followsOldRules := true, faults := .unexpectedToken :: faults }

variable {fs : List Fault} {s : List Char} {n : Nat}

theorem goesTo_withoutDoctype (fs : List Fault) :
    (withoutDoctype fs).GoesTo (withoutDoctype fs) :=
  .refl (.inr ⟨rfl, rfl, rfl⟩)

/-! Runs of a text -/

theorem splitRun_append (s : List Char) : (splitRun s).1 ++ (splitRun s).2 = s := by
  cases s with
  | nil => rfl
  | cons c s => exact congrArg (c :: ·) List.takeWhile_append_dropWhile

theorem length_splitRun_lt (h : s ≠ []) : (splitRun s).2.length < s.length := by
  cases s with
  | nil => exact absurd rfl h
  | cons c s => exact Nat.lt_succ_of_le (List.dropWhile_sublist _).length_le

theorem isAllSpace_append (s t : List Char) :
    isAllSpace (s ++ t) = (isAllSpace s && isAllSpace t) := by
  simp [isAllSpace]

/-- The first run of a text in front of a doctype. -/
theorem settle_text (n : Nat) (s : List Char) (fs : List Fault) :
    settle (n + 1) (.text s) [] (atStart fs) =
      if isAllSpace (splitRun s).1 then
        if (splitRun s).2.isEmpty then (atStart fs, none)
        else settle n (.text (splitRun s).2) [] (atStart fs)
      else settle n (.text (splitRun s).1) (splitRun s).2 (withoutDoctype fs) := by
  have hportion : (atStart fs).portion (.text s) = (.text (splitRun s).1, (splitRun s).2) := rfl
  have hstep : (atStart fs).step (.text (splitRun s).1) =
      if isAllSpace (splitRun s).1 then (atStart fs).done else (withoutDoctype fs).again := rfl
  rw [settle, hportion]
  dsimp only
  rw [hstep, List.append_nil]
  cases isAllSpace (splitRun s).1 <;> rfl

theorem settle_space (n : Nat) (hs : isAllSpace s = true) :
    settle n (.text s) [] (atStart fs) = (atStart fs, none) := by
  induction n generalizing s with
  | zero => rfl
  | succ n ih =>
      rw [← splitRun_append s, isAllSpace_append, Bool.and_eq_true] at hs
      rw [settle_text, if_pos hs.1, ih hs.2, ite_self]

theorem settle_nonSpace (hn : s.length < n) (hs : isAllSpace s = false) :
    (withoutDoctype fs).GoesTo (settle n (.text s) [] (atStart fs)).1 := by
  induction n generalizing s with
  | zero => exact absurd hn (Nat.not_lt_zero _)
  | succ n ih =>
      have hne : s ≠ [] := by
        rintro rfl
        cases hs
      have hlength := length_splitRun_lt hne
      rw [← splitRun_append s, isAllSpace_append] at hs
      rw [settle_text]
      cases hrun : isAllSpace (splitRun s).1 with
      | true =>
          rw [hrun, Bool.true_and] at hs
          have hrest : (splitRun s).2.isEmpty = false := by
            cases hcase : (splitRun s).2 with
            | nil =>
                rw [hcase] at hs
                cases hs
            | cons c rest => rfl
          rw [if_pos rfl, hrest, if_neg Bool.false_ne_true]
          exact ih (by omega) hs
      | false =>
          rw [if_neg Bool.false_ne_true]
          exact (goesTo_withoutDoctype fs).settle _ _ _

/-! Items -/

theorem takeToken_text (s : List Char) (fs : List Fault) :
    (atStart fs).takeToken (.text s) =
      if s.isEmpty then (atStart fs, none)
      else settle (s.length + (64 + 7 * s.length)) (.text s) [] (atStart fs) := by
  have hbound : (atStart fs).stepBound (.text s) = s.length + (64 + 7 * s.length) := by
    show 64 + 8 * s.length + 8 * 0 = _
    omega
  rw [← hbound]
  rfl

/-- A token that is not looked at in parts. -/
theorem takeToken_whole {token : Token} (hportion : (atStart fs).portion token = (token, []))
    (htake : (atStart fs).takeToken token = settle 64 token [] (atStart fs))
    (hstep : (atStart fs).step token = (withoutDoctype fs).again) :
    (withoutDoctype fs).GoesTo ((atStart fs).takeToken token).1 := by
  have hsettle : settle 64 token [] (atStart fs) = settle 63 token [] (withoutDoctype fs) := by
    rw [settle, hportion]
    dsimp only
    rw [hstep]
    rfl
  rw [htake, hsettle]
  exact (goesTo_withoutDoctype fs).settle _ _ _

theorem takeItem_ignorable {item : Item} (h : item.isIgnorable = true) (fs : List Fault) :
    ∃ fs', (atStart fs).takeItem item = (atStart fs', none) := by
  cases item with
  | fault f => exact ⟨f :: fs, rfl⟩
  | token token =>
      cases token with
      | comment => exact ⟨fs, rfl⟩
      | text s =>
          refine ⟨fs, ?_⟩
          rw [takeItem, takeToken_text, settle_space _ h, ite_self]
      | _ => cases h

/-- The first token that counts, unless it is a doctype, leads to looking for the root. -/
theorem takeToken_notIgnorable {token : Token} (h : Item.isIgnorable (.token token) = false)
    (hdoctype : ∀ d, token ≠ .doctype d) (fs : List Fault) :
    (withoutDoctype fs).GoesTo ((atStart fs).takeToken token).1 := by
  cases token with
  | text s =>
      have hne : s.isEmpty = false := by
        cases s with
        | nil => cases h
        | cons c s => rfl
      rw [takeToken_text, hne, if_neg Bool.false_ne_true]
      exact settle_nonSpace (by omega) h
  | null => exact takeToken_whole rfl rfl rfl
  | tag t => exact takeToken_whole rfl rfl rfl
  | endOfText => exact takeToken_whole rfl rfl rfl
  | comment => cases h
  | doctype d => exact absurd rfl (hdoctype d)

theorem takeToken_endOfText (fs : List Fault) :
    (withoutDoctype fs).GoesTo ((atStart fs).takeToken .endOfText).1 :=
  takeToken_notIgnorable rfl (fun _ h => by cases h) fs

theorem takeItems_cons_ignorable {item : Item} (h : item.isIgnorable = true) (items : List Item)
    (fs : List Fault) :
    ∃ fs', (atStart fs).takeItems (item :: items) = (atStart fs').takeItems items := by
  obtain ⟨fs', htake⟩ := takeItem_ignorable h fs
  refine ⟨fs', ?_⟩
  rw [takeItems, htake]
  dsimp only
  obtain ⟨b, content⟩ := (atStart fs').takeItems items
  cases content <;> rfl

theorem takeItems_none {items : List Item} (fs : List Fault)
    (h : items.find? (fun item => !item.isIgnorable) = none) :
    ∃ fs', (atStart fs).takeItems items = (atStart fs', none) := by
  induction items generalizing fs with
  | nil => exact ⟨fs, rfl⟩
  | cons item items ih =>
      rw [List.find?_eq_none] at h
      have hitem : item.isIgnorable = true := by simpa using h item List.mem_cons_self
      obtain ⟨fs', htake⟩ := takeItems_cons_ignorable hitem items fs
      rw [htake]
      exact ih fs' (List.find?_eq_none.2 fun x hx => h x (List.mem_cons_of_mem _ hx))

theorem takeItems_some {items : List Item} {token : Token} (fs : List Fault)
    (h : items.find? (fun item => !item.isIgnorable) = some (.token token))
    (hdoctype : ∀ d, token ≠ .doctype d) :
    ∃ fs', (withoutDoctype fs').GoesTo ((atStart fs).takeItems items).1 := by
  induction items generalizing fs with
  | nil => cases h
  | cons item items ih =>
      cases hitem : item.isIgnorable with
      | true =>
          obtain ⟨fs', htake⟩ := takeItems_cons_ignorable hitem items fs
          rw [htake]
          exact ih fs' (by rwa [List.find?_cons_of_neg (by simp [hitem])] at h)
      | false =>
          rw [List.find?_cons_of_pos (by simp [hitem])] at h
          obtain rfl := Option.some.inj h
          exact ⟨fs, (takeToken_notIgnorable hitem hdoctype fs).takeItems items⟩

theorem find?_notIgnorable {items : List Item} {item : Item}
    (h : items.find? (fun item => !item.isIgnorable) = some item) : ∃ token, item = .token token := by
  have := List.find?_some h
  cases item with
  | fault f => cases this
  | token token => exact ⟨token, rfl⟩

/-- Without a doctype at its start a text comes to the search for a root, or ends before. -/
theorem build_withoutDoctype (src : Source) (fs : List Fault)
    (h : startsWithDoctype n src = false) :
    (∃ fs', build n src .markup (atStart fs) = atStart fs') ∨
      ∃ fs', (withoutDoctype fs').GoesTo (build n src .markup (atStart fs)) := by
  induction n generalizing src fs with
  | zero => exact .inl ⟨fs, rfl⟩
  | succ n ih =>
      have hforeign : (atStart fs).isForeign = false := rfl
      rw [startsWithDoctype] at h
      rw [build, hforeign]
      split
      · exact .inr ⟨fs, takeToken_endOfText fs⟩
      · rename_i hmore
        rw [if_neg hmore] at h
        dsimp only at h ⊢
        cases hfind : (src.next false .markup).1.find? fun item => !item.isIgnorable with
        | none =>
            rw [hfind] at h
            obtain ⟨fs', htake⟩ := takeItems_none fs hfind
            rw [htake]
            exact ih _ fs' h
        | some item =>
            rw [hfind] at h
            obtain ⟨token, rfl⟩ := find?_notIgnorable hfind
            have hdoctype : ∀ d, token ≠ .doctype d := by
              rintro d rfl
              cases h
            obtain ⟨fs', hgoes⟩ := takeItems_some fs hfind hdoctype
            exact .inr ⟨fs', hgoes.build _ _ _⟩

end Builder

/-- How many faults of a text may be of a kind that tells of moved content although none moved. -/
def toleratedFaults (s : List Char) : Nat :=
  if startsWithDoctype (s.length + 1) ⟨s, none⟩ then 0 else 1

/-- The elements of a text stand in the order in which they were made, unless a fault tells
otherwise. -/
theorem madeInOrder_parse {s : List Char}
    (h : (parse s).2.countP Fault.misplaces ≤ toleratedFaults (dropOrderMark s)) :
    (parse s).1.MadeInOrder := by
  let text := dropOrderMark s
  let b := build (text.length + 1) ⟨text, none⟩ .markup {}
  have hfaults : b.faults.countP Fault.misplaces ≤ toleratedFaults text := by
    rwa [← List.countP_reverse]
  show b.tree.MadeInOrder
  have hnone : ∀ {fs : List Fault}, fs.countP Fault.misplaces = 0 →
      ∀ f ∈ fs, f.misplaces = false := fun hcount f hf =>
    Bool.eq_false_iff.2 (List.countP_eq_zero.1 hcount f hf)
  rw [toleratedFaults] at hfaults
  split at hfaults
  · have hgoes : GoesTo {} b := .build _ _ _ (.refl (.inr ⟨rfl, rfl, rfl⟩))
    obtain ⟨new, hnew, horder⟩ := hgoes.isInOrder fun o tag hmem => by cases hmem
    rw [hnew, List.append_nil] at hfaults
    exact (horder (isInOrder_of_empty rfl rfl rfl) (hnone (Nat.le_zero.1 hfaults))).made
  · rename_i hdoctype
    rcases build_withoutDoctype ⟨text, none⟩ [] (Bool.eq_false_iff.2 hdoctype) with
      ⟨fs, hbuild⟩ | ⟨fs, hgoes⟩
    · have : b = atStart fs := hbuild
      rw [this]
      exact (isInOrder_of_empty rfl rfl rfl).made
    · obtain ⟨new, hnew, horder⟩ := hgoes.isInOrder fun o tag hmem => by cases hmem
      have hnew : b.faults = new ++ .unexpectedToken :: fs := hnew
      rw [hnew, List.countP_append, List.countP_cons_of_pos rfl] at hfaults
      exact (horder (isInOrder_of_empty rfl rfl rfl) (hnone (by omega))).made

/-- The fault of a missing doctype is tolerated. -/
example : (parse "<svg><g><circle></circle></g></svg>".toList).2.countP Fault.misplaces = 1 ∧
    toleratedFaults "<svg><g><circle></circle></g></svg>".toList = 1 := by
  decide +kernel

end ShapeCoords.Markup
