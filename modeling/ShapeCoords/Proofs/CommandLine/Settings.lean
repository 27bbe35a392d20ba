import ShapeCoords.Proofs.CommandLine.Items

/-!
What the items of a command line come to: there is at most one page, and of all items that set the
same thing the last one counts.
-/

namespace ShapeCoords.CommandLine

namespace Item

/-! What an item sets. -/

def page? : Item → Option String
  | .page path => some path
  | _ => none

/-- A program is there to draw with. -/
def drawing? : Item → Option Drawing
  | .drawing d => some d
  | .program _ => some .program
  | _ => none

def program? : Item → Option String
  | .program path => some path
  | _ => none

def config? : Item → Option String
  | .config path => some path
  | _ => none

def missingTransform? : Item → Option MissingTransform
  | .identityFallback => some .identity
  | _ => none

def bottomRightY? : Item → Option BottomRightY
  | .adjustedBottomRight => some .adjusted
  | _ => none

def malformed? : Item → Option Malformed
  | .skipMalformed => some .skip
  | _ => none

def circleCenter? : Item → Option CircleCenter
  | .circleCenter c => some c
  | _ => none

def strictMarkup? : Item → Option Bool
  | .strictMarkup => some true
  | _ => none

end Item

variable {α : Type} {set? : Item → Option α} {i : Item} {items items' : List Item}

/-- What the last item sets of all that set something. -/
def lastSet (set? : Item → Option α) (items : List Item) : Option α :=
  (items.filterMap set?).getLast?

theorem lastSet_cons (set? : Item → Option α) (i : Item) (items : List Item) :
    lastSet set? (i :: items) = (lastSet set? items).or (set? i) := by
  rw [lastSet, lastSet]
  cases h : set? i with
  | none => rw [List.filterMap_cons_none h, Option.or_none]
  | some v =>
      rw [List.filterMap_cons_some h, List.getLast?_cons]
      cases (items.filterMap set?).getLast? <;> rfl

/-- If only one value is ever set, the order of the items does not count. -/
theorem lastSet_perm_of_eq {v : α} (hset : ∀ i w, set? i = some w → w = v)
    (h : items.Perm items') : lastSet set? items = lastSet set? items' := by
  -- what the items set is the same value over and over, so only their number counts
  have hconst (items : List Item) :
      items.filterMap set? = List.replicate (items.filterMap set?).length v := by
    refine List.eq_replicate_iff.2 ⟨rfl, fun w hw => ?_⟩
    obtain ⟨i, -, hi⟩ := List.mem_filterMap.1 hw
    exact hset i w hi
  rw [lastSet, lastSet, hconst items, hconst items', (h.filterMap set?).length_eq]

namespace Arguments

variable {a b : Arguments} {get : Arguments → Option α}

/-- Only a page behind another is refused. What an item does not set stays as it is. -/
theorem add_eq_some_iff : add a i = some b ↔
    (i.page? = none ∨ a.page = none) ∧
      b = { page := i.page?.or a.page
            drawing := i.drawing?.getD a.drawing
            program := i.program?.or a.program
            config := i.config?.or a.config
            overrides :=
              { missingTransform := i.missingTransform?.or a.overrides.missingTransform
                bottomRightY := i.bottomRightY?.or a.overrides.bottomRightY
                malformed := i.malformed?.or a.overrides.malformed
                circleCenter := i.circleCenter?.or a.overrides.circleCenter
                strictMarkup := i.strictMarkup?.or a.overrides.strictMarkup } } := by
  cases i with
  | page path =>
      rw [add]
      cases hpage : a.page with
      | none =>
          simp only [Option.isSome_none, Bool.false_eq_true, if_false, Option.some.injEq]
          exact ⟨fun h => ⟨.inr trivial, h.symm⟩, fun h => h.2.symm⟩
      | some path' =>
          simp only [Option.isSome_some, if_true, Item.page?, reduceCtorEq, or_self, false_and]
  | _ => exact ⟨fun h => ⟨.inl rfl, (Option.some.inj h).symm⟩, fun h => congrArg some h.2.symm⟩

/-- An item puts into `get` what it sets, and otherwise leaves there what it found. -/
def Tracks (get : Arguments → Option α) (set? : Item → Option α) : Prop :=
  ∀ {a i b}, add a i = some b → get b = (set? i).or (get a)

theorem Tracks.run (htracks : Tracks get set?) (h : items.foldlM add a = some b) :
    get b = (lastSet set? items).or (get a) := by
  induction items generalizing a with
  | nil =>
      cases h
      rfl
  | cons i items ih =>
      rw [List.foldlM_cons] at h
      obtain ⟨a', hi, hitems⟩ := Option.bind_eq_some_iff.1 h
      rw [ih hitems, htracks hi, lastSet_cons, Option.or_assoc]

/-- From the start only the items count. -/
theorem Tracks.ofItems (htracks : Tracks get set?) (hstart : get {} = none)
    (h : ofItems items = some a) : get a = lastSet set? items := by
  rw [htracks.run h, hstart, Option.or_none]

/-- The items are accepted unless they have two pages. -/
theorem isSome_foldlM_add_iff : (items.foldlM add a).isSome ↔
    (a.page.toList ++ items.filterMap Item.page?).length ≤ 1 := by
  induction items generalizing a with
  | nil => cases a.page <;> simp
  | cons i items ih =>
      rw [List.foldlM_cons]
      by_cases haccepted : i.page? = none ∨ a.page = none
      -- the page that is taken in moves from the items to the arguments
      · rw [add_eq_some_iff.2 ⟨haccepted, rfl⟩]
        refine ih.trans ?_
        rcases haccepted with hpage | hpage
        · rw [hpage, List.filterMap_cons_none hpage, Option.none_or]
        · rw [hpage, Option.or_none]
          cases hitem : i.page? with
          | none => rw [List.filterMap_cons_none hitem]
          | some path => rw [List.filterMap_cons_some hitem]; rfl
      · have hrefused : add a i = none :=
          Option.eq_none_iff_forall_ne_some.2 fun b hb => haccepted (add_eq_some_iff.1 hb).1
        rw [not_or] at haccepted
        obtain ⟨path, hitem⟩ := Option.ne_none_iff_exists'.1 haccepted.1
        obtain ⟨path', hpage⟩ := Option.ne_none_iff_exists'.1 haccepted.2
        rw [hrefused, hpage, List.filterMap_cons_some hitem]
        simp

theorem isSome_ofItems_iff : (ofItems items).isSome ↔ (items.filterMap Item.page?).length ≤ 1 :=
  isSome_foldlM_add_iff

theorem config_ofItems (h : ofItems items = some a) : a.config = lastSet Item.config? items := by
  have htracks : Tracks config Item.config? := fun h => by rw [(add_eq_some_iff.1 h).2]
  exact htracks.ofItems rfl h

/-- Each of the options is tracked on its own. -/
theorem overrides_ofItems (h : ofItems items = some a) :
    a.overrides =
      { missingTransform := lastSet Item.missingTransform? items
        bottomRightY := lastSet Item.bottomRightY? items
        malformed := lastSet Item.malformed? items
        circleCenter := lastSet Item.circleCenter? items
        strictMarkup := lastSet Item.strictMarkup? items } := by
  have hmissing : Tracks (·.overrides.missingTransform) Item.missingTransform? :=
    fun h => by rw [(add_eq_some_iff.1 h).2]
  have hcorner : Tracks (·.overrides.bottomRightY) Item.bottomRightY? :=
    fun h => by rw [(add_eq_some_iff.1 h).2]
  have hmalformed : Tracks (·.overrides.malformed) Item.malformed? :=
    fun h => by rw [(add_eq_some_iff.1 h).2]
  have hcenter : Tracks (·.overrides.circleCenter) Item.circleCenter? :=
    fun h => by rw [(add_eq_some_iff.1 h).2]
  have hstrict : Tracks (·.overrides.strictMarkup) Item.strictMarkup? :=
    fun h => by rw [(add_eq_some_iff.1 h).2]
  rw [← hmissing.ofItems rfl h, ← hcorner.ofItems rfl h, ← hmalformed.ofItems rfl h,
    ← hcenter.ofItems rfl h, ← hstrict.ofItems rfl h]

end Arguments

end ShapeCoords.CommandLine
