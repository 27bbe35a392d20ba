import Mathlib.Algebra.Order.Field.Rat
import Mathlib.Data.Finset.Card
import Mathlib.Data.List.Nodup
import Mathlib.Logic.Relation
import ShapeCoords.Markup.Tree

/-!
Document order: each element comes in front of what stands in it, and of its later siblings. A tree
in which no element stands in itself has exactly one such order of the elements of its document.
That none does is told by ranks: each element has a higher rank than the one it stands in. An
element can get a rank between any two, so that ranks never need to be given anew.
-/

namespace ShapeCoords.Markup

open Relation (ReflTransGen)

/-- The element that a place belongs to. -/
def Place.owner? : Place → Option Nat
  | .document => none
  | .element id => some id
  | .contents id => some id

namespace Tree

/-- What stands in an element. The contents of a template come first. -/
def inside (id : Nat) (t : Tree) : List Nat :=
  t.children (.contents id) ++ t.children (.element id)

/-- Going through siblings and all that stands in them, each element in front of what is in it. -/
inductive Visits (t : Tree) : List Nat → List Nat → Prop
  | nil : Visits t [] []
  | cons {id : Nat} {siblings inner behind : List Nat} :
      Visits t (t.inside id) inner → Visits t siblings behind →
        Visits t (id :: siblings) (id :: inner ++ behind)

/-- Goes through siblings and all that stands in them, in so many steps. -/
def walk (t : Tree) : Nat → List Nat → List Nat
  | 0, _ => []
  | _, [] => []
  | n + 1, id :: siblings => id :: t.walk n (t.inside id ++ siblings)

/-- The elements of the document in document order, if the tree is a forest. -/
def documentOrder (t : Tree) : List Nat :=
  t.walk t.elements.size (t.children .document)

/-- The elements of the document in document order. -/
def IsDocumentOrder (t : Tree) (ids : List Nat) : Prop :=
  t.Visits (t.children .document) ids

/-- One element stands directly in another one, or in the contents of that. -/
def Under (t : Tree) (child owner : Nat) : Prop :=
  ∃ p, ⟨child, p⟩ ∈ t.links ∧ p.owner? = some owner

/-- An element stands in the document, or in an element that does. -/
inductive InDocument (t : Tree) : Nat → Prop
  | top {id : Nat} : ⟨id, .document⟩ ∈ t.links → InDocument t id
  | under {id owner : Nat} : t.Under id owner → InDocument t owner → InDocument t id

/-- Each element has at most one place, in an element that is there and has a lower rank. -/
structure RankedBy (rank : Nat → ℚ) (t : Tree) : Prop where
  distinct : (t.links.map Link.child).Nodup
  childMade : ∀ l ∈ t.links, l.child < t.elements.size
  ownerMade : ∀ child owner, t.Under child owner → owner < t.elements.size
  higher : ∀ child owner, t.Under child owner → rank owner < rank child

/-- No element stands in itself, or in two places. -/
def IsForest (t : Tree) : Prop :=
  ∃ rank, t.RankedBy rank

section Places

variable {t : Tree} {rank : Nat → ℚ} {id owner : Nat} {p : Place}

theorem mem_children : id ∈ t.children p ↔ ⟨id, p⟩ ∈ t.links := by
  simp only [children, List.mem_reverse, List.mem_map, List.mem_filter, beq_iff_eq]
  constructor
  · rintro ⟨l, ⟨hl, rfl⟩, rfl⟩
    exact hl
  · intro h
    exact ⟨⟨id, p⟩, ⟨h, rfl⟩, rfl⟩

theorem mem_inside : id ∈ t.inside owner ↔ t.Under id owner := by
  rw [inside, List.mem_append, mem_children, mem_children, Under]
  constructor
  · rintro (h | h)
    · exact ⟨_, h, rfl⟩
    · exact ⟨_, h, rfl⟩
  · rintro ⟨p, h, howner⟩
    cases p <;> cases howner
    · exact .inr h
    · exact .inl h

theorem eq_of_mem_links (ht : t.RankedBy rank) {q : Place} (hp : ⟨id, p⟩ ∈ t.links)
    (hq : ⟨id, q⟩ ∈ t.links) : p = q := by
  have := List.inj_on_of_nodup_map ht.distinct hp hq rfl
  exact congrArg Link.parent this

theorem parent?_eq_some_iff (ht : t.RankedBy rank) :
    t.parent? id = some p ↔ ⟨id, p⟩ ∈ t.links := by
  have hsound : ∀ q, t.parent? id = some q → ⟨id, q⟩ ∈ t.links := by
    intro q hq
    obtain ⟨⟨child, parent⟩, hl, rfl⟩ := Option.map_eq_some_iff.1 hq
    have hchild : child = id := by simpa using List.find?_some hl
    exact hchild ▸ List.mem_of_find?_eq_some hl
  refine ⟨hsound p, fun h => ?_⟩
  cases hparent : t.parent? id with
  | none =>
      rw [parent?, Option.map_eq_none_iff, List.find?_eq_none] at hparent
      simpa using hparent _ h
  | some q => rw [eq_of_mem_links ht (hsound q hparent) h]

theorem isSome_parent?_of_mem_links (h : ⟨id, p⟩ ∈ t.links) : (t.parent? id).isSome = true := by
  rw [parent?, Option.isSome_map, List.find?_isSome]
  exact ⟨_, h, by simp⟩

theorem RankedBy.owner_unique (ht : t.RankedBy rank) {other : Nat} (h : t.Under id owner)
    (hother : t.Under id other) : owner = other := by
  obtain ⟨p, hp, howner⟩ := h
  obtain ⟨q, hq, hother⟩ := hother
  rw [eq_of_mem_links ht hp hq, hother] at howner
  exact (Option.some.inj howner).symm

theorem RankedBy.child_lt (ht : t.RankedBy rank) (h : t.Under id owner) :
    id < t.elements.size := by
  obtain ⟨p, hp, -⟩ := h
  exact ht.childMade _ hp

theorem RankedBy.le_of_reflTransGen (ht : t.RankedBy rank) (h : ReflTransGen t.Under id owner) :
    rank owner ≤ rank id := by
  induction h with
  | refl => exact le_rfl
  | tail _ hstep ih => exact (ht.higher _ _ hstep).le.trans ih

end Places

/-! Going through a forest -/

section Visits

variable {t : Tree} {rank : Nat → ℚ} {id : Nat} {ids order : List Nat}

theorem Visits.unique (h : t.Visits ids order) {other : List Nat} (h' : t.Visits ids other) :
    order = other := by
  induction h generalizing other with
  | nil =>
      cases h'
      rfl
  | cons _ _ ihin ihbehind =>
      cases h' with
      | cons hin hbehind => rw [ihin hin, ihbehind hbehind]

theorem Visits.append {more behind : List Nat} (h : t.Visits ids order)
    (hmore : t.Visits more behind) : t.Visits (ids ++ more) (order ++ behind) := by
  induction h with
  | nil => exact hmore
  | cons hin _ _ ih =>
      rw [List.append_assoc]
      exact .cons hin ih

/-- In so many steps as there are elements to come by, all of them are. -/
theorem Visits.walk_eq {n : Nat} (h : t.Visits ids order) (hn : order.length ≤ n) :
    t.walk n ids = order := by
  induction n generalizing ids order with
  | zero =>
      rw [List.length_eq_zero_iff.1 (Nat.le_zero.1 hn), walk]
  | succ n ih =>
      cases h with
      | nil => rfl
      | cons hin hbehind =>
          rw [walk, List.cons_append, ih (hin.append hbehind) (by simpa using hn)]

theorem exists_visits_of_each (h : ∀ id ∈ ids, ∃ inner, t.Visits (t.inside id) inner) :
    ∃ order, t.Visits ids order := by
  induction ids with
  | nil => exact ⟨[], .nil⟩
  | cons id ids ih =>
      obtain ⟨inner, hinner⟩ := h id List.mem_cons_self
      obtain ⟨behind, hbehind⟩ := ih fun other hother => h other (List.mem_cons_of_mem _ hother)
      exact ⟨_, .cons hinner hbehind⟩

/-- The elements of a higher rank. -/
def ofHigherRank (rank : Nat → ℚ) (t : Tree) (id : Nat) : Finset Nat :=
  (Finset.range t.elements.size).filter fun other => rank id < rank other

theorem RankedBy.ofHigherRank_ssubset (ht : t.RankedBy rank) {child : Nat} (h : t.Under child id) :
    ofHigherRank rank t child ⊂ ofHigherRank rank t id := by
  have hrank := ht.higher _ _ h
  refine (Finset.ssubset_iff_of_subset fun other hother => ?_).2 ⟨child, ?_, fun hmem => ?_⟩
  · obtain ⟨hmade, hlt⟩ := Finset.mem_filter.1 hother
    exact Finset.mem_filter.2 ⟨hmade, hrank.trans hlt⟩
  · exact Finset.mem_filter.2 ⟨Finset.mem_range.2 (ht.child_lt h), hrank⟩
  · exact lt_irrefl _ (Finset.mem_filter.1 hmem).2

/-- Going inwards comes to an end: fewer and fewer elements have a higher rank. -/
theorem RankedBy.exists_visits_inside (ht : t.RankedBy rank) (id : Nat) :
    ∃ inner, t.Visits (t.inside id) inner := by
  induction id using (measure fun id => (ofHigherRank rank t id).card).wf.induction with
  | _ id ih =>
      exact exists_visits_of_each fun child hchild =>
        ih child (Finset.card_lt_card (ht.ofHigherRank_ssubset (mem_inside.1 hchild)))

theorem Visits.subset (h : t.Visits ids order) : ids ⊆ order := by
  induction h with
  | nil => exact List.Subset.refl _
  | cons _ _ _ ih =>
      intro x hx
      rcases List.mem_cons.1 hx with rfl | hx
      · exact List.mem_cons_self
      · exact List.mem_cons_of_mem _ (List.mem_append_right _ (ih hx))

/-- Whatever stands in an element that is come by is come by too. -/
theorem Visits.closed (h : t.Visits ids order) {owner : Nat} (howner : owner ∈ order)
    (hid : t.Under id owner) : id ∈ order := by
  induction h with
  | nil => cases howner
  | cons hin hbehind ihin ihbehind =>
      rw [List.cons_append, List.mem_cons, List.mem_append] at howner ⊢
      rcases howner with rfl | howner | howner
      · exact .inr (.inl (hin.subset (mem_inside.2 hid)))
      · exact .inr (.inl (ihin howner))
      · exact .inr (.inr (ihbehind howner))

/-- Whatever is come by stands in one of the siblings, or is one. -/
theorem Visits.exists_ancestor (h : t.Visits ids order) (hid : id ∈ order) :
    ∃ top ∈ ids, ReflTransGen t.Under id top := by
  induction h with
  | nil => cases hid
  | cons hin hbehind ihin ihbehind =>
      rename_i first _ _ _
      rw [List.cons_append, List.mem_cons, List.mem_append] at hid
      rcases hid with rfl | hid | hid
      · exact ⟨id, List.mem_cons_self, .refl⟩
      · obtain ⟨child, hchild, hup⟩ := ihin hid
        exact ⟨first, List.mem_cons_self, hup.tail (mem_inside.1 hchild)⟩
      · obtain ⟨top, htop, hup⟩ := ihbehind hid
        exact ⟨top, List.mem_cons_of_mem _ htop, hup⟩

theorem InDocument.of_ancestor {top : Nat} (h : ReflTransGen t.Under id top)
    (htop : t.InDocument top) : t.InDocument id := by
  induction h using ReflTransGen.head_induction_on with
  | refl => exact htop
  | head hstep _ ih => exact .under hstep ih

/-- The order is of the elements in the document. -/
theorem IsDocumentOrder.mem_iff (h : t.IsDocumentOrder order) :
    id ∈ order ↔ t.InDocument id := by
  constructor
  · intro hid
    obtain ⟨top, htop, hup⟩ := h.exists_ancestor hid
    exact .of_ancestor hup (.top (mem_children.1 htop))
  · intro hid
    induction hid with
    | top htop => exact h.subset (mem_children.2 htop)
    | under hunder _ ih => exact h.closed ih hunder

end Visits

/-! Siblings -/

/-- Elements that all stand in the same element, or all in the document. -/
def AreSiblings (t : Tree) (owner : Option Nat) (ids : List Nat) : Prop :=
  ∀ id ∈ ids, ∃ p, ⟨id, p⟩ ∈ t.links ∧ p.owner? = owner

section Siblings

variable {t : Tree} {rank : Nat → ℚ} {owner : Option Nat} {id other : Nat} {ids order : List Nat}

theorem areSiblings_inside (t : Tree) (id : Nat) : t.AreSiblings (some id) (t.inside id) :=
  fun _ h => mem_inside.1 h

theorem areSiblings_top (t : Tree) : t.AreSiblings none (t.children .document) :=
  fun _ h => ⟨_, mem_children.1 h, rfl⟩

/-- No sibling stands in another one. -/
theorem AreSiblings.eq_of_ancestor (ht : t.RankedBy rank) (h : t.AreSiblings owner ids)
    (hid : id ∈ ids) (hother : other ∈ ids) (hup : ReflTransGen t.Under id other) : id = other := by
  rcases hup.cases_head with rfl | ⟨between, hfirst, hrest⟩
  · rfl
  obtain ⟨p, hp, hpo⟩ := h id hid
  obtain ⟨q, hq, hqo⟩ := h other hother
  obtain ⟨r, hr, hro⟩ := hfirst
  rw [eq_of_mem_links ht hr hp, hpo] at hro
  have := ht.higher other between ⟨q, hq, hqo.trans hro⟩
  exact absurd (ht.le_of_reflTransGen hrest) (not_le.2 this)

/-- What stands in an element does not stand in a sibling of that. -/
theorem AreSiblings.eq_of_common (ht : t.RankedBy rank) (h : t.AreSiblings owner ids)
    (hid : id ∈ ids) (hother : other ∈ ids) {x : Nat} (hx : ReflTransGen t.Under x id)
    (hx' : ReflTransGen t.Under x other) : id = other := by
  have hunique : Relator.RightUnique t.Under := fun _ _ _ h h' => ht.owner_unique h h'
  rcases ReflTransGen.total_of_right_unique hunique hx hx' with hup | hup
  · exact h.eq_of_ancestor ht hid hother hup
  · exact (h.eq_of_ancestor ht hother hid hup).symm

theorem nodup_children (ht : t.RankedBy rank) (p : Place) : (t.children p).Nodup := by
  rw [children, List.nodup_reverse]
  exact ht.distinct.sublist (List.filter_sublist.map _)

theorem nodup_inside (ht : t.RankedBy rank) (id : Nat) : (t.inside id).Nodup := by
  refine List.Nodup.append (nodup_children ht _) (nodup_children ht _) ?_
  intro child hcontents helement
  have := eq_of_mem_links ht (mem_children.1 hcontents) (mem_children.1 helement)
  cases this

theorem Visits.nodup (ht : t.RankedBy rank) (h : t.Visits ids order)
    (hids : t.AreSiblings owner ids) (hnodup : ids.Nodup) : order.Nodup := by
  induction h generalizing owner with
  | nil => exact List.nodup_nil
  | @cons first siblings inner behind hin hbehind ihin ihbehind =>
      obtain ⟨hfirst, hsiblings⟩ := List.nodup_cons.1 hnodup
      have hinner := ihin (areSiblings_inside t first) (nodup_inside ht first)
      have hbehind' := ihbehind (fun id h => hids id (List.mem_cons_of_mem _ h)) hsiblings
      -- what is in the first one, that one too, is in no other one
      have hapart : ∀ x ∈ behind, ¬ReflTransGen t.Under x first := by
        intro x hx hup
        obtain ⟨top, htop, hup'⟩ := hbehind.exists_ancestor hx
        have := hids.eq_of_common ht List.mem_cons_self (List.mem_cons_of_mem _ htop) hup hup'
        exact hfirst (this ▸ htop)
      have hdown : ∀ x ∈ inner, ∃ child, ReflTransGen t.Under x child ∧ t.Under child first := by
        intro x hx
        obtain ⟨child, hchild, hup⟩ := hin.exists_ancestor hx
        exact ⟨child, hup, mem_inside.1 hchild⟩
      rw [List.cons_append, List.nodup_cons, List.mem_append, not_or]
      refine ⟨⟨fun hmem => ?_, fun hmem => hapart _ hmem .refl⟩,
        hinner.append hbehind' fun x hx hx' => ?_⟩
      · obtain ⟨child, hup, hunder⟩ := hdown _ hmem
        exact absurd (ht.le_of_reflTransGen hup) (not_le.2 (ht.higher _ _ hunder))
      · obtain ⟨child, hup, hunder⟩ := hdown _ hx
        exact hapart x hx' (hup.tail hunder)

end Siblings

/-- A forest has exactly one document order. No element comes in it twice. -/
theorem IsForest.isDocumentOrder_iff {t : Tree} (ht : t.IsForest) :
    (∀ order, t.IsDocumentOrder order ↔ order = t.documentOrder) ∧ t.documentOrder.Nodup := by
  obtain ⟨rank, ht⟩ := ht
  obtain ⟨order, h⟩ : ∃ order, t.Visits (t.children .document) order :=
    exists_visits_of_each fun id _ => ht.exists_visits_inside id
  have hnodup := Visits.nodup ht h (areSiblings_top t) (nodup_children ht _)
  have hmade : ∀ id ∈ order, id < t.elements.size := by
    intro id hid
    have hplaced := (IsDocumentOrder.mem_iff h).1 hid
    cases hplaced with
    | top htop => exact ht.childMade _ htop
    | under hunder _ => exact ht.child_lt hunder
  have hlength : order.length ≤ t.elements.size := by
    have := hnodup.subperm fun id hid => List.mem_range.2 (hmade id hid)
    simpa using this.length_le
  rw [documentOrder, h.walk_eq hlength]
  refine ⟨fun other => ⟨fun hother => hother.unique h, ?_⟩, hnodup⟩
  rintro rfl
  exact h

end Tree

end ShapeCoords.Markup
