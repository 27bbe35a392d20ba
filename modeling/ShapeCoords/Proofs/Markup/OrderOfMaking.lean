import Mathlib.Data.List.Sort
import ShapeCoords.Proofs.Markup.DocumentOrder

/-!
The order in which elements were made, against document order. The two are the same if each element
is put behind all others into an element that the one made before it stands in, or into that one.
-/

namespace ShapeCoords.Markup.Tree

open Relation (ReflTransGen)

/-- The numbers of the placed elements of a kind, as they are listed. -/
def listed (kind : Element → Bool) (t : Tree) : List Nat :=
  (t.placed.filter fun x => kind x.1).map Prod.snd

def ofKind (kind : Element → Bool) (t : Tree) (ids : List Nat) : List Nat :=
  ids.filter fun id => t.elements[id]?.any kind

/-! Listing -/

section Listing

variable {t : Tree} {kind : Element → Bool} {id : Nat} {order : List Nat}

theorem mem_listed : id ∈ t.listed kind ↔
    t.elements[id]?.any kind = true ∧ (t.parent? id).isSome = true := by
  simp only [listed, placed, List.filter_filter, List.mem_map, List.mem_filter, Prod.exists,
    List.mem_zipIdx_iff_getElem?, Array.getElem?_toList, Bool.and_eq_true, exists_eq_right,
    Option.any_eq_true]
  constructor
  · rintro ⟨e, he, hkind, hplaced⟩
    exact ⟨⟨e, he, hkind⟩, hplaced⟩
  · rintro ⟨⟨e, he, hkind⟩, hplaced⟩
    exact ⟨e, he, hkind, hplaced⟩

/-- Elements are listed in the order in which they were made. -/
theorem sortedLT_listed (t : Tree) (kind : Element → Bool) : (t.listed kind).SortedLT := by
  have hsub : (t.listed kind).Sublist (t.elements.toList.zipIdx.map Prod.snd) :=
    (List.filter_sublist.trans List.filter_sublist).map _
  rw [List.zipIdx_map_snd, ← List.range_eq_range'] at hsub
  exact (List.pairwise_lt_range.sublist hsub).sortedLT

theorem InDocument.isSome_parent? (h : t.InDocument id) : (t.parent? id).isSome = true := by
  cases h with
  | top htop => exact isSome_parent?_of_mem_links htop
  | under hunder _ =>
      obtain ⟨p, hp, -⟩ := hunder
      exact isSome_parent?_of_mem_links hp

/-- Elements are listed in document order if they were made in that order, and are all in the
document. -/
theorem IsDocumentOrder.listed_eq_iff (h : t.IsDocumentOrder order) :
    t.listed kind = t.ofKind kind order ↔
      (t.ofKind kind order).SortedLT ∧ ∀ id ∈ t.listed kind, t.InDocument id := by
  constructor
  · intro heq
    refine ⟨heq ▸ t.sortedLT_listed kind, fun id hid => ?_⟩
    rw [heq] at hid
    exact h.mem_iff.1 (List.mem_filter.1 hid).1
  · rintro ⟨hsorted, hall⟩
    refine (t.sortedLT_listed kind).eq_of_mem_iff hsorted fun id => ?_
    rw [ofKind, List.mem_filter, h.mem_iff]
    constructor
    · intro hid
      exact ⟨hall id hid, (mem_listed.1 hid).1⟩
    · rintro ⟨hid, hkind⟩
      exact mem_listed.2 ⟨hkind, hid.isSome_parent?⟩

end Listing

/-! Making elements in document order -/

/-- The elements stand in the order in which they were made: each one was put behind all others,
into an element around the one before it. -/
structure MadeInOrder (t : Tree) : Prop where
  linked : t.links.map Link.child = (List.range t.elements.size).reverse
  below : ∀ child owner, t.Under child owner → owner < child
  follows : ∀ child owner, t.Under child owner →
    ∃ last, child = last + 1 ∧ ReflTransGen t.Under last owner
  /-- A template has its content in it or apart from it, but not both. -/
  onePlace : ∀ l ∈ t.links, ∀ m ∈ t.links, l.parent.owner? = m.parent.owner? → l.parent = m.parent

namespace MadeInOrder

variable {t : Tree} {id : Nat}

theorem rankedBy (ht : t.MadeInOrder) : t.RankedBy Nat.cast where
  distinct := by
    rw [ht.linked, List.nodup_reverse]
    exact List.nodup_range
  childMade l hl := by
    have := List.mem_map_of_mem (f := Link.child) hl
    rwa [ht.linked, List.mem_reverse, List.mem_range] at this
  ownerMade child owner h := by
    have ⟨p, hp, _⟩ := h
    have := List.mem_map_of_mem (f := Link.child) hp
    rw [ht.linked, List.mem_reverse, List.mem_range] at this
    exact (ht.below _ _ h).trans this
  higher child owner h := Nat.cast_lt.2 (ht.below _ _ h)

theorem inDocument (ht : t.MadeInOrder) (hid : id < t.elements.size) : t.InDocument id := by
  induction id using Nat.strong_induction_on with
  | _ id ih =>
      have hmem : id ∈ t.links.map Link.child := by
        rw [ht.linked, List.mem_reverse]
        exact List.mem_range.2 hid
      obtain ⟨⟨child, p⟩, hl, rfl⟩ := List.mem_map.1 hmem
      cases howner : p.owner? with
      | none =>
          cases p <;> cases howner
          exact .top hl
      | some owner =>
          have hunder : t.Under child owner := ⟨p, hl, howner⟩
          have hlt := ht.below _ _ hunder
          exact .under hunder (ih owner hlt (hlt.trans hid))

theorem sortedLT_children (ht : t.MadeInOrder) (p : Place) : (t.children p).SortedLT := by
  have hsub : (t.children p).Sublist (List.range t.elements.size) := by
    have := (List.filter_sublist (p := fun l => l.parent == p) (l := t.links)).map Link.child
    rw [ht.linked] at this
    rw [← List.reverse_reverse (List.range _)]
    exact this.reverse
  exact (List.pairwise_lt_range.sublist hsub).sortedLT

theorem sortedLT_inside (ht : t.MadeInOrder) (id : Nat) : (t.inside id).SortedLT := by
  have hempty : t.children (.contents id) = [] ∨ t.children (.element id) = [] := by
    by_contra! hnot
    obtain ⟨child, hchild⟩ := List.exists_mem_of_ne_nil _ hnot.1
    obtain ⟨other, hother⟩ := List.exists_mem_of_ne_nil _ hnot.2
    have := ht.onePlace _ (mem_children.1 hchild) _ (mem_children.1 hother) rfl
    cases this
  rcases hempty with h | h
  · rw [inside, h, List.nil_append]
    exact ht.sortedLT_children _
  · rw [inside, h, List.append_nil]
    exact ht.sortedLT_children _

/-- Whatever stands in an element was made before the later siblings of that. -/
theorem lt_of_sibling (ht : t.MadeInOrder) {owner : Option Nat} {ids : List Nat}
    (h : t.AreSiblings owner ids) {other : Nat} (hid : id ∈ ids) (hother : other ∈ ids)
    (hlt : id < other) {x : Nat} (hx : ReflTransGen t.Under x id) : x < other := by
  induction x using Nat.strong_induction_on with
  | _ x ih =>
      rcases hx.cases_head with rfl | ⟨between, hfirst, hrest⟩
      · exact hlt
      obtain ⟨last, rfl, hup⟩ := ht.follows _ _ hfirst
      have := ih last (Nat.lt_succ_self last) (hup.trans hrest)
      have hne : last + 1 ≠ other := by
        rintro rfl
        exact hlt.ne' (h.eq_of_ancestor ht.rankedBy hother hid hx)
      omega

theorem sortedLT_of_visits (ht : t.MadeInOrder) {owner : Option Nat} {ids order : List Nat}
    (h : t.Visits ids order) (hids : t.AreSiblings owner ids) (hsorted : ids.SortedLT) :
    order.SortedLT := by
  induction h generalizing owner with
  | nil => exact hsorted
  | @cons first siblings inner behind hin hbehind ihin ihbehind =>
      obtain ⟨hfirst, hsiblings⟩ := List.pairwise_cons.1 hsorted.pairwise
      have hinner := (ihin (areSiblings_inside t first) (ht.sortedLT_inside first)).pairwise
      have hbehind' := (ihbehind (fun id h => hids id (List.mem_cons_of_mem _ h))
        hsiblings.sortedLT).pairwise
      have hlater : ∀ x, ReflTransGen t.Under x first → ∀ y ∈ behind, x < y := by
        intro x hx y hy
        obtain ⟨top, htop, hup⟩ := hbehind.exists_ancestor hy
        have hxtop := ht.lt_of_sibling hids List.mem_cons_self (List.mem_cons_of_mem _ htop)
          (hfirst top htop) hx
        have htopy : top ≤ y := Nat.cast_le.1 (ht.rankedBy.le_of_reflTransGen hup)
        exact hxtop.trans_le htopy
      have hdown : ∀ x ∈ inner, ReflTransGen t.Under x first ∧ first < x := by
        intro x hx
        obtain ⟨child, hchild, hup⟩ := hin.exists_ancestor hx
        have hunder := mem_inside.1 hchild
        exact ⟨hup.tail hunder, (ht.below _ _ hunder).trans_le
          (Nat.cast_le.1 (ht.rankedBy.le_of_reflTransGen hup))⟩
      rw [List.cons_append]
      refine List.Pairwise.sortedLT (List.pairwise_cons.2 ⟨fun x hx => ?_,
        List.pairwise_append.2 ⟨hinner, hbehind', fun x hx => hlater x (hdown x hx).1⟩⟩)
      rcases List.mem_append.1 hx with hx | hx
      · exact (hdown x hx).2
      · exact hlater first .refl x hx

/-- The order in which the elements were made is document order. -/
theorem listed_eq (ht : t.MadeInOrder) {order : List Nat} (h : t.IsDocumentOrder order)
    (kind : Element → Bool) : t.listed kind = t.ofKind kind order := by
  have hsorted := ht.sortedLT_of_visits h (areSiblings_top t) (ht.sortedLT_children _)
  refine h.listed_eq_iff.2 ⟨(hsorted.pairwise.filter _).sortedLT, fun id hid => ?_⟩
  obtain ⟨e, he, -⟩ := (Option.any_eq_true _ _).1 (mem_listed.1 hid).1
  exact ht.inDocument (Array.getElem?_eq_some_iff.1 he).1

end MadeInOrder

end ShapeCoords.Markup.Tree
