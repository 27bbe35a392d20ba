import Mathlib.Algebra.Order.Field.Basic
import Mathlib.Logic.Function.Basic
import ShapeCoords.Proofs.Markup.DocumentOrder
import ShapeCoords.Proofs.Markup.Edits

/-!
Changes of a forest that leave it one: an element can be put into any element of a lower rank.
-/

namespace ShapeCoords.Markup

namespace Tree

variable {rank other : Nat → ℚ} {t u : Tree} {id : Nat} {p : Place}

/-! Choosing ranks -/

/-- There is a rank above all others. -/
theorem exists_top_rank (rank : Nat → ℚ) (n : Nat) : ∃ q, ∀ i < n, rank i < q := by
  induction n with
  | zero => exact ⟨0, fun i hi => absurd hi (Nat.not_lt_zero i)⟩
  | succ n ih =>
      obtain ⟨q, hq⟩ := ih
      refine ⟨max q (rank n) + 1, fun i hi => ?_⟩
      rcases Nat.lt_succ_iff_lt_or_eq.1 hi with hi | rfl
      · exact (hq i hi).trans ((le_max_left _ _).trans_lt (lt_add_one _))
      · exact (le_max_right _ _).trans_lt (lt_add_one _)

/-- There is a rank right above another one. -/
theorem exists_next_rank (rank : Nat → ℚ) (r : ℚ) (n : Nat) :
    ∃ q, r < q ∧ ∀ i < n, r < rank i → q < rank i := by
  induction n with
  | zero => exact ⟨r + 1, lt_add_one r, fun i hi => absurd hi (Nat.not_lt_zero i)⟩
  | succ n ih =>
      obtain ⟨q, hq, hleast⟩ := ih
      by_cases hn : r < rank n
      · obtain ⟨m, hrm, hm⟩ := exists_between (lt_min hq hn)
        refine ⟨m, hrm, fun i hi hri => ?_⟩
        rcases Nat.lt_succ_iff_lt_or_eq.1 hi with hi | rfl
        · exact (hm.trans_le (min_le_left _ _)).trans (hleast i hi hri)
        · exact hm.trans_le (min_le_right _ _)
      · refine ⟨q, hq, fun i hi hri => ?_⟩
        rcases Nat.lt_succ_iff_lt_or_eq.1 hi with hi | rfl
        · exact hleast i hi hri
        · exact absurd hri hn

/-! Changes of the links -/

/-- Ranks of elements that were not made do not count. -/
theorem RankedBy.rerank (ht : t.RankedBy rank) (h : ∀ i < t.elements.size, other i = rank i) :
    t.RankedBy other where
  distinct := ht.distinct
  childMade := ht.childMade
  ownerMade := ht.ownerMade
  higher child owner hunder := by
    rw [h _ (ht.child_lt hunder), h _ (ht.ownerMade _ _ hunder)]
    exact ht.higher _ _ hunder

theorem RankedBy.of_links (ht : t.RankedBy rank) (hlinks : u.links.Sublist t.links)
    (hsize : t.elements.size ≤ u.elements.size) : u.RankedBy rank where
  distinct := ht.distinct.sublist (hlinks.map _)
  childMade l hl := (ht.childMade l (hlinks.subset hl)).trans_le hsize
  ownerMade child owner := fun ⟨p, hp, howner⟩ =>
    (ht.ownerMade child owner ⟨p, hlinks.subset hp, howner⟩).trans_le hsize
  higher child owner := fun ⟨p, hp, howner⟩ =>
    ht.higher child owner ⟨p, hlinks.subset hp, howner⟩

theorem RankedBy.create (ht : t.RankedBy rank) (e : Element) : (t.create e).RankedBy rank :=
  ht.of_links (.refl _) (by simp [Tree.create])

theorem RankedBy.detach (ht : t.RankedBy rank) (id : Nat) : (t.detach id).RankedBy rank :=
  ht.of_links List.filter_sublist le_rfl

theorem RankedBy.addAttributes (ht : t.RankedBy rank) (id : Nat) (attributes : List Attribute) :
    (t.addAttributes id attributes).RankedBy rank :=
  ht.of_links (.refl _) (by simp [Tree.addAttributes])

/-- Putting an element that has no place into one of a lower rank. -/
theorem RankedBy.put (ht : t.RankedBy rank) (hlinks : u.links.Perm (⟨id, p⟩ :: t.links))
    (hsize : u.elements.size = t.elements.size) (hfree : ∀ l ∈ t.links, l.child ≠ id)
    (hid : id < t.elements.size)
    (hp : ∀ owner ∈ p.owner?, owner < t.elements.size ∧ rank owner < rank id) :
    u.RankedBy rank := by
  have hunder : ∀ child owner, u.Under child owner →
      child = id ∧ owner ∈ p.owner? ∨ t.Under child owner := by
    rintro child owner ⟨q, hq, howner⟩
    rcases List.mem_cons.1 (hlinks.mem_iff.1 hq) with heq | hq
    · cases heq
      exact .inl ⟨rfl, howner⟩
    · exact .inr ⟨q, hq, howner⟩
  refine ⟨?_, fun l hl => ?_, fun child owner h => ?_, fun child owner h => ?_⟩
  · refine (hlinks.map Link.child).nodup_iff.2 (List.nodup_cons.2 ⟨fun hmem => ?_, ht.distinct⟩)
    obtain ⟨l, hl, hchild⟩ := List.mem_map.1 hmem
    exact hfree l hl hchild
  · rw [hsize]
    rcases List.mem_cons.1 (hlinks.mem_iff.1 hl) with rfl | hl
    · exact hid
    · exact ht.childMade l hl
  · rw [hsize]
    rcases hunder _ _ h with ⟨-, howner⟩ | h
    · exact (hp owner howner).1
    · exact ht.ownerMade _ _ h
  · rcases hunder _ _ h with ⟨rfl, howner⟩ | h
    · exact (hp owner howner).2
    · exact ht.higher _ _ h

theorem RankedBy.append (ht : t.RankedBy rank) (hfree : ∀ l ∈ t.links, l.child ≠ id)
    (hid : id < t.elements.size)
    (hp : ∀ owner ∈ p.owner?, owner < t.elements.size ∧ rank owner < rank id) :
    (t.append id p).RankedBy rank :=
  ht.put (.refl _) rfl hfree hid hp

theorem perm_moveChildren (t : Tree) (source target : Nat) :
    ((t.moveChildren source target).links.map Link.child).Perm (t.links.map Link.child) := by
  have := (List.filter_append_perm (fun l => l.parent == .element source) t.links).map Link.child
  rw [Tree.moveChildren, List.map_append, List.map_map]
  rwa [List.map_append] at this

/-- All that stands in an element can move to another one that ranks below it. -/
theorem RankedBy.moveChildren (ht : t.RankedBy rank) {source target : Nat}
    (htarget : target < t.elements.size)
    (hnext : ∀ child, t.Under child source → rank target < rank child) :
    (t.moveChildren source target).RankedBy rank := by
  let move (l : Link) : Link := { l with parent := .element target }
  have hlinks : (t.moveChildren source target).links =
      (t.links.filter fun l => l.parent == .element source).map move ++
        t.links.filter fun l => l.parent != .element source := rfl
  have hchildren := perm_moveChildren t source target
  have hunder : ∀ child owner, (t.moveChildren source target).Under child owner →
      owner = target ∧ t.Under child source ∨ t.Under child owner := by
    rintro child owner ⟨p, hp, howner⟩
    rw [hlinks, List.mem_append] at hp
    rcases hp with hp | hp
    · obtain ⟨⟨moved, old⟩, hl, heq⟩ := List.mem_map.1 hp
      obtain ⟨hl, hold⟩ := List.mem_filter.1 hl
      cases heq
      cases howner
      have hold : old = .element source := beq_iff_eq.1 hold
      exact .inl ⟨rfl, old, hl, by rw [hold]; rfl⟩
    · exact .inr ⟨p, (List.mem_filter.1 hp).1, howner⟩
  refine ⟨hchildren.nodup_iff.2 ht.distinct, fun l hl => ?_, fun child owner h => ?_,
    fun child owner h => ?_⟩
  · have hmem := hchildren.mem_iff.1 (List.mem_map_of_mem hl)
    obtain ⟨m, hm, hchild⟩ := List.mem_map.1 hmem
    exact hchild ▸ ht.childMade m hm
  · rcases hunder _ _ h with ⟨rfl, -⟩ | h
    · exact htarget
    · exact ht.ownerMade _ _ h
  · rcases hunder _ _ h with ⟨rfl, hsource⟩ | h
    · exact hnext child hsource
    · exact ht.higher _ _ h

theorem child_ne_of_mem_detach {l : Link} (h : l ∈ (t.detach id).links) : l.child ≠ id := by
  simpa using (List.mem_filter.1 h).2

theorem RankedBy.child_ne_size (ht : t.RankedBy rank) {l : Link} (h : l ∈ t.links) :
    l.child ≠ t.elements.size :=
  (ht.childMade l h).ne

/-- All that stands in an element can be enclosed by a new one. -/
theorem RankedBy.enclose (ht : t.RankedBy rank) {block : Nat} (hblock : block < t.elements.size)
    (e : Element) :
    ∃ other : Nat → ℚ, (((t.create e).moveChildren block t.elements.size).append t.elements.size
        (.element block)).RankedBy other ∧
      (∀ i < t.elements.size, other i = rank i) ∧ rank block < other t.elements.size ∧
      ∀ i < t.elements.size, rank block < rank i → other t.elements.size < rank i := by
  let n := t.elements.size
  obtain ⟨q, hq, hnext⟩ := exists_next_rank rank (rank block) n
  let other := Function.update rank n q
  have hold : ∀ i < n, other i = rank i := fun i hi => Function.update_of_ne hi.ne _ _
  have hnew : other n = q := Function.update_self _ _ _
  have hn : n < (t.create e).elements.size := by simp [n, Tree.create]
  have hmove : ((t.create e).moveChildren block n).RankedBy other := by
    refine ((ht.rerank hold).create e).moveChildren hn fun child h => ?_
    have hunder : t.Under child block := h
    have hchild := ht.child_lt hunder
    rw [hnew, hold _ hchild]
    exact hnext _ hchild (ht.higher _ _ hunder)
  refine ⟨other, hmove.append (fun l hl => ?_) hn fun owner howner => ?_, hold, ?_, ?_⟩
  · have hmem := (perm_moveChildren _ _ _).mem_iff.1 (List.mem_map_of_mem hl)
    obtain ⟨m, hm, hchild⟩ := List.mem_map.1 hmem
    exact hchild ▸ ht.child_ne_size hm
  · cases howner
    refine ⟨hblock.trans hn, ?_⟩
    rwa [hold _ hblock, hnew]
  · rwa [hnew]
  · rwa [hnew]

end Tree

/-! Positions -/

namespace Builder

open Markup.Tree

/-- A position in some elements, or in front of them. -/
def Position.IsWithin (opened : List Open) : Position → Prop
  | .inside p => ∀ owner ∈ p.owner?, ∃ o ∈ opened, o.id = owner
  | .before table otherwise =>
    (∃ o ∈ opened, o.id = table) ∧ ∀ owner ∈ otherwise.owner?, ∃ o ∈ opened, o.id = owner

theorem Position.IsWithin.mono {p : Position} {opened wider : List Open}
    (h : p.IsWithin opened) (hsub : opened ⊆ wider) : p.IsWithin wider := by
  cases p with
  | inside place =>
      intro owner howner
      obtain ⟨o, ho, hid⟩ := h owner howner
      exact ⟨o, hsub ho, hid⟩
  | before table otherwise =>
      obtain ⟨⟨o, ho, hid⟩, h⟩ := h
      refine ⟨⟨o, hsub ho, hid⟩, fun owner howner => ?_⟩
      obtain ⟨o, ho, hid⟩ := h owner howner
      exact ⟨o, hsub ho, hid⟩

theorem isWithin_contentPlace {o : Open} {opened : List Open} (ho : o ∈ opened) :
    (Position.inside (contentPlace o)).IsWithin opened := by
  intro owner howner
  refine ⟨o, ho, ?_⟩
  rw [contentPlace] at howner
  split at howner <;> cases howner <;> rfl

theorem isWithin_fosterPosition (opened : List Open) :
    (fosterPosition opened).IsWithin opened := by
  induction opened with
  | nil => exact fun _ h => by cases h
  | cons o opened ih =>
      cases opened with
      | nil => exact isWithin_contentPlace List.mem_cons_self
      | cons below opened =>
          rw [fosterPosition]
          split
          · exact fun owner howner => ⟨o, List.mem_cons_self, by cases howner; rfl⟩
          · split
            · exact ⟨⟨o, List.mem_cons_self, rfl⟩, fun owner howner =>
                ⟨below, List.mem_cons_of_mem _ List.mem_cons_self, by cases howner; rfl⟩⟩
            · exact ih.mono (List.subset_cons_self _ _)

theorem isWithin_positionIn {b : Builder} {o : Open} (ho : o ∈ b.opened) :
    (b.positionIn o).IsWithin b.opened := by
  rw [positionIn]
  split
  · exact isWithin_fosterPosition _
  · exact isWithin_contentPlace ho

theorem isWithin_position (b : Builder) : b.position.IsWithin b.opened := by
  rw [position]
  cases hcurrent : b.current? with
  | none => exact fun _ h => by cases h
  | some o => exact isWithin_positionIn (List.mem_of_mem_head? hcurrent)

/-- Elements that are neither tables nor templates are passed by. -/
theorem fosterPosition_append {skipped opened : List Open} (hopened : opened ≠ [])
    (hskipped : ∀ o ∈ skipped, o.element.takesMisplaced = false) :
    fosterPosition (skipped ++ opened) = fosterPosition opened := by
  induction skipped with
  | nil => rfl
  | cons o skipped ih =>
      obtain ⟨below, rest, hrest⟩ := List.exists_cons_of_ne_nil
        (List.append_ne_nil_of_right_ne_nil skipped hopened)
      obtain ⟨htable, htemplate⟩ := Bool.or_eq_false_iff.1 (hskipped o List.mem_cons_self)
      rw [← ih fun p hp => hskipped p (List.mem_cons_of_mem _ hp), List.cons_append, hrest,
        fosterPosition, htable, htemplate]
      rfl

theorem perm_insertLink (l : Link) (sibling : Nat) (links : List Link) :
    (insertLink l sibling links).Perm (l :: links) := by
  induction links with
  | nil => exact .refl _
  | cons m links ih =>
      rw [insertLink]
      split
      · exact .swap _ _ _
      · exact (ih.cons m).trans (.swap _ _ _)

theorem Position.elements_insert (p : Position) (id : Nat) (t : Tree) :
    (p.insert id t).elements = t.elements := by
  cases p with
  | inside place => rfl
  | before table otherwise =>
      rw [Position.insert, insertBefore]
      split
      · split <;> rfl
      · rfl

/-- An element is put into some place that ranks no higher than the elements of the position. -/
theorem Position.exists_place {rank : Nat → ℚ} {t : Tree} (ht : t.RankedBy rank) {p : Position}
    {opened : List Open} (hp : p.IsWithin opened)
    (hopened : ∀ o ∈ opened, o.id < t.elements.size) (id : Nat) :
    ∃ place, (p.insert id t).links.Perm (⟨id, place⟩ :: t.links) ∧
      ∀ owner ∈ place.owner?, owner < t.elements.size ∧ ∃ o ∈ opened, rank owner ≤ rank o.id := by
  have hmade : ∀ {place : Place}, (∀ owner ∈ place.owner?, ∃ o ∈ opened, o.id = owner) →
      ∀ owner ∈ place.owner?, owner < t.elements.size ∧ ∃ o ∈ opened, rank owner ≤ rank o.id := by
    intro place h owner howner
    obtain ⟨o, ho, rfl⟩ := h owner howner
    exact ⟨hopened o ho, o, ho, le_rfl⟩
  cases p with
  | inside place => exact ⟨place, .refl _, hmade hp⟩
  | before table otherwise =>
      obtain ⟨⟨o, ho, rfl⟩, hotherwise⟩ := hp
      rw [Position.insert]
      cases hparent : t.parent? o.id with
      | none => exact ⟨otherwise, .refl _, hmade hotherwise⟩
      | some place =>
          refine ⟨place, ?_, fun owner howner => ?_⟩
          · rw [Option.isSome_some, if_pos rfl, insertBefore, hparent]
            exact perm_insertLink _ _ _
          · have hunder : t.Under o.id owner := ⟨place, (parent?_eq_some_iff ht).1 hparent, howner⟩
            exact ⟨ht.ownerMade _ _ hunder, o, ho, (ht.higher _ _ hunder).le⟩

/-- An element can move to a position in elements of a lower rank. -/
theorem Position.rankedBy_move {rank : Nat → ℚ} {t : Tree} (ht : t.RankedBy rank) {p : Position}
    {opened : List Open} (hp : p.IsWithin opened) {id : Nat} (hid : id < t.elements.size)
    (hopened : ∀ o ∈ opened, o.id < t.elements.size ∧ rank o.id < rank id) :
    (p.insert id (t.detach id)).RankedBy rank := by
  obtain ⟨place, hlinks, hplace⟩ :=
    Position.exists_place (ht.detach id) hp (fun o ho => (hopened o ho).1) id
  refine (ht.detach id).put hlinks (congrArg Array.size (p.elements_insert id _))
    (fun l hl => child_ne_of_mem_detach hl) hid fun owner howner => ?_
  obtain ⟨hmade, o, ho, hle⟩ := hplace owner howner
  exact ⟨hmade, hle.trans_lt (hopened o ho).2⟩

end Builder

end ShapeCoords.Markup
