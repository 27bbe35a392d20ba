import ShapeCoords.Markup.Tree

/-!
Making one element after the other, each inside of an element that is there already.
-/

namespace ShapeCoords.Markup.Tree

/-- Makes an element inside of another one. -/
def grow (e : Element) (parent : Nat) (t : Tree) : Tree :=
  (t.create e).append t.elements.size (.element parent)

/-- The elements that have a place, each with the transform of the element around it. -/
def seen (t : Tree) : List (Element × Option String) :=
  t.placed.map fun x => (x.1, t.parentValue? x.2 "transform")

/-- Elements stand in elements that were made. -/
def ParentsExist (t : Tree) : Prop :=
  ∀ id p, t.parent? id = some (.element p) → p < t.elements.size

/-- All elements are still there, at the same numbers. -/
def Keeps (t u : Tree) : Prop :=
  ∀ (id : Nat) (e : Element), t.elements[id]? = some e → u.elements[id]? = some e

theorem parentsExist_of_links {t : Tree}
    (h : ∀ l ∈ t.links, ∀ p, l.parent = .element p → p < t.elements.size) : t.ParentsExist := by
  intro id p hp
  obtain ⟨l, hl, hparent⟩ := Option.map_eq_some_iff.1 hp
  exact h l (List.mem_of_find?_eq_some hl) p hparent

theorem parent?_grow_self (e : Element) (p : Nat) (t : Tree) :
    (t.grow e p).parent? t.elements.size = some (.element p) := by
  simp [parent?, grow, append]

theorem parent?_grow_of_ne (e : Element) (p : Nat) {t : Tree} {id : Nat}
    (hid : id ≠ t.elements.size) : (t.grow e p).parent? id = t.parent? id := by
  simp [parent?, grow, append, create, hid.symm]

theorem elements_grow (e : Element) (p : Nat) (t : Tree) :
    (t.grow e p).elements = t.elements.push e := rfl

theorem keeps_grow (e : Element) (p : Nat) (t : Tree) : t.Keeps (t.grow e p) := by
  intro id f hf
  have hlt := (Array.getElem?_eq_some_iff.1 hf).1
  rw [elements_grow, Array.getElem?_push_lt hlt, ← Array.getElem?_eq_getElem hlt, hf]

theorem ParentsExist.grow {t : Tree} (ht : t.ParentsExist) {p : Nat} (hp : p < t.elements.size)
    (e : Element) : (t.grow e p).ParentsExist := by
  intro id q hq
  rw [elements_grow, Array.size_push]
  by_cases hid : id = t.elements.size
  · rw [hid, parent?_grow_self] at hq
    cases hq
    omega
  · rw [parent?_grow_of_ne e p hid] at hq
    have := ht id q hq
    omega

theorem parentValue?_grow {t : Tree} (ht : t.ParentsExist) (e : Element) (p : Nat) {id : Nat}
    (hid : id ≠ t.elements.size) (name : String) :
    (t.grow e p).parentValue? id name = t.parentValue? id name := by
  rw [parentValue?, parentValue?, parent?_grow_of_ne e p hid]
  cases hparent : t.parent? id with
  | none => rfl
  | some place =>
      cases place with
      | element q =>
          have hq := ht id q hparent
          simp only [elements_grow, Array.getElem?_push_lt hq, Array.getElem?_eq_getElem hq]
      | document => rfl
      | contents q => rfl

/-- An element that is made is seen behind all others. -/
theorem seen_grow {t : Tree} (ht : t.ParentsExist) {p : Nat} {f : Element}
    (hp : t.elements[p]? = some f) (e : Element) :
    (t.grow e p).seen = t.seen ++ [(e, f.value? "transform")] := by
  have hself : (t.grow e p).parentValue? t.elements.size "transform" = f.value? "transform" := by
    have hlt := (Array.getElem?_eq_some_iff.1 hp).1
    rw [parentValue?, parent?_grow_self]
    simp only [elements_grow, Array.getElem?_push_lt hlt, ← Array.getElem?_eq_getElem hlt, hp,
      Option.bind_some]
  -- no element made before has the number of the new one
  have hold : ∀ x ∈ t.elements.toList.zipIdx, x.2 ≠ t.elements.size := by
    rintro ⟨g, id⟩ hx
    have := (List.mem_zipIdx' hx).1
    rw [Array.length_toList] at this
    exact Nat.ne_of_lt this
  have hplaced : (t.grow e p).placed = t.placed ++ [(e, t.elements.size)] := by
    have hfilter : (t.elements.toList.zipIdx.filter fun x => ((t.grow e p).parent? x.2).isSome) =
        t.elements.toList.zipIdx.filter fun x => (t.parent? x.2).isSome :=
      List.filter_congr fun x hx => by rw [parent?_grow_of_ne e p (hold x hx)]
    rw [placed, elements_grow, Array.toList_push, List.zipIdx_append, List.filter_append, hfilter]
    simp [placed, parent?_grow_self]
  have hseen : (t.placed.map fun x => (x.1, (t.grow e p).parentValue? x.2 "transform")) =
      t.seen :=
    List.map_congr_left fun x hx => by
      rw [parentValue?_grow ht e p (hold x (List.mem_filter.1 hx).1)]
  rw [seen, hplaced, List.map_append, hseen, List.map_cons, hself, List.map_nil]

/-- A tree has become another one by elements that were made in turn. -/
structure GrowsTo (t u : Tree) (elements : List (Element × Option String)) : Prop where
  parentsExist : u.ParentsExist
  keeps : t.Keeps u
  seen : u.seen = t.seen ++ elements

theorem GrowsTo.refl {t : Tree} (ht : t.ParentsExist) : t.GrowsTo t [] :=
  ⟨ht, fun _ _ h => h, (List.append_nil _).symm⟩

theorem GrowsTo.trans {t u v : Tree} {es fs : List (Element × Option String)}
    (h : t.GrowsTo u es) (h' : u.GrowsTo v fs) : t.GrowsTo v (es ++ fs) where
  parentsExist := h'.parentsExist
  keeps := fun id e he => h'.keeps id e (h.keeps id e he)
  seen := by rw [h'.seen, h.seen, List.append_assoc]

theorem growsTo_grow {t : Tree} (ht : t.ParentsExist) {p : Nat} {f : Element}
    (hp : t.elements[p]? = some f) (e : Element) :
    t.GrowsTo (t.grow e p) [(e, f.value? "transform")] :=
  ⟨ht.grow (Array.getElem?_eq_some_iff.1 hp).1 e, keeps_grow e p t, seen_grow ht hp e⟩

end ShapeCoords.Markup.Tree
