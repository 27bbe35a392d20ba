import Mathlib.Algebra.Group.Prod
import ShapeCoords.Proofs.Extraction.Fallback
import ShapeCoords.Proofs.Extraction.Placement

/-!
The geometry of records: how the corners of a rectangle lie to each other, where the centre of a
circle is, and which points move if the shift around the shape is another one.
-/

namespace ShapeCoords

open Markup (Element)
open Number (orNaN)

/-! Records of attributes -/

/-- The record of a circle with these attributes under a shift. -/
structure CircleRecord.IsPlaced (o : Options) (a : CircleAttributes) (t : Shift)
    (c : CircleRecord) : Prop where
  radius : c.radius = orNaN a.r
  abscissa : c.center.x = orNaN (a.centerBy o.circleCenter).1 + t.dx
  ordinate : c.center.y = orNaN (a.centerBy o.circleCenter).2 + t.dy

/-- The record of a rectangle with these attributes under a shift. It is parallel to the axes but
for its bottom right corner, which may not be moved along with the others. -/
structure RectangleRecord.IsPlaced (o : Options) (a : RectAttributes) (t : Shift)
    (r : RectangleRecord) : Prop where
  left : r.topLeft.x = r.bottomLeft.x
  right : r.topRight.x = r.bottomRight.x
  top : r.topLeft.y = r.topRight.y
  abscissa : r.topLeft.x = orNaN a.x + t.dx
  ordinate : r.topLeft.y = orNaN a.y + t.dy
  sized : ∃ width height, a.width = some width ∧ a.height = some height ∧
    Number.value width ≠ .nan ∧ Number.value height ≠ .nan ∧
    r.topRight.x = r.topLeft.x + width ∧ r.bottomLeft.y = r.topLeft.y - height ∧
    (o.bottomRightY = .adjusted → r.bottomRight.y = r.bottomLeft.y) ∧
    (o.bottomRightY = .unadjusted → r.bottomRight.y = orNaN a.y - height)

section Records

variable {o : Options} {parent : Option String} {r : ShapeRecord}

theorem exists_circle_of_record {a : CircleAttributes} (h : record o ⟨.circle a, parent⟩ = .ok r) :
    ∃ c t, r = .circle c ∧ parentShift o parent = .ok t ∧ c.IsPlaced o a t := by
  obtain ⟨-, t, ht, rfl⟩ := of_record_eq_ok h
  exact ⟨_, t, rfl, ht, ⟨rfl, rfl, rfl⟩⟩

theorem exists_rectangle_of_record {a : RectAttributes} (h : record o ⟨.rect a, parent⟩ = .ok r) :
    ∃ c t, r = .rectangle c ∧ parentShift o parent = .ok t ∧ c.IsPlaced o a t := by
  obtain ⟨hsize, t, ht, rfl⟩ := of_record_eq_ok h
  have hdefined : ¬ IsUndefined a.width ∧ ¬ IsUndefined a.height := by
    rw [← not_or]
    intro hundefined
    exact hsize ⟨a, rfl, hundefined⟩
  have hvalue {v : Option Float} (hv : ¬ IsUndefined v) : Number.value (orNaN v) ≠ .nan := by
    intro hnan
    exact hv (.inr ⟨_, (size?_of_not_isUndefined hv).1, hnan⟩)
  refine ⟨_, t, rfl, ht, rfl, rfl, rfl, rfl, rfl, orNaN a.width, orNaN a.height,
    (size?_of_not_isUndefined hdefined.1).1, (size?_of_not_isUndefined hdefined.2).1,
    hvalue hdefined.1, hvalue hdefined.2, rfl, rfl, ?_, ?_⟩
  · intro hcorner
    simp [RectAttributes.place, hcorner]
  · intro hcorner
    simp [RectAttributes.place, hcorner]

end Records

/-! Records of elements -/

namespace Document

variable {d : Document} {o : Options}

theorem mem_numbered {x : Nat × Primitive} (h : x ∈ d.numbered) :
    ∃ e, ((e, x.1) ∈ d.named "circle" ∧
        x.2 = ⟨.circle (d.circle e), d.tree.parentValue? x.1 "transform"⟩) ∨
      ((e, x.1) ∈ d.named "rect" ∧
        x.2 = ⟨.rect (d.rect e), d.tree.parentValue? x.1 "transform"⟩) := by
  rcases List.mem_append.1 h with h | h
  · obtain ⟨y, hy, rfl⟩ := List.mem_map.1 h
    exact ⟨y.1, .inl ⟨hy, rfl⟩⟩
  · obtain ⟨y, hy, rfl⟩ := List.mem_map.1 h
    exact ⟨y.1, .inr ⟨hy, rfl⟩⟩

theorem mem_numberedRecords {x : Nat × ShapeRecord} (h : x ∈ d.numberedRecords o) :
    ∃ p, (x.1, p) ∈ d.numbered ∧ record o p = .ok x.2 := by
  obtain ⟨y, hy, hx⟩ := List.mem_filterMap.1 h
  obtain ⟨r, hr, rfl⟩ := Option.map_eq_some_iff.1 hx
  exact ⟨y.2, hy, toOption_eq_some_iff.1 hr⟩

/-- The record with the number of an element is that of its attributes, under the shift around it. -/
theorem isPlaced_of_mem_numberedRecords {x : Nat × ShapeRecord} (h : x ∈ d.numberedRecords o) :
    ∃ e t, parentShift o (d.tree.parentValue? x.1 "transform") = .ok t ∧
      ((∃ c, x.2 = .circle c ∧ (e, x.1) ∈ d.named "circle" ∧ c.IsPlaced o (d.circle e) t) ∨
        ∃ r, x.2 = .rectangle r ∧ (e, x.1) ∈ d.named "rect" ∧ r.IsPlaced o (d.rect e) t) := by
  obtain ⟨p, hp, hrecord⟩ := mem_numberedRecords h
  obtain ⟨e, ⟨hnamed, heq⟩ | ⟨hnamed, heq⟩⟩ := mem_numbered hp
  · change p = _ at heq
    rw [heq] at hrecord
    obtain ⟨c, t, hc, ht, hplaced⟩ := exists_circle_of_record hrecord
    exact ⟨e, t, ht, .inl ⟨c, hc, hnamed, hplaced⟩⟩
  · change p = _ at heq
    rw [heq] at hrecord
    obtain ⟨c, t, hc, ht, hplaced⟩ := exists_rectangle_of_record hrecord
    exact ⟨e, t, ht, .inr ⟨c, hc, hnamed, hplaced⟩⟩

end Document

/-! Points that move -/

namespace Figure

variable {α : Type}

/-- Points moved by an offset. The bottom right corner of a rectangle keeps its ordinate if that is
not adjusted. -/
def moved [Add α] (corner : BottomRightY) (offset : α × α) (ps : List (α × α)) :
    Figure α → List (α × α)
  | .circle .. => ps.map (· + offset)
  | .rect .. =>
    match corner with
    | .adjusted => ps.map (· + offset)
    | .unadjusted => (ps.take 3).map (· + offset) ++ (ps.drop 3).map fun p => (p.1 + offset.1, p.2)

/-- Another shift moves the points by how the two differ. -/
theorem points_eq_moved [AddCommGroup α] (f : Figure α) (corner : BottomRightY) (s t : α × α) :
    f.points corner t = f.moved corner (t - s) (f.points corner s) := by
  obtain ⟨offset, rfl⟩ : ∃ offset, t = s + offset := ⟨t - s, (add_sub_cancel s t).symm⟩
  rw [add_sub_cancel_left]
  cases f with
  | circle x y radius => simp [points, moved, Prod.ext_iff, add_assoc]
  | rect x y width height =>
      have hright := add_right_comm (x + s.1) offset.1 width
      have hbottom := add_sub_right_comm (y + s.2) offset.2 height
      cases corner with
      | unadjusted => simp [points, moved, Prod.ext_iff, ← add_assoc, hright, hbottom]
      | adjusted => simp [points, moved, Prod.ext_iff, ← add_assoc, hright, hbottom]

end Figure

theorem points_of_record {o : Options} {p : Primitive} {r : ShapeRecord} (h : record o p = .ok r) :
    ∃ t, parentShift o p.parentTransform = .ok t ∧
      r.points.map Point.pair = (p.figure o).points o.bottomRightY (t.dx, t.dy) := by
  obtain ⟨-, t, ht, rfl⟩ := of_record_eq_ok h
  exact ⟨t, ht, points_place o p t⟩

/-- Each record of an extraction is that of an element's attributes under the shift around it. Its
points are computed by sums and differences which, in numbers that are not rounded, move with the
shift, but for a bottom right ordinate that is not adjusted. -/
theorem extractCoordinates_geometry (o : Options) (text : String) :
    ((∃ e, extractCoordinates o text = .error e) ∨
      ∃ d, Document.parse o text = .ok d ∧
        extractCoordinates o text = .ok ⟨(d.numberedRecords o).map Prod.snd⟩ ∧
        ∀ x ∈ d.numberedRecords o, ∃ e t,
          parentShift o (d.tree.parentValue? x.1 "transform") = .ok t ∧
          ((∃ c, x.2 = .circle c ∧ (e, x.1) ∈ d.named "circle" ∧ c.IsPlaced o (d.circle e) t) ∨
            ∃ r, x.2 = .rectangle r ∧ (e, x.1) ∈ d.named "rect" ∧ r.IsPlaced o (d.rect e) t)) ∧
    (∀ p r, record o p = .ok r → ∃ t, parentShift o p.parentTransform = .ok t ∧
      r.points.map Point.pair = (p.figure o).points o.bottomRightY (t.dx, t.dy)) ∧
    ∀ (α : Type) [AddCommGroup α] (f : Figure α) (corner : BottomRightY) (s t : α × α),
      f.points corner t = f.moved corner (t - s) (f.points corner s) := by
  refine ⟨?_, fun p r => points_of_record, fun α _ => Figure.points_eq_moved⟩
  cases hparse : Document.parse o text with
  | error e => exact .inl ⟨e, extractCoordinates_of_parse_error hparse⟩
  | ok d =>
      refine .inr ⟨d, rfl, ?_, fun x => Document.isPlaced_of_mem_numberedRecords⟩
      rw [extractCoordinates_of_parse hparse, Document.extract_numbered]

end ShapeCoords
