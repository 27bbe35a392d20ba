import ShapeCoords.Extraction

/-!
Where a shape's record comes from: whether the shape has a size, which shift applies to it, and the
points that its attributes and the shift are combined to.
-/

namespace ShapeCoords

open Number (orNaN)

/-! Sizes -/

/-- An attribute without a number in it, or with the undefined one. -/
def IsUndefined (v : Option Float) : Prop :=
  v = none ∨ ∃ x, v = some x ∧ Number.value x = .nan

theorem isNaN_eq_true_iff (x : Float) : Number.isNaN x = true ↔ Number.value x = .nan := by
  rw [Number.isNaN]
  cases Number.value x <;> simp

theorem size?_of_isUndefined {v : Option Float} (h : IsUndefined v) : size? v = none := by
  rcases h with rfl | ⟨x, rfl, hx⟩
  · rfl
  · simp [size?, (isNaN_eq_true_iff x).2 hx]

theorem size?_of_not_isUndefined {v : Option Float} (h : ¬ IsUndefined v) :
    v = some (orNaN v) ∧ size? v = some (orNaN v) := by
  cases v with
  | none => exact absurd (.inl rfl) h
  | some x =>
      have hx : Number.isNaN x = false := by
        rw [← Bool.not_eq_true, isNaN_eq_true_iff]
        intro hnan
        exact h (.inr ⟨x, rfl, hnan⟩)
      exact ⟨rfl, by simp [size?, hx, orNaN]⟩

/-! Points -/

/-- The numbers of a shape that its points are computed from, of any kind. -/
inductive Figure (α : Type) where
  | circle (x y radius : α)
  | rect (x y width height : α)

namespace Figure

variable {α : Type} [Add α] [Sub α]

/-- The centre of a circle or the corners of a rectangle under a shift. -/
def points (corner : BottomRightY) (t : α × α) : Figure α → List (α × α)
  | .circle x y _ => [(x + t.1, y + t.2)]
  | .rect x y width height =>
    let left := x + t.1
    let top := y + t.2
    let lowest :=
      match corner with
      | .unadjusted => y - height
      | .adjusted => top - height
    [(left, top), (left + width, top), (left, top - height), (left + width, lowest)]

/-- The coordinates of the points, and the radius of a circle. -/
def numbers (corner : BottomRightY) (t : α × α) (f : Figure α) : List α :=
  (f.points corner t).flatMap (fun p => [p.1, p.2]) ++
    match f with
    | .circle _ _ radius => [radius]
    | .rect .. => []

end Figure

/-- The centre of a circle, or the corners of a rectangle. -/
def ShapeRecord.points : ShapeRecord → List Point
  | .circle c => [c.center]
  | .rectangle r => r.corners

def Point.pair (p : Point) : Float × Float :=
  (p.x, p.y)

namespace Primitive

/-- The numbers of a shape that are used under some options, undefined if they are absent. -/
def figure (o : Options) (p : Primitive) : Figure Float :=
  match p.shape with
  | .circle a =>
    .circle (orNaN (a.centerBy o.circleCenter).1) (orNaN (a.centerBy o.circleCenter).2) (orNaN a.r)
  | .rect a => .rect (orNaN a.x) (orNaN a.y) (orNaN a.width) (orNaN a.height)

/-- The record of a shape under a shift. -/
def place (o : Options) (p : Primitive) (t : Shift) : ShapeRecord :=
  match p.shape with
  | .circle a => .circle (a.place o.circleCenter t)
  | .rect a => .rectangle (a.place o.bottomRightY (orNaN a.width) (orNaN a.height) t)

end Primitive

theorem points_place (o : Options) (p : Primitive) (t : Shift) :
    (p.place o t).points.map Point.pair =
      (p.figure o).points o.bottomRightY (t.dx, t.dy) := by
  obtain ⟨shape, parent⟩ := p
  cases shape with
  | circle a => rfl
  | rect a =>
      cases hcorner : o.bottomRightY <;>
        simp [Primitive.place, Primitive.figure, RectAttributes.place, hcorner,
          ShapeRecord.points, RectangleRecord.corners, Point.pair, Figure.points, Shift.apply]

/-- A record is finite if all its numbers are. -/
theorem isFinite_place (o : Options) (p : Primitive) (t : Shift) :
    (p.place o t).isFinite =
      ((p.figure o).numbers o.bottomRightY (t.dx, t.dy)).all Number.isFinite := by
  have hpoint (q : Point) : q.isFinite = [q.pair.1, q.pair.2].all Number.isFinite := by
    simp [Point.isFinite, Point.pair]
  have hpoints : (p.place o t).points.all Point.isFinite =
      (((p.figure o).points o.bottomRightY (t.dx, t.dy)).flatMap fun q => [q.1, q.2]).all
        Number.isFinite := by
    rw [← points_place, List.all_flatMap, List.all_map]
    exact congrArg _ (funext hpoint)
  unfold Figure.numbers
  rw [List.all_append, ← hpoints]
  obtain ⟨shape, parent⟩ := p
  cases shape with
  | circle a => simp [Primitive.place, Primitive.figure, ShapeRecord.isFinite, ShapeRecord.points,
      CircleRecord.isFinite, CircleAttributes.place]
  | rect a => simp [Primitive.place, Primitive.figure, ShapeRecord.isFinite, ShapeRecord.points,
      RectangleRecord.isFinite]

namespace Primitive

/-- A rectangle of which the width or the height is undefined. -/
def LacksSize (p : Primitive) : Prop :=
  ∃ a, p.shape = .rect a ∧ (IsUndefined a.width ∨ IsUndefined a.height)

/-- A shape without a transform around it if such shapes are skipped. -/
def LacksTransform (o : Options) (p : Primitive) : Prop :=
  p.parentTransform = none ∧ o.missingTransform = .skip

/-- A shape with a transform around it that is no shift. -/
def HasOtherTransform (p : Primitive) : Prop :=
  ∃ text, p.parentTransform = some text ∧ Shift.parse text = none

/-- The shift around a shape, none at all being the identity. -/
def shift? (p : Primitive) : Option Shift :=
  match p.parentTransform with
  | none => some .identity
  | some text => Shift.parse text

/-- A shape of whose numbers one is undefined or infinite if such shapes are skipped. -/
def IsMalformed (o : Options) (p : Primitive) (t : Shift) : Prop :=
  o.malformed = .skip ∧ ∃ v ∈ (p.figure o).numbers o.bottomRightY (t.dx, t.dy),
    Number.value v = .nan ∨ ∃ negative, Number.value v = .infinite negative

end Primitive

theorem isFinite_eq_false_iff (v : Float) :
    Number.isFinite v = false ↔
      Number.value v = .nan ∨ ∃ negative, Number.value v = .infinite negative := by
  rw [Number.isFinite]
  cases Number.value v <;> simp

theorem isMalformed_iff (o : Options) (p : Primitive) (t : Shift) :
    p.IsMalformed o t ↔ o.malformed = .skip ∧ (p.place o t).isFinite = false := by
  simp only [Primitive.IsMalformed, isFinite_place, List.all_eq_false, ← isFinite_eq_false_iff,
    Bool.not_eq_true]

/-! Records -/

section Records

variable {o : Options} {p : Primitive} {t : Shift}

theorem parentShift_of_lacksTransform (h : p.LacksTransform o) :
    parentShift o p.parentTransform = .error .noParentTransform := by
  rw [h.1, parentShift, h.2]

theorem parentShift_of_hasOtherTransform (h : p.HasOtherTransform) :
    parentShift o p.parentTransform = .error .unsupportedTransform := by
  obtain ⟨text, htext, hparse⟩ := h
  rw [htext, parentShift, hparse]

theorem parentShift_of_shift? (h : ¬ p.LacksTransform o) (ht : p.shift? = some t) :
    parentShift o p.parentTransform = .ok t := by
  obtain ⟨shape, parent⟩ := p
  cases parent with
  | none =>
      obtain rfl : .identity = t := Option.some.inj ht
      cases hpolicy : o.missingTransform with
      | skip => exact absurd ⟨rfl, hpolicy⟩ h
      | identity => rw [parentShift, hpolicy]
  | some text =>
      have hparse : Shift.parse text = some t := ht
      rw [parentShift, hparse]

theorem hasOtherTransform_iff (p : Primitive) : p.HasOtherTransform ↔ p.shift? = none := by
  obtain ⟨shape, parent⟩ := p
  cases parent <;> simp [Primitive.HasOtherTransform, Primitive.shift?]

/-- A rectangle has no record without a size, whatever else is true of it. -/
theorem record_of_lacksSize (o : Options) (h : p.LacksSize) :
    record o p = .error .missingSize := by
  obtain ⟨shape, parent⟩ := p
  obtain ⟨a, hshape, hundefined⟩ := h
  obtain rfl : shape = .rect a := hshape
  have hsize : rectangleRecord o a parent = .error .missingSize := by
    rw [rectangleRecord]
    rcases hundefined with hwidth | hheight
    · rw [size?_of_isUndefined hwidth]
    · rw [size?_of_isUndefined hheight]
      cases size? a.width <;> rfl
  simp only [record, hsize]
  rfl

/-- With one, the transform around the shape and then the numbers decide. -/
theorem record_of_sized (h : ¬ p.LacksSize) :
    record o p =
      (parentShift o p.parentTransform).bind fun t =>
        requireFinite o (p.place o t).isFinite (p.place o t) := by
  have hmap {α : Type} (f : α → ShapeRecord) (finite : Bool) (r : α) :
      (requireFinite o finite r).map f = requireFinite o finite (f r) := by
    rw [requireFinite, requireFinite]
    split <;> rfl
  obtain ⟨shape, parent⟩ := p
  cases shape with
  | circle a =>
      simp only [record, circleRecord]
      cases parentShift o parent with
      | error reason => rfl
      | ok t => exact hmap .circle _ _
  | rect a =>
      have hsize : ¬ IsUndefined a.width ∧ ¬ IsUndefined a.height := by
        rw [← not_or]
        intro hundefined
        exact h ⟨a, rfl, hundefined⟩
      simp only [record, rectangleRecord, (size?_of_not_isUndefined hsize.1).2,
        (size?_of_not_isUndefined hsize.2).2]
      cases parentShift o parent with
      | error reason => rfl
      | ok t => exact hmap .rectangle _ _

/-- A record is that of a shape with a size under the shift around it. -/
theorem of_record_eq_ok {r : ShapeRecord} (h : record o p = .ok r) :
    ¬ p.LacksSize ∧ ∃ t, parentShift o p.parentTransform = .ok t ∧ r = p.place o t := by
  have hsize : ¬ p.LacksSize := by
    intro hlacks
    rw [record_of_lacksSize o hlacks] at h
    cases h
  refine ⟨hsize, ?_⟩
  rw [record_of_sized hsize] at h
  cases hshift : parentShift o p.parentTransform with
  | error reason =>
      rw [hshift] at h
      cases h
  | ok t =>
      rw [hshift] at h
      change requireFinite o _ _ = .ok r at h
      rw [requireFinite] at h
      split at h
      · cases h
      · exact ⟨t, rfl, (Except.ok.inj h).symm⟩

end Records

end ShapeCoords
