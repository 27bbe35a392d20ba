import ShapeCoords.Event
import ShapeCoords.Geometry.Shift
import ShapeCoords.Options
import ShapeCoords.Record

/-!
Extraction: each shape becomes a record of its coordinates, moved by the shift of its
parent. Circles come first, then rectangles, each in their order.
-/

namespace ShapeCoords

open Number (orNaN)

def parentShift (o : Options) : Option String → Except SkipReason Shift
  | none =>
    match o.missingTransform with
    | .skip => .error .noParentTransform
    | .identity => .ok .identity
  | some text =>
    match Shift.parse text with
    | some t => .ok t
    | none => .error .unsupportedTransform

/-- Refuses a record that is not finite if malformed shapes are skipped. -/
def requireFinite {α : Type} (o : Options) (finite : Bool) (record : α) : Except SkipReason α :=
  if !finite && o.malformed = .skip then .error .nonFinite else .ok record

def CircleAttributes.centerBy (a : CircleAttributes) : CircleCenter → Option Float × Option Float
  | .radii => (a.rx, a.ry)
  | .center => (a.cx, a.cy)

/-- A number is a size unless it is absent or undefined. -/
def size? (v : Option Float) : Option Float :=
  v.filter fun v => !Number.isNaN v

def CircleAttributes.place (a : CircleAttributes) (source : CircleCenter) (t : Shift) :
    CircleRecord :=
  let (cx, cy) := a.centerBy source
  let (x, y) := t.apply (orNaN cx) (orNaN cy)
  ⟨⟨x, y⟩, orNaN a.r⟩

/-- The rectangle of the attributes under a shift. Its bottom lies `height` below its top in
the sense of decreasing ordinates. -/
def RectAttributes.place (a : RectAttributes) (corner : BottomRightY) (width height : Float)
    (t : Shift) : RectangleRecord :=
  let rawY := orNaN a.y
  let (x, y) := t.apply (orNaN a.x) rawY
  let bottomRightY :=
    match corner with
    | .unadjusted => rawY - height
    | .adjusted => y - height
  { topLeft := ⟨x, y⟩
    topRight := ⟨x + width, y⟩
    bottomLeft := ⟨x, y - height⟩
    bottomRight := ⟨x + width, bottomRightY⟩ }

def circleRecord (o : Options) (a : CircleAttributes) (parent : Option String) :
    Except SkipReason CircleRecord :=
  match parentShift o parent with
  | .error reason => .error reason
  | .ok t =>
    let record := a.place o.circleCenter t
    requireFinite o record.isFinite record

def rectangleRecord (o : Options) (a : RectAttributes) (parent : Option String) :
    Except SkipReason RectangleRecord :=
  match size? a.width, size? a.height with
  | some width, some height =>
    match parentShift o parent with
    | .error reason => .error reason
    | .ok t =>
      let record := a.place o.bottomRightY width height t
      requireFinite o record.isFinite record
  | _, _ => .error .missingSize

/-- The record of a shape, or why it has none. -/
def record (o : Options) (p : Primitive) : Except SkipReason ShapeRecord :=
  match p.shape with
  | .circle a => (circleRecord o a p.parentTransform).map .circle
  | .rect a => (rectangleRecord o a p.parentTransform).map .rectangle

/-- The warning about a shape that lacks a value its record is computed from. A shape without size
or shift is skipped before that is looked at. -/
def warning? (o : Options) (p : Primitive) : Option Event :=
  match p.shape with
  | .circle a =>
    let (cx, cy) := a.centerBy o.circleCenter
    if (parentShift o p.parentTransform).isOk && (cx.isNone || cy.isNone || a.r.isNone) then
      some (.incompleteCircle a)
    else none
  | .rect a =>
    if (size? a.width).isSome && (size? a.height).isSome &&
        (parentShift o p.parentTransform).isOk && (a.x.isNone || a.y.isNone) then
      some (.incompleteRect a)
    else none

/-- Circles first, then rectangles, each in their order. -/
def circlesFirst (ps : List Primitive) : List Primitive :=
  ps.filter Primitive.isCircle ++ ps.filter Primitive.isRect

def shapeEvents (o : Options) (p : Primitive) (index : Nat) : List Event :=
  (warning? o p).toList ++
    match record o p with
    | .ok _ => []
    | .error reason => [.skipped index p.tag reason]

def extract (o : Options) (ps : List Primitive) : Collection :=
  ⟨(circlesFirst ps).filterMap fun p => (record o p).toOption⟩

def extractEvents (o : Options) (ps : List Primitive) : List Event :=
  let c := extract o ps
  (circlesFirst ps).zipIdx.flatMap (fun (p, i) => shapeEvents o p i) ++
    [.extracted c.length c.circles.length c.rectangles.length (ps.length - c.length)]

end ShapeCoords
