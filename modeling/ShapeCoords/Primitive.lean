import ShapeCoords.Text.Description

/-!
Shapes as they stand in a document: their geometry attributes and the transform of their parent.
-/

namespace ShapeCoords

/-- The attributes of a circle; an absent one was missing or no number. -/
structure CircleAttributes where
  rx : Option Float
  ry : Option Float
  cx : Option Float
  cy : Option Float
  r : Option Float

structure RectAttributes where
  x : Option Float
  y : Option Float
  width : Option Float
  height : Option Float

inductive Shape where
  | circle (attributes : CircleAttributes)
  | rect (attributes : RectAttributes)

/-- A shape with the transform attribute of the element directly around it. -/
structure Primitive where
  shape : Shape
  parentTransform : Option String

namespace Primitive

def tag (p : Primitive) : String :=
  match p.shape with
  | .circle _ => "circle"
  | .rect _ => "rect"

def isCircle (p : Primitive) : Bool :=
  match p.shape with
  | .circle _ => true
  | .rect _ => false

def isRect (p : Primitive) : Bool :=
  !p.isCircle

end Primitive

open Text

def CircleAttributes.describe (a : CircleAttributes) : String :=
  Description.text {
    name := "CircleAttrs"
    fields := [("rx", describeOptional a.rx), ("ry", describeOptional a.ry),
      ("cx", describeOptional a.cx), ("cy", describeOptional a.cy), ("r", describeOptional a.r)]
    elided := false }

def RectAttributes.describe (a : RectAttributes) : String :=
  Description.text {
    name := "RectAttrs"
    fields := [("x", describeOptional a.x), ("y", describeOptional a.y),
      ("width", describeOptional a.width), ("height", describeOptional a.height)]
    elided := false }

end ShapeCoords
