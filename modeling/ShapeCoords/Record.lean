import ShapeCoords.Number.Binary64

/-!
Coordinates of shapes, and collections of them in the order of an extraction.
-/

namespace ShapeCoords

structure Point where
  x : Float
  y : Float
  deriving BEq, Inhabited

def Point.isFinite (p : Point) : Bool :=
  Number.isFinite p.x && Number.isFinite p.y

structure CircleRecord where
  center : Point
  radius : Float
  deriving BEq, Inhabited

def CircleRecord.isFinite (c : CircleRecord) : Bool :=
  c.center.isFinite && Number.isFinite c.radius

structure RectangleRecord where
  topLeft : Point
  topRight : Point
  bottomLeft : Point
  bottomRight : Point
  deriving BEq, Inhabited

def RectangleRecord.corners (r : RectangleRecord) : List Point :=
  [r.topLeft, r.topRight, r.bottomLeft, r.bottomRight]

def RectangleRecord.isFinite (r : RectangleRecord) : Bool :=
  r.corners.all Point.isFinite

inductive ShapeRecord where
  | circle (record : CircleRecord)
  | rectangle (record : RectangleRecord)
  deriving BEq, Inhabited

namespace ShapeRecord

def circle? : ShapeRecord → Option CircleRecord
  | .circle c => some c
  | .rectangle _ => none

def rectangle? : ShapeRecord → Option RectangleRecord
  | .circle _ => none
  | .rectangle r => some r

def isFinite : ShapeRecord → Bool
  | .circle c => c.isFinite
  | .rectangle r => r.isFinite

end ShapeRecord

structure Collection where
  records : List ShapeRecord := []
  deriving BEq, Inhabited

namespace Collection

def circles (c : Collection) : List CircleRecord :=
  c.records.filterMap ShapeRecord.circle?

def rectangles (c : Collection) : List RectangleRecord :=
  c.records.filterMap ShapeRecord.rectangle?

def length (c : Collection) : Nat :=
  c.records.length

def isEmpty (c : Collection) : Bool :=
  c.records.isEmpty

def push (c : Collection) (r : ShapeRecord) : Collection :=
  ⟨c.records ++ [r]⟩

def append (c d : Collection) : Collection :=
  ⟨c.records ++ d.records⟩

def filter (keep : ShapeRecord → Bool) (c : Collection) : Collection :=
  ⟨c.records.filter keep⟩

def reverse (c : Collection) : Collection :=
  ⟨c.records.reverse⟩

end Collection

end ShapeCoords
