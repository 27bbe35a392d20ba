import ShapeCoords.Json.Reader.Fields
import ShapeCoords.Json.Printer
import ShapeCoords.Record

/-!
Records from a JSON text. A circle is given by `center` and `radius`, a rectangle by its corners;
`null` stands for the undefined number. A record that could be either is a circle.
-/

namespace ShapeCoords

open Json (Schema)

/-- The value of a field, or the name under which it is missing. -/
def requireField {α : Type} (name : String) : Option α → Except String α
  | some a => .ok a
  | none => .error name

def numberOf : Json → Option Float
  | .null => some Number.nan
  | .int i => some (Number.Decimal.toFloat ⟨decide (i < 0), i.natAbs, 0⟩)
  | .float v => some v
  | _ => none

namespace Point

structure Partial where
  x : Option Float := none
  y : Option Float := none

def schema : Schema Partial Point where
  name := "struct Point"
  fields := [
    { name := "x"
      isSet := fun p => p.x.isSome
      reader := (fun v p => { p with x := some v }) <$> Json.Reader.floatOrNull
      ofJson := fun v => (numberOf v).map fun v p => { p with x := some v } },
    { name := "y"
      isSet := fun p => p.y.isSome
      reader := (fun v p => { p with y := some v }) <$> Json.Reader.floatOrNull
      ofJson := fun v => (numberOf v).map fun v p => { p with y := some v } }]
  start := {}
  finish p := return ⟨← requireField "x" p.x, ← requireField "y" p.y⟩
  hasDefaults := false
  isClosed := false

def parse (text : String) : Except String Point :=
  schema.reader.run text

def toJson (p : Point) : Json :=
  .object [("x", .float p.x), ("y", .float p.y)]

end Point

/-- How the radius of a circle is read: it is the one field of a structure. -/
def radiusSchema : Schema (Option Float) Float where
  name := "struct Radius"
  fields := [
    { name := "r"
      isSet := Option.isSome
      reader := (fun v _ => some v) <$> Json.Reader.floatOrNull
      ofJson := fun v => (numberOf v).map fun v _ => some v }]
  start := none
  finish := requireField "r"
  hasDefaults := false
  isClosed := false

namespace CircleRecord

structure Partial where
  center : Option Point := none
  radius : Option Float := none

def schema : Schema Partial CircleRecord where
  name := "struct CircleRecord"
  fields := [
    { name := "center"
      isSet := fun p => p.center.isSome
      reader := (fun v p => { p with center := some v }) <$> Point.schema.reader
      ofJson := fun v => (Point.schema.ofJson v).map fun v p => { p with center := some v } },
    { name := "radius"
      isSet := fun p => p.radius.isSome
      reader := (fun v p => { p with radius := some v }) <$> radiusSchema.reader
      ofJson := fun v => (radiusSchema.ofJson v).map fun v p => { p with radius := some v } }]
  start := {}
  finish p := return ⟨← requireField "center" p.center, ← requireField "radius" p.radius⟩
  hasDefaults := false
  isClosed := false

def parse (text : String) : Except String CircleRecord :=
  schema.reader.run text

def toJson (c : CircleRecord) : Json :=
  .object [("center", c.center.toJson), ("radius", .object [("r", .float c.radius)])]

end CircleRecord

namespace RectangleRecord

structure Partial where
  topLeft : Option Point := none
  topRight : Option Point := none
  bottomLeft : Option Point := none
  bottomRight : Option Point := none

def schema : Schema Partial RectangleRecord where
  name := "struct RectangleRecord"
  fields := [
    { name := "topLeft"
      isSet := fun p => p.topLeft.isSome
      reader := (fun v p => { p with topLeft := some v }) <$> Point.schema.reader
      ofJson := fun v => (Point.schema.ofJson v).map fun v p => { p with topLeft := some v } },
    { name := "topRight"
      isSet := fun p => p.topRight.isSome
      reader := (fun v p => { p with topRight := some v }) <$> Point.schema.reader
      ofJson := fun v => (Point.schema.ofJson v).map fun v p => { p with topRight := some v } },
    { name := "bottomLeft"
      isSet := fun p => p.bottomLeft.isSome
      reader := (fun v p => { p with bottomLeft := some v }) <$> Point.schema.reader
      ofJson := fun v => (Point.schema.ofJson v).map fun v p => { p with bottomLeft := some v } },
    { name := "bottomRight"
      isSet := fun p => p.bottomRight.isSome
      reader := (fun v p => { p with bottomRight := some v }) <$> Point.schema.reader
      ofJson := fun v => (Point.schema.ofJson v).map fun v p => { p with bottomRight := some v } }]
  start := {}
  finish p :=
    return ⟨← requireField "topLeft" p.topLeft, ← requireField "topRight" p.topRight,
      ← requireField "bottomLeft" p.bottomLeft, ← requireField "bottomRight" p.bottomRight⟩
  hasDefaults := false
  isClosed := false

def parse (text : String) : Except String RectangleRecord :=
  schema.reader.run text

def toJson (r : RectangleRecord) : Json :=
  .object [("topLeft", r.topLeft.toJson), ("topRight", r.topRight.toJson),
    ("bottomLeft", r.bottomLeft.toJson), ("bottomRight", r.bottomRight.toJson)]

end RectangleRecord

namespace ShapeRecord

def ofJson (v : Json) : Option ShapeRecord :=
  (CircleRecord.schema.ofJson v).map .circle <|> (RectangleRecord.schema.ofJson v).map .rectangle

/-- Reads a record of either shape around which `depth` more lists or objects may be nested. -/
def reader (depth : Nat) : Json.Reader ShapeRecord := do
  match ofJson (← Json.Reader.any depth) with
  | some r => return r
  | none => Json.Reader.fail (.noVariant "ShapeRecord")

def parse (text : String) : Except String ShapeRecord :=
  (reader Json.Reader.maxDepth).run text

def toJson : ShapeRecord → Json
  | .circle c => c.toJson
  | .rectangle r => r.toJson

end ShapeRecord

namespace Collection

open Json.Reader

def reader : Json.Reader Collection := do
  let c ← valueStart
  locate <|
    match c with
    | '[' => do
      skip
      let item (read : List ShapeRecord) : Json.Reader (List ShapeRecord) := do
        return (← ShapeRecord.reader (maxDepth - 1)) :: read
      return ⟨(← (eachItem item []).closedBy listEnd).reverse⟩
    | _ => wrongType "a sequence"

def parse (text : String) : Except String Collection :=
  reader.run text

def toJson (c : Collection) : Json :=
  .array (c.records.map ShapeRecord.toJson)

def json (c : Collection) : String :=
  String.ofList c.toJson.compact

def prettyJson (c : Collection) : String :=
  String.ofList c.toJson.pretty

end Collection

end ShapeCoords
