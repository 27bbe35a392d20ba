import ShapeCoords.Number.Layout

/-!
Descriptions of values in log events and diagnostics: a name with its fields between braces.
-/

namespace ShapeCoords.Text

structure Description where
  name : String
  fields : List (String × String)
  /-- Not every part of the value is shown. -/
  elided : Bool

/-- The text of a description: `Name \x7b a: 1, b: 2 \x7d`, with `..` for the parts left out. -/
def Description.text (d : Description) : String :=
  let shown := d.fields.map fun (name, value) => name ++ ": " ++ value
  let parts := if d.elided then shown ++ [".."] else shown
  d.name ++ " \x7b " ++ ", ".intercalate parts ++ " \x7d"

def describeNumber (v : Float) : String :=
  String.ofList (Number.diagnostic.text v)

def describeOptional (v : Option Float) : String :=
  match v with
  | none => "None"
  | some v => "Some(" ++ describeNumber v ++ ")"

end ShapeCoords.Text
