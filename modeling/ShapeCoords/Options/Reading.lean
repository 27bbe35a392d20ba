import ShapeCoords.Json.Reader.Fields
import ShapeCoords.Options

/-!
Options from a JSON text. A field that is not given has its default; a name that is no field's is
refused.
-/

namespace ShapeCoords

open Json (Schema)

def MissingTransform.variants : List (String × MissingTransform) :=
  [MissingTransform.skip, .identity].map fun v => (v.name, v)

def BottomRightY.variants : List (String × BottomRightY) :=
  [BottomRightY.unadjusted, .adjusted].map fun v => (v.name, v)

def Malformed.variants : List (String × Malformed) :=
  [Malformed.propagate, .skip].map fun v => (v.name, v)

def CircleCenter.variants : List (String × CircleCenter) :=
  [CircleCenter.radii, .center].map fun v => (v.name, v)

structure Options.Partial where
  missingTransform : Option MissingTransform := none
  bottomRightY : Option BottomRightY := none
  malformed : Option Malformed := none
  circleCenter : Option CircleCenter := none
  strictMarkup : Option Bool := none
  deriving DecidableEq, Repr, Inhabited

namespace Options

/-- What is left open is as in `o`. -/
def Partial.over (p : Partial) (o : Options) : Options where
  missingTransform := p.missingTransform.getD o.missingTransform
  bottomRightY := p.bottomRightY.getD o.bottomRightY
  malformed := p.malformed.getD o.malformed
  circleCenter := p.circleCenter.getD o.circleCenter
  strictMarkup := p.strictMarkup.getD o.strictMarkup

def variantOf {α : Type} (variants : List (String × α)) : Json → Option α
  | .string s => (variants.find? fun v => v.1 == s).map Prod.snd
  | .object [(s, .null)] => (variants.find? fun v => v.1 == s).map Prod.snd
  | _ => none

def boolOf : Json → Option Bool
  | .bool b => some b
  | _ => none

def missingTransformField : Schema.Field Partial where
  name := "missingTransform"
  isSet p := p.missingTransform.isSome
  reader := (fun v p => { p with missingTransform := some v }) <$>
    Json.Reader.variant MissingTransform.variants
  ofJson v := (variantOf MissingTransform.variants v).map fun v p =>
    { p with missingTransform := some v }

def bottomRightYField : Schema.Field Partial where
  name := "bottomRightY"
  isSet p := p.bottomRightY.isSome
  reader := (fun v p => { p with bottomRightY := some v }) <$>
    Json.Reader.variant BottomRightY.variants
  ofJson v := (variantOf BottomRightY.variants v).map fun v p => { p with bottomRightY := some v }

def malformedField : Schema.Field Partial where
  name := "malformed"
  isSet p := p.malformed.isSome
  reader := (fun v p => { p with malformed := some v }) <$> Json.Reader.variant Malformed.variants
  ofJson v := (variantOf Malformed.variants v).map fun v p => { p with malformed := some v }

def circleCenterField : Schema.Field Partial where
  name := "circleCenter"
  isSet p := p.circleCenter.isSome
  reader := (fun v p => { p with circleCenter := some v }) <$>
    Json.Reader.variant CircleCenter.variants
  ofJson v := (variantOf CircleCenter.variants v).map fun v p => { p with circleCenter := some v }

def strictMarkupField : Schema.Field Partial where
  name := "strictMarkup"
  isSet p := p.strictMarkup.isSome
  reader := (fun v p => { p with strictMarkup := some v }) <$> Json.Reader.bool
  ofJson v := (boolOf v).map fun v p => { p with strictMarkup := some v }

def schema : Schema Partial Options where
  name := "struct ExtractOptions"
  fields := [missingTransformField, bottomRightYField, malformedField, circleCenterField,
    strictMarkupField]
  start := {}
  finish p := .ok (p.over {})
  hasDefaults := true
  isClosed := true

def ofJson (v : Json) : Option Options :=
  schema.ofJson v

/-- Reads options from a JSON text; otherwise says what is wrong with it. -/
def parse (text : String) : Except String Options :=
  (schema.reader.run text).mapError fun message => "Invalid extract options: " ++ message

def toJson (o : Options) : Json :=
  .object [("missingTransform", .string o.missingTransform.name),
    ("bottomRightY", .string o.bottomRightY.name), ("malformed", .string o.malformed.name),
    ("circleCenter", .string o.circleCenter.name), ("strictMarkup", .bool o.strictMarkup)]

end Options

end ShapeCoords
