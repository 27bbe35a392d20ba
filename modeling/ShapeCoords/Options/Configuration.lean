import ShapeCoords.Options.Reading
import ShapeCoords.Yaml.Reading

/-!
Options from a YAML text. As in JSON, a field that is not given has its default, and a name that is
no field's is refused.
-/

namespace ShapeCoords.Options

open Yaml (Entry readBool readVariant)

def missingTransformEntry : Entry Partial where
  name := "missingTransform"
  isSet p := p.missingTransform.isSome
  read place n := (fun v p => { p with missingTransform := some v }) <$>
    readVariant MissingTransform.variants place n

def bottomRightYEntry : Entry Partial where
  name := "bottomRightY"
  isSet p := p.bottomRightY.isSome
  read place n := (fun v p => { p with bottomRightY := some v }) <$>
    readVariant BottomRightY.variants place n

def malformedEntry : Entry Partial where
  name := "malformed"
  isSet p := p.malformed.isSome
  read place n := (fun v p => { p with malformed := some v }) <$>
    readVariant Malformed.variants place n

def circleCenterEntry : Entry Partial where
  name := "circleCenter"
  isSet p := p.circleCenter.isSome
  read place n := (fun v p => { p with circleCenter := some v }) <$>
    readVariant CircleCenter.variants place n

def strictMarkupEntry : Entry Partial where
  name := "strictMarkup"
  isSet p := p.strictMarkup.isSome
  read place n := (fun v p => { p with strictMarkup := some v }) <$> readBool place n

def entries : List (Entry Partial) :=
  [missingTransformEntry, bottomRightYEntry, malformedEntry, circleCenterEntry, strictMarkupEntry]

/-- Reads options from a YAML text; otherwise says what is wrong with it. -/
def parseYaml (text : String) : Except String Options :=
  match (Yaml.Document.ofText text.toList).readFields schema.name entries {} with
  | .ok p => .ok (p.over {})
  | .error f => .error f.message

end ShapeCoords.Options
