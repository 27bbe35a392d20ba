import ShapeCoords.Extraction
import ShapeCoords.Markup.Parsing

/-!
Documents: the shapes in a text of markup. Strict options refuse a text with any parse error;
otherwise errors are recovered from.
-/

namespace ShapeCoords

open Markup (Element Tree)

structure Document where
  tree : Tree
  faults : List Markup.Fault
  /-- Blank attribute values count as missing; otherwise they are zero. -/
  blankIsMissing : Bool

structure MarkupError where
  faults : List Markup.Fault
  deriving DecidableEq, Repr

def MarkupError.message (e : MarkupError) : String :=
  "Markup parse error: " ++ "; ".intercalate (e.faults.map Markup.Fault.message)

namespace Document

def parse (o : Options) (text : String) : Except MarkupError Document :=
  let (tree, faults) := Markup.parse text.toList
  if o.strictMarkup && !faults.isEmpty then .error ⟨faults⟩
  else .ok ⟨tree, faults, o.malformed == .skip⟩

/-- The elements with a name, of any namespace, with their numbers. -/
def named (name : String) (d : Document) : List (Element × Nat) :=
  d.tree.placed.filter fun (e, _) => e.name == name

def svgCount (d : Document) : Nat :=
  (d.named "svg").length

def number (d : Document) (e : Element) (name : String) : Option Float :=
  (e.value? name).bind fun value =>
    if d.blankIsMissing && Text.allBlank value.toList then none else Number.parse value.toList

def circle (d : Document) (e : Element) : CircleAttributes where
  rx := d.number e "rx"
  ry := d.number e "ry"
  cx := d.number e "cx"
  cy := d.number e "cy"
  r := d.number e "r"

def rect (d : Document) (e : Element) : RectAttributes where
  x := d.number e "x"
  y := d.number e "y"
  width := d.number e "width"
  height := d.number e "height"

def circles (d : Document) : List Primitive :=
  (d.named "circle").map fun (e, id) =>
    ⟨.circle (d.circle e), d.tree.parentValue? id "transform"⟩

def rects (d : Document) : List Primitive :=
  (d.named "rect").map fun (e, id) => ⟨.rect (d.rect e), d.tree.parentValue? id "transform"⟩

/-- The circles and then the rectangles of the document. -/
def primitives (d : Document) : List Primitive :=
  d.circles ++ d.rects

def describe (d : Document) : String :=
  Text.Description.text {
    name := "SvgDocument"
    fields := [("parse_errors", String.ofList (Number.digitsOf d.faults.length))]
    elided := true }

def loadEvents (d : Document) : List Event :=
  if d.faults.isEmpty then [] else [.recovered d.faults.length]

end Document

def extractMarkup (o : Options) (text : String) : Except MarkupError (Collection × List Event) := do
  let d ← Document.parse o text
  let ps := d.primitives
  return (extract o ps,
    d.loadEvents ++ .loaded d.svgCount d.faults.length ps.length :: extractEvents o ps)

/-- The coordinates of the shapes in a text of markup. -/
def extractCoordinates (o : Options) (text : String) : Except MarkupError Collection :=
  (extractMarkup o text).map Prod.fst

end ShapeCoords
