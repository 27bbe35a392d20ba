import ShapeCoords.Primitive

/-!
What a run reports about itself: skipped shapes, incomplete shapes, and totals.
-/

namespace ShapeCoords

inductive SkipReason where
  /-- The parent has no transform. -/
  | noParentTransform
  /-- The parent's transform is not a shift. -/
  | unsupportedTransform
  /-- A rectangle without width or height. -/
  | missingSize
  /-- The record would hold an undefined or infinite value. -/
  | nonFinite
  deriving DecidableEq, Repr

def SkipReason.message : SkipReason → String
  | .noParentTransform => "parent has no transform"
  | .unsupportedTransform => "parent transform is not a translate"
  | .missingSize => "width/height is not a number"
  | .nonFinite => "non-finite coordinates"

inductive Level where
  | debug
  | info
  | warn
  deriving DecidableEq, Repr

def Level.severity : Level → Nat
  | .debug => 0
  | .info => 1
  | .warn => 2

inductive Event where
  /-- A shape gave no record; the index counts circles first, then rectangles. -/
  | skipped (index : Nat) (tag : String) (reason : SkipReason)
  | incompleteCircle (attributes : CircleAttributes)
  | incompleteRect (attributes : RectAttributes)
  | extracted (records circles rectangles skipped : Nat)
  /-- The markup had parse errors, which were recovered from. -/
  | recovered (errors : Nat)
  | loaded (svgs parseErrors primitives : Nat)
  | nothingToRender
  | blockRendered (diagram : String) (bytes : Nat)
  | documentRendered (diagrams : Nat)
  /-- The page has its drawings now. -/
  | pageReady (renderer : String) (bytes : Nat)

namespace Event

def level : Event → Level
  | .skipped .. | .recovered .. | .loaded .. | .blockRendered .. | .pageReady .. => .debug
  | .extracted .. | .nothingToRender | .documentRendered .. => .info
  | .incompleteCircle .. | .incompleteRect .. => .warn

def message : Event → String
  | .skipped .. => "skipping primitive"
  | .incompleteCircle _ => "circle has a missing or non-numeric attribute"
  | .incompleteRect _ => "rect has a missing or non-numeric position"
  | .extracted .. => "extracted shape coordinates"
  | .recovered _ => "markup parsed with recoverable errors"
  | .loaded .. => "loaded markup"
  | .nothingToRender => "no mermaid blocks found; passing markup through"
  | .blockRendered .. => "rendered mermaid block"
  | .documentRendered _ => "rendered mermaid blocks"
  | .pageReady .. => "markup ready for extraction"

end Event

inductive Event.Value where
  | count (n : Nat)
  | text (s : String)

def Event.fields : Event → List (String × Event.Value)
  | .skipped index tag reason =>
    [("index", .count index), ("tag", .text tag), ("reason", .text reason.message)]
  | .incompleteCircle a => [("attrs", .text a.describe)]
  | .incompleteRect a => [("attrs", .text a.describe)]
  | .extracted records circles rectangles dropped =>
    [("records", .count records), ("circles", .count circles), ("rectangles", .count rectangles),
      ("skipped", .count dropped)]
  | .recovered errors => [("errors", .count errors)]
  | .loaded svgs parseErrors primitives =>
    [("svgs", .count svgs), ("parse_errors", .count parseErrors),
      ("primitives", .count primitives)]
  | .nothingToRender => []
  | .blockRendered diagram bytes => [("diagram_id", .text diagram), ("bytes", .count bytes)]
  | .documentRendered diagrams => [("diagrams", .count diagrams)]
  | .pageReady renderer bytes => [("renderer", .text renderer), ("bytes", .count bytes)]

/-- The events of a level or more severe ones. -/
def Event.select (least : Level) (events : List Event) : List Event :=
  events.filter fun e => least.severity ≤ e.level.severity

end ShapeCoords
