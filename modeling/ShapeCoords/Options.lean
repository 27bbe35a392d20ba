/-!
The conventions of an extraction.
-/

namespace ShapeCoords

/-- What becomes of a shape whose parent has no transform at all. -/
inductive MissingTransform where
  | skip
  | identity
  deriving DecidableEq, Repr, Inhabited

/-- Whether the bottom right corner is computed from the ordinate before or after the shift. -/
inductive BottomRightY where
  | unadjusted
  | adjusted
  deriving DecidableEq, Repr, Inhabited

/-- What becomes of a record with an undefined or infinite value. -/
inductive Malformed where
  | propagate
  | skip
  deriving DecidableEq, Repr, Inhabited

/-- The attributes that hold the centre of a circle: `rx` and `ry`, or `cx` and `cy`. -/
inductive CircleCenter where
  | radii
  | center
  deriving DecidableEq, Repr, Inhabited

structure Options where
  missingTransform : MissingTransform := .skip
  bottomRightY : BottomRightY := .unadjusted
  malformed : Malformed := .propagate
  circleCenter : CircleCenter := .radii
  /-- Markup with any parse error is refused. -/
  strictMarkup : Bool := false
  deriving DecidableEq, Repr, Inhabited

def MissingTransform.name : MissingTransform → String
  | .skip => "skip"
  | .identity => "identity"

def BottomRightY.name : BottomRightY → String
  | .unadjusted => "unadjusted"
  | .adjusted => "adjusted"

def Malformed.name : Malformed → String
  | .propagate => "propagate"
  | .skip => "skip"

def CircleCenter.name : CircleCenter → String
  | .radii => "radii"
  | .center => "center"

end ShapeCoords
