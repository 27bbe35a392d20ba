/-!
JSON values. The members of an object keep their order, and a name may occur more than once.
-/

namespace ShapeCoords

inductive Json where
  | null
  | bool (b : Bool)
  | int (i : Int)
  | float (v : Float)
  | string (s : String)
  | array (items : List Json)
  | object (members : List (String × Json))
  deriving Inhabited

end ShapeCoords
