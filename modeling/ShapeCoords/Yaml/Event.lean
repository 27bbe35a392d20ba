import ShapeCoords.Yaml.Token

/-!
The events of a YAML text: its documents, and their nodes from the first to the last.
-/

namespace ShapeCoords.Yaml

abbrev Tag := List UInt8

structure Scalar where
  tag : Option Tag
  text : List Char
  style : Style
  deriving DecidableEq, Repr

/-- What starts a node, or ends one that holds others. An alias stands for a node elsewhere, which
it names by an `α`. -/
inductive Event (α : Type) where
  | alias (target : α)
  | scalar (s : Scalar)
  | listStart (tag : Option Tag)
  | listEnd
  | mapStart (tag : Option Tag)
  | mapEnd
  deriving DecidableEq, Repr

structure Node (α : Type) where
  event : Event α
  mark : Mark
  anchor : Option (List Char) := none
  deriving DecidableEq, Repr

inductive StreamEvent where
  | documentStart
  | documentEnd
  | node (n : Node (List Char))
  | streamEnd (mark : Mark)

end ShapeCoords.Yaml
