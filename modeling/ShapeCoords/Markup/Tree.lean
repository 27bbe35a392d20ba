import ShapeCoords.Markup.Token

/-!
The elements of a document. They are numbered in the order in which they were made; where each
stands is told by links, so an element can be moved without a change to any other.
-/

namespace ShapeCoords.Markup

inductive Namespace where
  | html
  | svg
  | mathml
  deriving DecidableEq, Repr, Inhabited

structure Element where
  space : Namespace
  /-- The name in lower case. -/
  name : String
  attributes : List Attribute
  deriving DecidableEq, Repr, Inhabited

def Element.value? (e : Element) (name : String) : Option String :=
  attributeValue? e.attributes name

/-- What an element may stand in. The contents of a template are apart from the template. -/
inductive Place where
  | document
  | element (id : Nat)
  | contents (id : Nat)
  deriving DecidableEq, Repr

structure Link where
  child : Nat
  parent : Place
  deriving DecidableEq, Repr

structure Tree where
  elements : Array Element := #[]
  /-- The links, last one first. Children of one parent stand in the order of their links. -/
  links : List Link := []

namespace Tree

def create (e : Element) (t : Tree) : Tree :=
  { t with elements := t.elements.push e }

def parent? (id : Nat) (t : Tree) : Option Place :=
  (t.links.find? fun l => l.child == id).map Link.parent

/-- Takes an element, with all in it, out of its place. -/
def detach (id : Nat) (t : Tree) : Tree :=
  { t with links := t.links.filter fun l => l.child != id }

/-- Puts an element that has no place behind all others in a place. -/
def append (id : Nat) (parent : Place) (t : Tree) : Tree :=
  { t with links := ⟨id, parent⟩ :: t.links }

def insertLink (l : Link) (sibling : Nat) : List Link → List Link
  | [] => [l]
  | m :: links => if m.child = sibling then m :: l :: links else m :: insertLink l sibling links

/-- Puts an element that has no place in front of a sibling that has one. -/
def insertBefore (id sibling : Nat) (t : Tree) : Tree :=
  match t.parent? sibling with
  | some parent => { t with links := insertLink ⟨id, parent⟩ sibling t.links }
  | none => t

/-- Moves what stands in an element behind all that stands in another one. -/
def moveChildren (source target : Nat) (t : Tree) : Tree :=
  let moved := t.links.filter fun l => l.parent == .element source
  let others := t.links.filter fun l => l.parent != .element source
  { t with links := moved.map (fun l => { l with parent := .element target }) ++ others }

/-- Gives an element the attributes whose names it lacks. -/
def addAttributes (id : Nat) (attributes : List Attribute) (t : Tree) : Tree :=
  let add (e : Element) : Element :=
    let missing := attributes.filter fun a => (e.value? a.name).isNone
    { e with attributes := e.attributes ++ missing }
  { t with elements := t.elements.modify id add }

/-- The attribute of the element directly around an element. -/
def parentValue? (id : Nat) (name : String) (t : Tree) : Option String :=
  match t.parent? id with
  | some (.element parent) => t.elements[parent]?.bind fun e => e.value? name
  | _ => none

/-- The elements with a place, in the order in which they were made, with their numbers. -/
def placed (t : Tree) : List (Element × Nat) :=
  t.elements.toList.zipIdx.filter fun (_, id) => (t.parent? id).isSome

def children (parent : Place) (t : Tree) : List Nat :=
  ((t.links.filter fun l => l.parent == parent).map Link.child).reverse

end Tree

end ShapeCoords.Markup
