import ShapeCoords.Proofs.Drawing.Picture

/-!
Drawings: forests of groups and shapes, the text they are written out as, and the elements that
reading this text makes. They are pictures whose elements have certain attributes only.
-/

namespace ShapeCoords

open Markup

/-- A text for an attribute between double quotes. -/
abbrev PlainValue := { value : String // IsPlainValue value }

inductive ShapeTag where
  | circle
  | rect
  deriving DecidableEq, Repr

def ShapeTag.name : ShapeTag → String
  | .circle => "circle"
  | .rect => "rect"

def ShapeTag.attributeNames : ShapeTag → List String
  | .circle => ["rx", "ry", "cx", "cy", "r"]
  | .rect => ["x", "y", "width", "height"]

structure Leaf where
  tag : ShapeTag
  attributes : List Attribute
  known : ∀ a ∈ attributes, a.name ∈ tag.attributeNames
  distinct : (attributes.map Attribute.name).Nodup
  plain : ∀ a ∈ attributes, IsPlainValue a.value

/-- Shapes and groups of them next to each other. -/
inductive Forest where
  | nil
  | leaf (l : Leaf) (rest : Forest)
  | group (transform : Option PlainValue) (inner rest : Forest)

/-- A forest in an `svg` element. -/
structure Drawing where
  transform : Option PlainValue
  content : Forest

def transformAttributes (transform : Option PlainValue) : List Attribute :=
  (transform.map fun value => ⟨"transform", value.val⟩).toList

/-! The text of a drawing -/

def Leaf.text (l : Leaf) : List Char :=
  openTagText l.tag.name l.attributes ++ endTagText l.tag.name

def Forest.text : Forest → List Char
  | .nil => []
  | .leaf l rest => l.text ++ rest.text
  | .group transform inner rest =>
    openTagText "g" (transformAttributes transform) ++ inner.text ++ endTagText "g" ++ rest.text

def Drawing.text (d : Drawing) : List Char :=
  openTagText "svg" (transformAttributes d.transform) ++ d.content.text ++ endTagText "svg"

/-! The elements of a drawing -/

def Leaf.element (l : Leaf) : Element :=
  ⟨.svg, l.tag.name, l.attributes⟩

def groupElement (name : String) (transform : Option PlainValue) : Element :=
  ⟨.svg, name, transformAttributes transform⟩

/-- The tree with the elements of a forest inside of another element. -/
def Forest.growIn (parent : Nat) : Forest → Tree → Tree
  | .nil, t => t
  | .leaf l rest, t => rest.growIn parent (t.grow l.element parent)
  | .group transform inner rest, t =>
    rest.growIn parent
      (inner.growIn t.elements.size (t.grow (groupElement "g" transform) parent))

def Drawing.growIn (parent : Nat) (d : Drawing) (t : Tree) : Tree :=
  d.content.growIn t.elements.size (t.grow (groupElement "svg" d.transform) parent)

theorem isPlain_transform {transform : Option PlainValue} :
    ∀ a ∈ transformAttributes transform, a.IsPlain := by
  intro a ha
  cases transform with
  | none => cases ha
  | some value =>
      cases List.mem_singleton.1 ha
      exact ⟨(by decide : IsAttributeName "transform"), value.property⟩

theorem nodup_transform (transform : Option PlainValue) :
    ((transformAttributes transform).map Attribute.name).Nodup := by
  cases transform <;> simp [transformAttributes]

theorem Leaf.isPlain (l : Leaf) : ∀ a ∈ l.attributes, a.IsPlain := by
  intro a ha
  have hnames : ∀ name ∈ l.tag.attributeNames, IsAttributeName name := by
    cases l.tag <;> decide
  exact ⟨hnames a.name (l.known a ha), l.plain a ha⟩

/-! Drawings as pictures -/

def ShapeTag.pictureTag : ShapeTag → PictureTag
  | .circle => .circle
  | .rect => .rect

theorem ShapeTag.name_pictureTag (tag : ShapeTag) : tag.pictureTag.name = tag.name := by
  cases tag <;> rfl

def transformOnly (transform : Option PlainValue) : PlainAttributes :=
  ⟨transformAttributes transform, isPlain_transform, nodup_transform transform⟩

def Forest.graphics : Forest → Graphics
  | .nil => .nil
  | .leaf l rest =>
    .element l.tag.pictureTag ⟨l.attributes, l.isPlain, l.distinct⟩ .nil rest.graphics
  | .group transform inner rest =>
    .element .group (transformOnly transform) inner.graphics rest.graphics

def Drawing.picture (d : Drawing) : Picture where
  attributes := transformOnly d.transform
  content := d.content.graphics

theorem Forest.text_graphics (f : Forest) : f.graphics.text = f.text := by
  induction f with
  | nil => rfl
  | leaf l rest ih =>
      rw [graphics, Graphics.text, ih, l.tag.name_pictureTag, Graphics.text, List.append_nil]
      rfl
  | group transform inner rest ihInner ihRest =>
      rw [graphics, Graphics.text, ihInner, ihRest]
      rfl

theorem Forest.growIn_graphics (f : Forest) (parent : Nat) (t : Tree) :
    f.graphics.growIn parent t = f.growIn parent t := by
  induction f generalizing parent t with
  | nil => rfl
  | leaf l rest ih =>
      rw [graphics, Graphics.growIn, ih, l.tag.name_pictureTag]
      rfl
  | group transform inner rest ihInner ihRest =>
      rw [graphics, Graphics.growIn, ihInner, ihRest]
      rfl

theorem Drawing.text_picture (d : Drawing) : d.picture.text = d.text := by
  rw [Picture.text, picture, d.content.text_graphics]
  rfl

theorem Drawing.growIn_picture (d : Drawing) (parent : Nat) (t : Tree) :
    d.picture.growIn parent t = d.growIn parent t :=
  d.content.growIn_graphics _ _

end ShapeCoords
