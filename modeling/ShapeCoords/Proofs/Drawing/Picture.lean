import ShapeCoords.Proofs.Markup.Building

/-!
Pictures: groups and shapes nested in any way, with any attributes. A picture is written out with
an end tag for each element, and reading it makes these elements, whatever stands behind it.
-/

namespace ShapeCoords

open Markup

/-- Attributes with names of their own, written out between double quotes. -/
structure PlainAttributes where
  list : List Attribute := []
  plain : ∀ a ∈ list, a.IsPlain := by simp
  distinct : (list.map Attribute.name).Nodup := by simp

inductive PictureTag where
  | group
  | circle
  | rect
  deriving DecidableEq, Repr

def PictureTag.name : PictureTag → String
  | .group => "g"
  | .circle => "circle"
  | .rect => "rect"

/-- Elements next to each other, with others inside of them. -/
inductive Graphics where
  | nil
  | element (tag : PictureTag) (attributes : PlainAttributes) (inner rest : Graphics)

/-- An `svg` element. -/
structure Picture where
  attributes : PlainAttributes := {}
  content : Graphics

/-! The text and the elements of a picture -/

def Graphics.text : Graphics → List Char
  | .nil => []
  | .element tag attributes inner rest =>
    openTagText tag.name attributes.list ++ inner.text ++ endTagText tag.name ++ rest.text

def Picture.text (p : Picture) : List Char :=
  openTagText "svg" p.attributes.list ++ p.content.text ++ endTagText "svg"

def Picture.svg (p : Picture) : String :=
  String.ofList p.text

/-- The tree with further elements inside of one of its elements. -/
def Graphics.growIn (parent : Nat) : Graphics → Tree → Tree
  | .nil, t => t
  | .element tag attributes inner rest, t =>
    rest.growIn parent
      (inner.growIn t.elements.size (t.grow ⟨.svg, tag.name, attributes.list⟩ parent))

def Picture.growIn (parent : Nat) (p : Picture) (t : Tree) : Tree :=
  p.content.growIn t.elements.size (t.grow ⟨.svg, "svg", p.attributes.list⟩ parent)

/-- The elements in preorder, each with the transform of the element around it. -/
def Graphics.elements (parent : Option String) : Graphics → List (Element × Option String)
  | .nil => []
  | .element tag attributes inner rest =>
    (⟨.svg, tag.name, attributes.list⟩, parent) ::
      inner.elements (attributeValue? attributes.list "transform") ++ rest.elements parent

/-- The elements of a picture that stands in an element without a transform. -/
def Picture.elements (p : Picture) : List (Element × Option String) :=
  (⟨.svg, "svg", p.attributes.list⟩, none) ::
    p.content.elements (attributeValue? p.attributes.list "transform")

/-! Reading the text -/

theorem PictureTag.isPlainName (tag : PictureTag) : IsPlainName tag.name := by
  cases tag <;> decide

theorem PictureTag.stays (tag : PictureTag) (attributes : List Attribute) :
    Tag.leavesForeign ⟨.opening, tag.name, attributes, false⟩ = false := by
  cases tag <;> simp [Tag.leavesForeign, PictureTag.name, htmlOnlyNames]

theorem PictureTag.holdsNoHtml (tag : PictureTag) :
    ElementName.isContentIntegration ⟨.svg, tag.name⟩ = false := by
  cases tag <;> decide

/-- Reading the text makes the elements inside of the innermost open one. -/
theorem Graphics.reaches (g : Graphics) {b : Builder} {o below : Open} {outer : List Open}
    (hb : b.InDrawing o below outer) (rest : List Char) :
    Reaches (g.text ++ rest) b rest { b with tree := g.growIn o.id b.tree } := by
  induction g generalizing b o below outer rest with
  | nil => exact .refl rest b
  | element tag attributes inner more ihInner ihMore =>
      have hopen := hb.openTag tag.isPlainName attributes.plain attributes.distinct
        (tag.stays attributes.list) (inner.text ++ (endTagText tag.name ++ (more.text ++ rest)))
      have hinside := Builder.InDrawing.descend hb.opened hb.fosters hb.skipsNewline
        tag.holdsNoHtml attributes.list o.id
      have hinner := ihInner hinside (endTagText tag.name ++ (more.text ++ rest))
      have hend := (hinside.withTree (inner.growIn b.tree.elements.size
        (b.tree.grow ⟨.svg, tag.name, attributes.list⟩ o.id))).endTag tag.isPlainName
        (more.text ++ rest)
      have hmore := ihMore (hb.withTree (inner.growIn b.tree.elements.size
        (b.tree.grow ⟨.svg, tag.name, attributes.list⟩ o.id))) rest
      -- behind its end tag the same elements are open as in front of an element
      rw [← hb.opened] at hend
      rw [Graphics.text]
      simp only [List.append_assoc]
      exact hopen.trans (hinner.trans (hend.trans hmore))

/-- From its opening tag on, a picture is read in one way wherever it stands. -/
theorem Picture.reaches_behind_tag (p : Picture) (id : Nat) {b : Builder} {outer : List Open}
    {o : Open} (hopened : b.opened = o :: outer) (hfosters : b.fosters = false)
    (hskips : b.skipsNewline = false) (rest : List Char) :
    Reaches (p.content.text ++ (endTagText "svg" ++ rest)) (b.descend "svg" p.attributes.list id)
      rest { b with tree := p.growIn id b.tree } := by
  have hinside := Builder.InDrawing.descend hopened hfosters hskips
    (by decide : ElementName.isContentIntegration ⟨.svg, "svg"⟩ = false) p.attributes.list id
  have hcontent := p.content.reaches hinside (endTagText "svg" ++ rest)
  have hend := (hinside.withTree (p.growIn id b.tree)).endTag (by decide : IsPlainName "svg") rest
  rw [← hopened] at hend
  exact hcontent.trans hend

/-- Reading the text of a picture in the body makes its elements there. -/
theorem Picture.reaches (p : Picture) {b : Builder} {id : Nat} {outer : List Open}
    (hopened : b.opened = ⟨id, ⟨.html, "body"⟩⟩ :: outer) (hmode : b.mode = .inBody)
    (hfosters : b.fosters = false) (hskips : b.skipsNewline = false) (rest : List Char) :
    Reaches (p.text ++ rest) b rest { b with tree := p.growIn id b.tree } := by
  have hnext := next_openTag (by decide : IsPlainName "svg") p.attributes.plain
    p.attributes.distinct b.isForeign (p.content.text ++ (endTagText "svg" ++ rest))
  have hopen : Reaches _ b _ _ := .token (by simp [openTagText]) hnext
    (takeToken_svgTag hopened hmode hfosters hskips p.attributes.list)
  have hbehind := p.reaches_behind_tag id hopened hfosters hskips rest
  rw [Picture.text]
  simp only [List.append_assoc]
  exact hopen.trans hbehind

/-! The elements that are made -/

theorem Graphics.growsTo (g : Graphics) {t : Tree} (ht : t.ParentsExist) {p : Nat} {f : Element}
    (hp : t.elements[p]? = some f) :
    t.GrowsTo (g.growIn p t) (g.elements (f.value? "transform")) := by
  induction g generalizing t p f with
  | nil => exact .refl ht
  | element tag attributes inner rest ihInner ihRest =>
      have hfirst := Tree.growsTo_grow ht hp ⟨.svg, tag.name, attributes.list⟩
      have hmade : (t.grow ⟨.svg, tag.name, attributes.list⟩ p).elements[t.elements.size]? =
          some ⟨.svg, tag.name, attributes.list⟩ := by
        rw [Tree.elements_grow, Array.getElem?_push_size]
      have hinner := ihInner hfirst.parentsExist hmade
      have hrest := ihRest hinner.parentsExist (hinner.keeps p f (hfirst.keeps p f hp))
      exact (hfirst.trans hinner).trans hrest

theorem Picture.growsTo (picture : Picture) {t : Tree} (ht : t.ParentsExist) {p : Nat}
    {f : Element} (hp : t.elements[p]? = some f) (hf : f.value? "transform" = none) :
    t.GrowsTo (picture.growIn p t) picture.elements := by
  have hsvg := Tree.growsTo_grow ht hp ⟨.svg, "svg", picture.attributes.list⟩
  have hmade : (t.grow ⟨.svg, "svg", picture.attributes.list⟩ p).elements[t.elements.size]? =
      some ⟨.svg, "svg", picture.attributes.list⟩ := by
    rw [Tree.elements_grow, Array.getElem?_push_size]
  have hcontent := picture.content.growsTo hsvg.parentsExist hmade
  rw [hf] at hsvg
  exact hsvg.trans hcontent

end ShapeCoords
