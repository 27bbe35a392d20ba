import ShapeCoords.Proofs.Drawing.Article
import ShapeCoords.Proofs.Drawing.Forest

/-!
Extraction from a page of drawings: one record for each shape, computed from its own attributes and
the transform of the element directly around it.
-/

namespace ShapeCoords

open Markup

/-- The elements of a forest in preorder, each with the transform of the element around it. -/
def Forest.elements (parent : Option String) : Forest → List (Element × Option String)
  | .nil => []
  | .leaf l rest => (l.element, parent) :: rest.elements parent
  | .group transform inner rest =>
    (groupElement "g" transform, parent) :: inner.elements (transform.map Subtype.val) ++
      rest.elements parent

theorem attributeValue?_transform (transform : Option PlainValue) :
    attributeValue? (transformAttributes transform) "transform" = transform.map Subtype.val := by
  cases transform <;> rfl

theorem Forest.elements_graphics (f : Forest) (parent : Option String) :
    f.graphics.elements parent = f.elements parent := by
  induction f generalizing parent with
  | nil => rfl
  | leaf l rest ih =>
      rw [graphics, Graphics.elements, ih, l.tag.name_pictureTag]
      rfl
  | group transform inner rest ihInner ihRest =>
      rw [graphics, Graphics.elements, ihInner, ihRest, transformOnly, attributeValue?_transform]
      rfl

/-- The elements of a drawing that stands in an element without a transform. -/
def Drawing.elements (d : Drawing) : List (Element × Option String) :=
  (groupElement "svg" d.transform, none) ::
    d.content.elements (d.transform.map Subtype.val)

theorem Drawing.elements_picture (d : Drawing) : d.picture.elements = d.elements := by
  rw [Picture.elements, picture, transformOnly, attributeValue?_transform,
    d.content.elements_graphics]
  rfl

/-! Pages -/

def pageText (ds : List Drawing) : String :=
  String.ofList (pageStart ++ (ds.flatMap Drawing.text ++ pageEnd))

def pageTree (ds : List Drawing) : Tree :=
  ds.foldl (fun t d => d.growIn 3 t) inPageBody.tree

/-- A page of drawings is an article of their pictures. -/
def pageItems (ds : List Drawing) : List (Item Picture) :=
  ds.map fun d => .figure d.picture

theorem articleText_pageItems (ds : List Drawing) :
    articleText Picture.text (pageItems ds) = (pageText ds).toList := by
  rw [articleText, pageItems, pageText, String.toList_ofList, List.flatMap_map]
  simp only [Item.text, Drawing.text_picture]

theorem articleTree_pageItems (ds : List Drawing) : articleTree (pageItems ds) = pageTree ds := by
  rw [articleTree, pageItems, pageTree, List.foldl_map]
  simp only [Item.growIn, Drawing.growIn_picture]

theorem elements_pageItems (ds : List Drawing) :
    (pageItems ds).flatMap Item.elements = ds.flatMap Drawing.elements := by
  rw [pageItems, List.flatMap_map]
  simp only [Item.elements, Drawing.elements_picture]

/-- A page of drawings is read without a fault. -/
theorem parse_pageText (ds : List Drawing) :
    Markup.parse (pageText ds).toList = (pageTree ds, []) := by
  rw [← articleText_pageItems, parse_articleText, articleTree_pageItems]

theorem seen_pageTree (ds : List Drawing) :
    (pageTree ds).seen =
      [(⟨.html, "html", []⟩, none), (⟨.html, "head", []⟩, none), (⟨.html, "title", []⟩, none),
        (⟨.html, "body", []⟩, none)] ++ ds.flatMap Drawing.elements := by
  rw [← articleTree_pageItems, ← elements_pageItems]
  exact (growsTo_items (pageItems ds) parentsExist_inPageBody rfl rfl).seen

/-! Records -/

/-- The number in an attribute of a shape. A blank text counts as absent if malformed shapes are
skipped. -/
def Leaf.number (o : Options) (l : Leaf) (name : String) : Option Float :=
  (attributeValue? l.attributes name).bind fun value =>
    if o.malformed = .skip ∧ Text.allBlank value.toList then none else Number.parse value.toList

def Leaf.shape (o : Options) (l : Leaf) : Shape :=
  match l.tag with
  | .circle =>
    .circle ⟨l.number o "rx", l.number o "ry", l.number o "cx", l.number o "cy", l.number o "r"⟩
  | .rect =>
    .rect ⟨l.number o "x", l.number o "y", l.number o "width", l.number o "height"⟩

/-- The shapes of a forest in preorder, each with the transform of the element around it. -/
def Forest.primitives (o : Options) (parent : Option String) : Forest → List Primitive
  | .nil => []
  | .leaf l rest => ⟨l.shape o, parent⟩ :: rest.primitives o parent
  | .group transform inner rest =>
    inner.primitives o (transform.map Subtype.val) ++ rest.primitives o parent

def Drawing.primitives (o : Options) (d : Drawing) : List Primitive :=
  d.content.primitives o (d.transform.map Subtype.val)

def pageDocument (o : Options) (ds : List Drawing) : Document :=
  ⟨pageTree ds, [], o.malformed == .skip⟩

theorem parse_page (o : Options) (ds : List Drawing) :
    Document.parse o (pageText ds) = .ok (pageDocument o ds) := by
  rw [Document.parse, parse_pageText]
  simp [pageDocument]

/-- A document that treats blank values as some options ask for. -/
def Document.Suits (o : Options) (d : Document) : Prop :=
  d.blankIsMissing = (o.malformed == .skip)

theorem number_element {o : Options} {d : Document} (hd : d.Suits o) (l : Leaf) (name : String) :
    d.number l.element name = l.number o name := by
  rw [Document.Suits] at hd
  simp [Document.number, Leaf.number, Leaf.element, Element.value?, hd]

theorem among_leaf {o : Options} {d : Document} (hd : d.Suits o) (l : Leaf)
    (parent : Option String) (k : ShapeKind) :
    k.among d [(l.element, parent)] = [⟨l.shape o, parent⟩].filter k.has := by
  cases htag : l.tag with
  | circle =>
      have hname : l.element.name = "circle" := by simp [Leaf.element, htag, ShapeTag.name]
      cases k <;> simp [ShapeKind.among, ShapeKind.tag, ShapeKind.shape, ShapeKind.has, hname,
        Leaf.shape, htag, Primitive.isCircle, Primitive.isRect, Document.circle, number_element hd,
        List.filter_cons]
  | rect =>
      have hname : l.element.name = "rect" := by simp [Leaf.element, htag, ShapeTag.name]
      cases k <;> simp [ShapeKind.among, ShapeKind.tag, ShapeKind.shape, ShapeKind.has, hname,
        Leaf.shape, htag, Primitive.isCircle, Primitive.isRect, Document.rect, number_element hd]

theorem Forest.among_elements {o : Options} {d : Document} (hd : d.Suits o) (f : Forest)
    (parent : Option String) (k : ShapeKind) :
    k.among d (f.elements parent) = (f.primitives o parent).filter k.has := by
  induction f generalizing parent with
  | nil => rfl
  | leaf l rest ih =>
      rw [Forest.elements, Forest.primitives, ← List.singleton_append, k.among_append, ih parent,
        among_leaf hd, ← List.filter_append]
      rfl
  | group transform inner rest ihInner ihRest =>
      have hgroup : k.among d [(groupElement "g" transform, parent)] = [] := by
        cases k <;> rfl
      rw [Forest.elements, Forest.primitives, ← List.singleton_append, List.append_assoc,
        k.among_append, k.among_append, hgroup, ihInner, ihRest, List.filter_append,
        List.nil_append]

theorem among_elements {o : Options} {d : Document} (hd : d.Suits o) (ds : List Drawing)
    (k : ShapeKind) :
    k.among d (ds.flatMap Drawing.elements) =
      (ds.flatMap (Drawing.primitives o)).filter k.has := by
  induction ds with
  | nil => rfl
  | cons drawing ds ih =>
      have hdrawing : k.among d [(groupElement "svg" drawing.transform, none)] = [] := by
        cases k <;> rfl
      rw [List.flatMap_cons, List.flatMap_cons, k.among_append, ih, List.filter_append,
        Drawing.elements, ← List.singleton_append, k.among_append, hdrawing,
        drawing.content.among_elements hd, List.nil_append, Drawing.primitives]

theorem primitives_page (o : Options) (ds : List Drawing) :
    (pageDocument o ds).primitives = circlesFirst (ds.flatMap (Drawing.primitives o)) := by
  have hsuits : (pageDocument o ds).Suits o := rfl
  have hseen : (pageDocument o ds).tree.seen = _ := seen_pageTree ds
  have hshapes (k : ShapeKind) : k.shapes (pageDocument o ds) =
      (ds.flatMap (Drawing.primitives o)).filter k.has := by
    rw [k.shapes_eq_among, hseen, k.among_append, among_elements hsuits]
    cases k <;> rfl
  exact congrArg₂ (· ++ ·) (hshapes .circle) (hshapes .rectangle)

/-- From a page of drawings come the records of all circles and then those of all rectangles, each
in preorder. No option makes the page fail. -/
theorem extractCoordinates_pageText (o : Options) (ds : List Drawing) :
    extractCoordinates o (pageText ds) =
      .ok ⟨((ds.flatMap (Drawing.primitives o)).filter Primitive.isCircle ++
        (ds.flatMap (Drawing.primitives o)).filter Primitive.isRect).filterMap
          fun p => (record o p).toOption⟩ := by
  have hextract : extract o (pageDocument o ds).primitives =
      ⟨(circlesFirst (ds.flatMap (Drawing.primitives o))).filterMap
        fun p => (record o p).toOption⟩ := by
    rw [extract, primitives_page, circlesFirst_circlesFirst]
  rw [extractCoordinates, extractMarkup, parse_page]
  exact congrArg Except.ok hextract

/-- A circle in a group, and a rectangle around which there is no transform. -/
example :
    pageText [⟨none, .group (some ⟨"translate(1,2)", by decide⟩)
      (.leaf ⟨.circle, [⟨"r", "5"⟩], by decide, by decide, by decide⟩ .nil)
      (.leaf ⟨.rect, [], by decide, by decide, by decide⟩ .nil)⟩] =
    "<!DOCTYPE html><html><head><title>t</title></head><body><svg>" ++
      "<g transform=\"translate(1,2)\"><circle r=\"5\"></circle></g><rect></rect>" ++
      "</svg></body></html>" := by
  decide +kernel

end ShapeCoords
