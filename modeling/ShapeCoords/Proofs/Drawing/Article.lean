import ShapeCoords.Proofs.Drawing.Picture
import ShapeCoords.Proofs.Extraction.Grouping
import ShapeCoords.Proofs.Markup.Paragraphs

/-!
Articles: pages of paragraphs with figures between them. An article of pictures has the shapes of
its pictures, and each picture alone has the shapes that it has in the article.
-/

namespace ShapeCoords

open Markup

/-! Pages -/

def pageStart : List Char :=
  "<!DOCTYPE html><html><head><title>t</title></head><body>".toList

def pageEnd : List Char :=
  "</body></html>".toList

def inPageBody : Builder where
  tree :=
    ⟨#[⟨.html, "html", []⟩, ⟨.html, "head", []⟩, ⟨.html, "title", []⟩, ⟨.html, "body", []⟩],
      [⟨3, .element 0⟩, ⟨2, .element 1⟩, ⟨1, .element 0⟩, ⟨0, .document⟩]⟩
  mode := .inBody
  modeBehindText := .inHead
  opened := [⟨3, ⟨.html, "body"⟩⟩, ⟨0, ⟨.html, "html"⟩⟩]
  head := some ⟨1, ⟨.html, "head"⟩⟩
  framesetAllowed := false

theorem reaches_pageStart (rest : List Char) :
    Reaches (pageStart ++ rest) {} rest inPageBody := by
  refine ⟨7, ?_, fun n => ?_⟩
  · have hlength : pageStart.length = 56 := by decide
    rw [List.length_append, hlength]
    omega
  · with_unfolding_all rfl

theorem reaches_pageEnd (t : Tree) :
    Reaches pageEnd { inPageBody with tree := t } []
      { inPageBody with tree := t, mode := .afterAfterBody } :=
  ⟨2, by decide, fun n => by with_unfolding_all rfl⟩

theorem parentsExist_inPageBody : inPageBody.tree.ParentsExist := by
  refine Tree.parentsExist_of_links fun l hl => ?_
  simp only [inPageBody, List.mem_cons, List.not_mem_nil, or_false] at hl
  rcases hl with rfl | rfl | rfl | rfl <;> rintro p ⟨⟩ <;> decide

/-! Articles -/

abbrev PlainText := { s : List Char // IsPlainText s }

/-- A paragraph, or a figure of some kind. -/
inductive Item (α : Type) where
  | paragraph (text : PlainText)
  | figure (a : α)

def Item.figure? {α : Type} : Item α → Option α
  | .paragraph _ => none
  | .figure a => some a

def Item.text {α : Type} (figureText : α → List Char) : Item α → List Char
  | .paragraph s => paragraphText s.val
  | .figure a => figureText a

def figures {α : Type} (items : List (Item α)) : List α :=
  items.filterMap Item.figure?

/-- A page with paragraphs and figures in its body. -/
def articleText {α : Type} (figureText : α → List Char) (items : List (Item α)) : List Char :=
  pageStart ++ (items.flatMap (Item.text figureText) ++ pageEnd)

def paragraphElement : Element :=
  ⟨.html, "p", []⟩

def Item.growIn (parent : Nat) (t : Tree) : Item Picture → Tree
  | .paragraph _ => t.grow paragraphElement parent
  | .figure p => p.growIn parent t

def Item.elements : Item Picture → List (Element × Option String)
  | .paragraph _ => [(paragraphElement, none)]
  | .figure p => p.elements

/-! Reading an article -/

def inParagraph (t : Tree) : Builder :=
  { inPageBody with
    tree := t.grow paragraphElement 3
    opened := ⟨t.elements.size, ⟨.html, "p"⟩⟩ :: inPageBody.opened }

theorem reaches_paragraph (s : PlainText) (t : Tree) (rest : List Char) :
    Reaches (paragraphText s.val ++ rest) { inPageBody with tree := t } rest
      { inPageBody with tree := t.grow paragraphElement 3 } := by
  have hp : IsPlainName "p" := by decide
  have hopen : Reaches (openTagText "p" [] ++ (s.val ++ (endTagText "p" ++ rest)))
      { inPageBody with tree := t } (s.val ++ (endTagText "p" ++ rest)) (inParagraph t) :=
    .token (by simp [openTagText]) (next_openTag hp (by simp) (by simp) _ _)
      (takeToken_tag rfl rfl rfl)
  have hinside : (inParagraph t).TakesText ⟨t.elements.size, ⟨.html, "p"⟩⟩ inPageBody.opened :=
    ⟨rfl, rfl, rfl, rfl, rfl, rfl⟩
  have htext : Reaches (s.val ++ (endTagText "p" ++ rest)) (inParagraph t) _ _ :=
    reaches_plainText hinside s.property (Text.EndsRun.cons rfl _)
  have hend : Reaches (endTagText "p" ++ rest) (inParagraph t) rest
      { inPageBody with tree := t.grow paragraphElement 3 } :=
    .token (by simp [endTagText]) (next_endTag hp _ rest) (takeToken_tag rfl rfl rfl)
  rw [paragraphText]
  simp only [List.append_assoc]
  exact hopen.trans (htext.trans hend)

theorem reaches_items (items : List (Item Picture)) (t : Tree) (rest : List Char) :
    Reaches (items.flatMap (Item.text Picture.text) ++ rest) { inPageBody with tree := t } rest
      { inPageBody with tree := items.foldl (Item.growIn 3) t } := by
  induction items generalizing t with
  | nil => exact .refl rest _
  | cons item items ih =>
      rw [List.flatMap_cons, List.append_assoc, List.foldl_cons]
      have hmore := ih (item.growIn 3 t)
      cases item with
      | paragraph s => exact (reaches_paragraph s t _).trans hmore
      | figure p =>
          have hfirst := p.reaches (b := { inPageBody with tree := t }) rfl rfl rfl rfl
            (items.flatMap (Item.text Picture.text) ++ rest)
          exact hfirst.trans hmore

def articleTree (items : List (Item Picture)) : Tree :=
  items.foldl (Item.growIn 3) inPageBody.tree

/-- An article of pictures is read without a fault. -/
theorem parse_articleText (items : List (Item Picture)) :
    Markup.parse (articleText Picture.text items) = (articleTree items, []) := by
  have hstart := reaches_pageStart (items.flatMap (Item.text Picture.text) ++ pageEnd)
  have hbody := reaches_items items inPageBody.tree pageEnd
  have hend := reaches_pageEnd (articleTree items)
  have hmark : dropOrderMark (articleText Picture.text items) =
      articleText Picture.text items := rfl
  rw [Markup.parse, hmark, articleText, (hstart.trans (hbody.trans hend)).build_eq]
  rfl

theorem growsTo_items (items : List (Item Picture)) {t : Tree} (ht : t.ParentsExist) {p : Nat}
    {f : Element} (hp : t.elements[p]? = some f) (hf : f.value? "transform" = none) :
    t.GrowsTo (items.foldl (Item.growIn p) t) (items.flatMap Item.elements) := by
  induction items generalizing t with
  | nil => exact .refl ht
  | cons item items ih =>
      have hfirst : t.GrowsTo (item.growIn p t) item.elements := by
        cases item with
        | paragraph s =>
            have hgrow := Tree.growsTo_grow ht hp paragraphElement
            rwa [hf] at hgrow
        | figure picture => exact picture.growsTo ht hp hf
      have hmore := ih hfirst.parentsExist (hfirst.keeps p f hp)
      rw [List.flatMap_cons]
      exact hfirst.trans hmore

/-! A picture alone -/

/-- The body for which there is no tag. -/
def inBareBody : Builder where
  tree :=
    ⟨#[⟨.html, "html", []⟩, ⟨.html, "head", []⟩, ⟨.html, "body", []⟩],
      [⟨2, .element 0⟩, ⟨1, .element 0⟩, ⟨0, .document⟩]⟩
  mode := .inBody
  opened := [⟨2, ⟨.html, "body"⟩⟩, ⟨0, ⟨.html, "html"⟩⟩]
  head := some ⟨1, ⟨.html, "head"⟩⟩
  followsOldRules := true
  faults := [.unexpectedToken]

theorem parentsExist_inBareBody : inBareBody.tree.ParentsExist := by
  refine Tree.parentsExist_of_links fun l hl => ?_
  simp only [inBareBody, List.mem_cons, List.not_mem_nil, or_false] at hl
  rcases hl with rfl | rfl | rfl <;> rintro p ⟨⟩ <;> decide

/-- An `svg` tag at the start of a text implies all that should stand in front of it. -/
theorem takeToken_svgTag_alone (attributes : List Attribute) :
    ({} : Builder).takeToken (.tag ⟨.opening, "svg", attributes, false⟩) =
      (inBareBody.descend "svg" attributes 2, none) := by
  with_unfolding_all rfl

theorem Picture.reaches_alone (p : Picture) :
    Reaches p.text {} [] { inBareBody with tree := p.growIn 2 inBareBody.tree } := by
  have hnext := next_openTag (by decide : IsPlainName "svg") p.attributes.plain
    p.attributes.distinct ({} : Builder).isForeign (p.content.text ++ endTagText "svg")
  have hopen : Reaches _ {} _ _ := .token (by simp [openTagText]) hnext
    (takeToken_svgTag_alone p.attributes.list)
  have hbehind := p.reaches_behind_tag 2 (b := inBareBody) rfl rfl rfl []
  rw [List.append_nil] at hbehind
  rw [Picture.text, List.append_assoc]
  exact hopen.trans hbehind

theorem parse_picture (p : Picture) :
    (Markup.parse p.text).1 = p.growIn 2 inBareBody.tree := by
  have hmark : dropOrderMark p.text = p.text := rfl
  rw [Markup.parse, hmark, p.reaches_alone.build_eq]
  rfl

/-! Shapes -/

theorem figures_cons {α : Type} (item : Item α) (items : List (Item α)) :
    figures (item :: items) = item.figure?.toList ++ figures items := by
  cases item <;> rfl

/-- Paragraphs are no shapes. -/
theorem among_items (k : ShapeKind) (d : Document) (items : List (Item Picture)) :
    k.among d (items.flatMap Item.elements) =
      (figures items).flatMap fun p => k.among d p.elements := by
  induction items with
  | nil => rfl
  | cons item items ih =>
      rw [List.flatMap_cons, figures_cons, List.flatMap_append, k.among_append, ih]
      cases item with
      | paragraph s => cases k <;> rfl
      | figure p => simp [Item.figure?, Item.elements]

def picturePage (items : List (Item Picture)) : String :=
  String.ofList (articleText Picture.text items)

def articleDocument (o : Options) (items : List (Item Picture)) : Document :=
  ⟨articleTree items, [], o.malformed == .skip⟩

/-- No option makes an article of pictures fail. -/
theorem parse_article (o : Options) (items : List (Item Picture)) :
    Document.parse o (picturePage items) = .ok (articleDocument o items) := by
  rw [Document.parse, picturePage, String.toList_ofList, parse_articleText]
  simp [articleDocument]

/-- The options that take markup with errors too. -/
def Options.lenient (o : Options) : Options :=
  { o with strictMarkup := false }

def Picture.document (o : Options) (p : Picture) : Document :=
  ⟨p.growIn 2 inBareBody.tree, (Markup.parse p.text).2, o.malformed == .skip⟩

/-- A picture alone lacks what should stand around it, which strict options refuse. -/
theorem Picture.parse_alone (o : Options) (p : Picture) :
    Document.parse o.lenient p.svg = .ok (p.document o) := by
  rw [Document.parse, Picture.svg, String.toList_ofList, Picture.document, ← parse_picture]
  rfl

theorem shapes_article (k : ShapeKind) (o : Options) (items : List (Item Picture)) :
    k.shapes (articleDocument o items) =
      (figures items).flatMap fun p => k.shapes (p.document o) := by
  have hseen : (articleDocument o items).tree.seen = _ :=
    (growsTo_items items parentsExist_inPageBody rfl rfl).seen
  have halone (p : Picture) : (p.document o).tree.seen = _ :=
    (p.growsTo (f := ⟨.html, "body", []⟩) parentsExist_inBareBody rfl rfl).seen
  simp only [k.shapes_eq_among, hseen, halone, k.among_append, among_items]
  cases k <;> rfl

/-- The records of an article are those of the circles of each picture in turn, and then those of
the rectangles. -/
theorem extractCoordinates_article (o : Options) (items : List (Item Picture)) :
    ∃ cs : List Collection,
      (figures items).map (fun p => extractCoordinates o.lenient p.svg) = cs.map .ok ∧
      extractCoordinates o (picturePage items) =
        .ok ⟨(cs.flatMap fun c => c.circles.map .circle) ++
          cs.flatMap fun c => c.rectangles.map .rectangle⟩ := by
  let alone (p : Picture) : Collection := extract o (p.document o).primitives
  have halone (p : Picture) :
      extractCoordinates o.lenient p.svg = .ok (alone p) :=
    extractCoordinates_of_parse (p.parse_alone o)
  have hgroup (k : ShapeKind) :
      recordsOf o (k.shapes (articleDocument o items)) =
        ((figures items).map alone).flatMap fun c => (k.group c).map k.wrap := by
    rw [shapes_article, recordsOf_flatMap, List.flatMap_map]
    simp only [alone, Document.group_extract]
  refine ⟨(figures items).map alone, ?_, ?_⟩
  · rw [List.map_map]
    exact List.map_congr_left fun p _ => halone p
  · rw [extractCoordinates_of_parse (parse_article o items), Document.extract_eq]
    exact congrArg (fun rs => Except.ok (Collection.mk rs))
      (congrArg₂ (· ++ ·) (hgroup .circle) (hgroup .rectangle))

end ShapeCoords
