import ShapeCoords.Proofs.Page.Blockless
import ShapeCoords.Proofs.Page.Calls

/-!
Rendering articles: each block of an article gives place to its picture, and what comes of it is an
article of pictures, in which there is no block. Extracting from it gives what the pictures give.
-/

namespace ShapeCoords.Page

open Markup (paragraphText)

/-- The article in which each block gives place to its picture, the first one under an index. -/
def drawItems (draw : String → String → Picture) : Nat → List (Item Block) → List (Item Picture)
  | _, [] => []
  | i, .paragraph s :: items => .paragraph s :: drawItems draw i items
  | i, .figure b :: items =>
    .figure (draw b.source (diagramId i)) :: drawItems draw (i + 1) items

def blockPage (items : List (Item Block)) : String :=
  String.ofList (articleText Block.text items)

/-- The pictures are those for the calls that the blocks make. -/
theorem figures_drawItems (draw : String → String → Picture) (i : Nat) (items : List (Item Block)) :
    figures (drawItems draw i items) =
      (callsFrom i ((figures items).map Block.source)).map fun c => draw c.source c.id := by
  induction items generalizing i with
  | nil => rfl
  | cons item items ih =>
      cases item with
      | paragraph s => exact ih i
      | figure b => exact congrArg (draw b.source (diagramId i) :: ·) (ih (i + 1))

/-! The visits of an article -/

theorem onlyCutRefused_of_unrefused {ps : List Part} (h : ∀ p ∈ ps, p.isRefused = false) :
    OnlyCutRefused ps := by
  intro p hp hrefused
  rw [h p hp] at hrefused
  cases hrefused

theorem rawText_parts {text : List Char} (h : ∀ p ∈ parts text, p.isRefused = false) :
    rawText (parts text) = text := by
  refine flatMap_raw_partsFrom (Nat.le_refl _) fun p hp hrefused => ?_
  obtain ⟨raw, name, hpiece⟩ := onlyCutRefused_of_unrefused h p hp hrefused
  exact ⟨raw, some name, hpiece⟩

/-- What visiting some parts outside of all blocks comes to: the texts that are collected, and what
is left with pictures in the place of blocks. -/
structure Yields (ps : List Part) (texts : List (List Char)) (pictures : List Picture)
    (left : List Char) : Prop where
  unrefused : ∀ p ∈ ps, p.isRefused = false
  noBlocks : ∀ opened, NoBlocks opened → NoBlocks (openedBehind opened ps)
  collects : ∀ opened, NoBlocks opened → ∀ before,
    collectTexts before (visitsFrom opened ps) = .ok (texts.reverse ++ before)
  count : ∀ opened, NoBlocks opened → blockCount (visitsFrom opened ps) = pictures.length
  fills : ∀ opened, NoBlocks opened → ∀ more,
    fill (pictures.map Picture.svg ++ more) (visitsFrom opened ps) = left

namespace Yields

variable {ps qs : List Part} {texts texts' : List (List Char)} {pictures pictures' : List Picture}
  {left left' : List Char}

theorem append (h : Yields ps texts pictures left) (h' : Yields qs texts' pictures' left') :
    Yields (ps ++ qs) (texts ++ texts') (pictures ++ pictures') (left ++ left') where
  unrefused := List.forall_mem_append.2 ⟨h.unrefused, h'.unrefused⟩
  noBlocks opened hopened := by
    rw [openedBehind_append]
    exact h'.noBlocks _ (h.noBlocks opened hopened)
  collects opened hopened before := by
    rw [visitsFrom_append, collectTexts_append (h.collects opened hopened before),
      h'.collects _ (h.noBlocks opened hopened), List.reverse_append, List.append_assoc]
  count opened hopened := by
    rw [visitsFrom_append, blockCount_append, h.count opened hopened,
      h'.count _ (h.noBlocks opened hopened), List.length_append]
  fills opened hopened more := by
    have hfirst := h.fills opened hopened (pictures'.map Picture.svg ++ more)
    have hrest := h'.fills _ (h.noBlocks opened hopened) more
    rw [visitsFrom_append, fill_append, h.count opened hopened, List.map_append,
      List.append_assoc, hfirst, List.drop_left' (by rw [List.length_map]), hrest]

theorem nil : Yields [] [] [] [] where
  unrefused := by simp
  noBlocks _ hopened := hopened
  collects _ _ _ := rfl
  count _ _ := rfl
  fills _ _ _ := rfl

end Yields

theorem CutsPlainly.yields {text : List Char} {c : Context} (h : CutsPlainly text {} c) :
    Yields (parts text) [] [] text := by
  have hunrefused : ∀ p ∈ parts text, p.isRefused = false := fun p hp => (h.isPlain p hp).1
  have houtside {opened : List OpenElement} (hopened : NoBlocks opened) :=
    fill_outside hopened (fun p hp => (h.isPlain p hp).2) (onlyCutRefused_of_unrefused hunrefused)
  exact {
    unrefused := hunrefused
    noBlocks := fun opened hopened => (houtside hopened []).2.2
    collects := fun opened hopened before => collectTexts_outside hopened h.isPlain before
    count := fun opened hopened => (houtside hopened []).2.1
    fills := fun opened hopened more => by
      rw [(houtside hopened _).1, rawText_parts hunrefused] }

theorem Block.yields (b : Block) (p : Picture) :
    Yields (parts b.text) [b.ownText] [p] p.text := by
  have hblock {opened : List OpenElement} (hopened : NoBlocks opened) :=
    fill_block (b.isBlock opened) hopened
  exact {
    unrefused := b.unrefused
    noBlocks := fun opened hopened => by
      rw [b.cut, (hblock hopened []).2.2]
      exact hopened
    collects := fun opened hopened before => b.collectTexts_eq hopened before
    count := fun opened hopened => by
      rw [b.cut, (hblock hopened []).2.1]
      rfl
    fills := fun opened hopened more => by
      rw [b.cut, (hblock hopened _).1, List.map_singleton, List.singleton_append, List.headD_cons,
        Picture.svg, String.toList_ofList] }

def itemsParts (items : List (Item Block)) : List Part :=
  items.flatMap fun item => parts (item.text Block.text)

theorem yields_items (draw : String → String → Picture) (i : Nat) (items : List (Item Block)) :
    Yields (itemsParts items) ((figures items).map Block.ownText)
      (figures (drawItems draw i items))
      ((drawItems draw i items).flatMap (Item.text Picture.text)) := by
  induction items generalizing i with
  | nil => exact .nil
  | cons item items ih =>
      cases item with
      | paragraph s => exact (cutsPlainly_paragraph s).yields.append (ih i)
      | figure b => exact (b.yields (draw b.source (diagramId i))).append (ih (i + 1))

/-! Whole articles -/

theorem parts_article (items : List (Item Block)) :
    parts (articleText Block.text items) =
      parts pageStart ++ (itemsParts items ++ parts pageEnd) := by
  have hitem (item : Item Block) :
      CutsInto (item.text Block.text) {} (parts (item.text Block.text)) {} := by
    cases item with
    | paragraph s => exact (cutsPlainly_paragraph s).cutsInto
    | figure b => exact b.cutsInto
  have hitems := (CutsInto.flatMap hitem items).append cutsPlainly_pageEnd.cutsInto
  exact (cutsPlainly_pageStart.cutsInto.append hitems).parts_eq

theorem yields_article (draw : String → String → Picture) (items : List (Item Block)) :
    Yields (parts (articleText Block.text items)) ((figures items).map Block.ownText)
      (figures (drawItems draw 0 items)) (articleText Picture.text (drawItems draw 0 items)) := by
  have hitems := (yields_items draw 0 items).append cutsPlainly_pageEnd.yields
  have hall := cutsPlainly_pageStart.yields.append hitems
  rw [List.append_nil, List.append_nil] at hall
  rw [parts_article]
  exact hall

theorem collectSources_article (items : List (Item Block)) :
    collectSources (blockPage items) = .ok ((figures items).map Block.source) := by
  have hcollects := (yields_article (fun _ _ => ⟨{}, .nil⟩) items).collects [] rfl []
  rw [collectSources, blockPage, String.toList_ofList, visits, hcollects, List.append_nil]
  dsimp only
  rw [List.reverse_reverse, List.map_map]
  rfl

/-- An article without blocks stays as it is. -/
theorem drawItems_of_no_figures (draw : String → String → Picture) (i : Nat)
    {items : List (Item Block)} (h : figures items = []) :
    (drawItems draw i items).flatMap (Item.text Picture.text) =
      items.flatMap (Item.text Block.text) := by
  induction items with
  | nil => rfl
  | cons item items ih =>
      cases item with
      | paragraph s => exact congrArg (paragraphText s.val ++ ·) (ih h)
      | figure b => cases h

theorem render_article {r : Renderer} {draw : String → String → Picture}
    (hr : ∀ source id, r.draw source id = .ok (draw source id).svg) (items : List (Item Block)) :
    (render r (blockPage items)).result =
        .ok (picturePage (drawItems draw 0 items)) ∧
      (render r (blockPage items)).calls =
        callsFor ((figures items).map Block.source) := by
  have hcollect := collectSources_article items
  by_cases hnone : figures items = []
  · rw [hnone] at hcollect ⊢
    rw [picturePage, articleText, drawItems_of_no_figures draw 0 hnone]
    exact render_of_nil hcollect r
  · have hyields := yields_article draw items
    have hall : DrawsAll r (callsFor ((figures items).map Block.source))
        ((figures (drawItems draw 0 items)).map Picture.svg) := by
      rw [DrawsAll, figures_drawItems, List.map_map, List.map_map]
      exact List.map_congr_left fun c _ => hr c.source c.id
    obtain ⟨hresult, hcalls⟩ := render_of_drawsAll hcollect (by simpa using hnone) hall
    have hunrefused : ∀ v ∈ visits (blockPage items).toList, v.refused? = none := by
      intro v hv
      rw [blockPage, String.toList_ofList] at hv
      have hpart : v.part ∈ parts (articleText Block.text items) := by
        rw [← map_part_visitsFrom [] (parts _)]
        exact List.mem_map_of_mem hv
      exact refused?_of_unrefused (hyields.unrefused v.part hpart)
    have hfill := hyields.fills [] rfl []
    rw [List.append_nil] at hfill
    refine ⟨?_, hcalls⟩
    rw [hresult, inline_of_unrefused hunrefused, blockPage, String.toList_ofList, visits,
      hyields.count [] rfl, List.length_map, if_neg (Nat.lt_irrefl _), if_pos rfl, hfill,
      picturePage]

/-- There is no block in an article of pictures. -/
theorem collectSources_pictures (items : List (Item Picture)) :
    collectSources (picturePage items) = .ok [] := by
  have hitem (item : Item Picture) : CutsPlainly (item.text Picture.text) {} {} := by
    cases item with
    | paragraph s => exact cutsPlainly_paragraph s
    | figure p => exact cutsPlainly_picture p
  have hitems := (CutsPlainly.flatMap hitem items).append cutsPlainly_pageEnd
  have hcollects := (cutsPlainly_pageStart.append hitems).yields.collects [] rfl []
  rw [collectSources, picturePage, String.toList_ofList, visits, articleText, hcollects]
  rfl

/-- Rendering an article with pictures for its blocks leaves no block in it, and extracting from
what comes of it gives the circles of each picture in turn, and then the rectangles. -/
theorem extractCoordinates_render {r : Renderer} {draw : String → String → Picture}
    (hr : ∀ source id, r.draw source id = .ok (draw source id).svg) (items : List (Item Block))
    (o : Options) :
    ∃ (rendered : String) (cs : List Collection),
      rendered = picturePage (drawItems draw 0 items) ∧
      (render r (blockPage items)).result = .ok rendered ∧
      (render r (blockPage items)).calls = callsFor ((figures items).map Block.source) ∧
      collectSources rendered = .ok [] ∧
      (∀ q : Renderer, (render q rendered).result = .ok rendered ∧
        (render q rendered).calls = []) ∧
      (callsFor ((figures items).map Block.source)).map
          (fun c => extractCoordinates o.lenient (draw c.source c.id).svg) =
        cs.map .ok ∧
      extractCoordinates o rendered =
        .ok ⟨(cs.flatMap fun c => c.circles.map .circle) ++
          cs.flatMap fun c => c.rectangles.map .rectangle⟩ := by
  obtain ⟨hresult, hcalls⟩ := render_article hr items
  have hnone := collectSources_pictures (drawItems draw 0 items)
  obtain ⟨cs, halone, hall⟩ := extractCoordinates_article o (drawItems draw 0 items)
  rw [figures_drawItems, List.map_map] at halone
  exact ⟨_, cs, rfl, hresult, hcalls, hnone, render_of_nil hnone, halone, hall⟩

/-- A rectangle and a circle behind it, in a group that moves both. -/
def movedPicture (transform : PlainAttributes) : Picture where
  content := .element .group transform
    (.element .rect ⟨[⟨"x", "0"⟩, ⟨"y", "0"⟩, ⟨"width", "4"⟩, ⟨"height", "3"⟩], by decide, by decide⟩
      .nil
      (.element .circle ⟨[⟨"rx", "0"⟩, ⟨"ry", "0"⟩, ⟨"r", "2"⟩], by decide, by decide⟩ .nil .nil))
    .nil

/-- The source of a block decides how far its shapes are moved. -/
def drawMoved (source _id : String) : Picture :=
  if source = "a" then movedPicture ⟨[⟨"transform", "translate(10, 20)"⟩], by decide, by decide⟩
  else movedPicture ⟨[⟨"transform", "translate(30, 40)"⟩], by decide, by decide⟩

def twoBlocks : List (Item Block) :=
  [.figure (.written .pre ['a'] (by decide)), .paragraph ⟨['t'], by decide⟩,
    .figure (.written .code ['b'] (by decide))]

/-- What comes of two blocks with a rectangle in front of a circle each: all circles come first. -/
theorem extractCoordinates_render_two :
    ∃ rendered,
      rendered = "<!DOCTYPE html><html><head><title>t</title></head><body>" ++
        "<svg><g transform=\"translate(10, 20)\"><rect x=\"0\" y=\"0\" width=\"4\" height=\"3\">" ++
        "</rect><circle rx=\"0\" ry=\"0\" r=\"2\"></circle></g></svg><p>t</p>" ++
        "<svg><g transform=\"translate(30, 40)\"><rect x=\"0\" y=\"0\" width=\"4\" height=\"3\">" ++
        "</rect><circle rx=\"0\" ry=\"0\" r=\"2\"></circle></g></svg></body></html>" ∧
      (render ⟨fun source id => .ok (drawMoved source id).svg⟩
        ("<!DOCTYPE html><html><head><title>t</title></head><body><pre class=\"mermaid\">a</pre>" ++
          "<p>t</p><code class=\"language-mermaid\">b</code></body></html>")).result =
        .ok rendered ∧
      extractCoordinates {} rendered = .ok ⟨[.circle ⟨⟨10, 20⟩, 2⟩, .circle ⟨⟨30, 40⟩, 2⟩,
        .rectangle ⟨⟨10, 20⟩, ⟨14, 20⟩, ⟨10, 17⟩, ⟨14, -3⟩⟩,
        .rectangle ⟨⟨30, 40⟩, ⟨34, 40⟩, ⟨30, 37⟩, ⟨34, -3⟩⟩]⟩ := by
  have hpage : blockPage twoBlocks =
      "<!DOCTYPE html><html><head><title>t</title></head><body><pre class=\"mermaid\">a</pre>" ++
        "<p>t</p><code class=\"language-mermaid\">b</code></body></html>" := by
    decide +kernel
  obtain ⟨rendered, cs, hrendered, hresult, -, -, -, halone, hall⟩ :=
    @extractCoordinates_render ⟨fun source id => .ok (drawMoved source id).svg⟩ drawMoved
      (fun _ _ => rfl) twoBlocks {}
  have hfirst : extractCoordinates {} (drawMoved "a" (diagramId 0)).svg =
      .ok ⟨[.circle ⟨⟨10, 20⟩, 2⟩, .rectangle ⟨⟨10, 20⟩, ⟨14, 20⟩, ⟨10, 17⟩, ⟨14, -3⟩⟩]⟩ :=
    extractCoordinates_of_parse (Picture.parse_alone {} _)
  have hsecond : extractCoordinates {} (drawMoved "b" (diagramId 1)).svg =
      .ok ⟨[.circle ⟨⟨30, 40⟩, 2⟩, .rectangle ⟨⟨30, 40⟩, ⟨34, 40⟩, ⟨30, 37⟩, ⟨34, -3⟩⟩]⟩ :=
    extractCoordinates_of_parse (Picture.parse_alone {} _)
  have hcs : cs = [_, _] :=
    List.map_injective_iff.2 (fun _ _ => Except.ok.inj)
      (halone.symm.trans (congrArg₂ (fun c d => [c, d]) hfirst hsecond))
  subst hcs
  rw [hpage] at hresult
  refine ⟨rendered, hrendered.trans ?_, hresult, hall⟩
  decide +kernel

end ShapeCoords.Page
