import ShapeCoords.Markup.Parsing
import ShapeCoords.Proofs.Markup.Growth
import ShapeCoords.Proofs.Markup.Tags

/-!
Building a tree from one place in a text to a later one. Behind an `svg` tag each opening tag makes
an element inside of the innermost open one, and each end tag closes that.
-/

namespace ShapeCoords.Markup

open Builder

/-- Building comes from one place in a text to another, in no more steps than there are characters
in between. -/
def Reaches (s : List Char) (b : Builder) (rest : List Char) (c : Builder) : Prop :=
  ∃ k, k + rest.length ≤ s.length ∧
    ∀ n, build (n + k) ⟨s, none⟩ .markup b = build n ⟨rest, none⟩ .markup c

theorem Reaches.refl (s : List Char) (b : Builder) : Reaches s b s b :=
  ⟨0, by omega, fun _ => rfl⟩

theorem Reaches.trans {s rest last : List Char} {b c d : Builder} (h : Reaches s b rest c)
    (hrest : Reaches rest c last d) : Reaches s b last d := by
  obtain ⟨k, hk, hbuild⟩ := h
  obtain ⟨m, hm, hbuild'⟩ := hrest
  refine ⟨m + k, by omega, fun n => ?_⟩
  rw [← Nat.add_assoc, hbuild, hbuild']

/-- Building up to the end of a text is not cut short. -/
theorem Reaches.build_eq {s : List Char} {b c : Builder} (h : Reaches s b [] c) :
    build (s.length + 1) ⟨s, none⟩ .markup b = (c.takeToken .endOfText).1 := by
  obtain ⟨k, hk, hbuild⟩ := h
  rw [List.length_nil] at hk
  rw [show s.length + 1 = s.length - k + 1 + k by omega, hbuild, build]
  rfl

theorem Reaches.token {text rest : List Char} {b c : Builder} {token : Token}
    (hnonempty : text ≠ [])
    (hnext : Source.next ⟨text ++ rest, none⟩ b.isForeign .markup =
      ([.token token], ⟨rest, none⟩))
    (htake : b.takeToken token = (c, none)) : Reaches (text ++ rest) b rest c := by
  have hlength := List.length_pos_iff.2 hnonempty
  refine ⟨1, by simp; omega, fun n => ?_⟩
  have hmore : (text ++ rest).isEmpty = false := by simp [hnonempty]
  rw [build, hmore, if_neg Bool.false_ne_true, hnext]
  simp only [takeItems, takeItem, htake]
  rfl

/-! Tags in foreign content -/

/-- A tag that is done with in one step. -/
theorem takeToken_tag {b c : Builder} {t : Tag} (hskips : b.skipsNewline = false)
    (hstep : b.step (.tag t) = (c, .done)) (hclaims : t.selfClosing = false) :
    b.takeToken (.tag t) = (c, none) := by
  have hb : { b with skipsNewline := false } = b := by
    rw [← hskips]
  have hbound : b.stepBound (.tag t) = 63 + 8 * b.opened.length + 1 := by
    show 64 + 8 * b.opened.length = _
    omega
  have hclaims : claimsToClose (.tag t) = false := by simp [claimsToClose, hclaims]
  show settle ({ b with skipsNewline := false }.stepBound (.tag t)) (.tag t) []
    { b with skipsNewline := false } = (c, none)
  rw [hb, hbound, settle]
  simp only [portion, hstep, hclaims]
  rfl

/-- The innermost open element is one of SVG with no HTML in it, and nothing is amiss. -/
structure Builder.InDrawing (b : Builder) (o below : Open) (outer : List Open) : Prop where
  opened : b.opened = o :: below :: outer
  space : o.element.space = .svg
  plain : o.element.isContentIntegration = false
  fosters : b.fosters = false
  skipsNewline : b.skipsNewline = false

/-- The state behind an opening tag of SVG. -/
def Builder.descend (name : String) (attributes : List Attribute) (parent : Nat) (b : Builder) :
    Builder :=
  { b with
    tree := b.tree.grow ⟨.svg, name, attributes⟩ parent
    opened := ⟨b.tree.elements.size, ⟨.svg, name⟩⟩ :: b.opened }

theorem insert_svg {b : Builder} {o : Open} {outer : List Open} (hopened : b.opened = o :: outer)
    (hfosters : b.fosters = false) (htemplate : o.element.isNamed "template" = false)
    (name : String) (attributes : List Attribute) :
    b.insert ⟨.svg, name⟩ attributes = b.descend name attributes o.id := by
  have hposition : b.position = .inside (.element o.id) := by
    simp [position, current?, hopened, positionIn, hfosters, contentPlace, htemplate]
  rw [Builder.insert, insertEmpty, hposition]
  rfl

theorem takeToken_openTag_foreign {b : Builder} {o below : Open} {outer : List Open}
    (hb : b.InDrawing o below outer) {name : String} {attributes : List Attribute}
    (hstays : Tag.leavesForeign ⟨.opening, name, attributes, false⟩ = false) :
    b.takeToken (.tag ⟨.opening, name, attributes, false⟩) =
      (b.descend name attributes o.id, none) := by
  refine takeToken_tag hb.skipsNewline ?_ rfl
  have hcurrent : b.current? = some o := by simp [current?, hb.opened]
  have hforeign : isHtmlIn o.element (.tag ⟨.opening, name, attributes, false⟩) = false := by
    have hname : o.element ≠ ⟨.mathml, "annotation-xml"⟩ := by
      intro h
      have := congrArg ElementName.space h
      rw [hb.space] at this
      cases this
    simp [isHtmlIn, hb.space, hb.plain, ElementName.isTextIntegration, hname]
  have htemplate : o.element.isNamed "template" = false := by
    simp [ElementName.isNamed, hb.space]
  rw [step, hcurrent]
  dsimp only
  rw [if_neg (by simp [hforeign]), inForeign]
  dsimp only
  rw [openTagInForeign, if_neg (by simp [hstays]), hcurrent]
  dsimp only
  rw [insertForeign, if_neg Bool.false_ne_true, hb.space,
    insert_svg hb.opened hb.fosters htemplate]
  rfl

theorem takeToken_endTag_foreign {b : Builder} {o below : Open} {outer : List Open}
    (hb : b.InDrawing o below outer) {name : String} (hname : o.element.name = name) :
    b.takeToken (.tag ⟨.closing, name, [], false⟩) =
      ({ b with opened := below :: outer }, none) := by
  refine takeToken_tag hb.skipsNewline ?_ rfl
  have hcurrent : b.current? = some o := by simp [current?, hb.opened]
  rw [step, hcurrent]
  dsimp only
  rw [if_neg (by simp [isHtmlIn, hb.space]), inForeign]
  dsimp only
  rw [closeTagInForeign, hb.opened]
  dsimp only
  rw [if_pos hname, pop, hb.opened]
  rfl

theorem Builder.InDrawing.openTag {b : Builder} {o below : Open} {outer : List Open}
    (hb : b.InDrawing o below outer) {name : String} (hname : IsPlainName name)
    {attributes : List Attribute} (hplain : ∀ a ∈ attributes, a.IsPlain)
    (hdistinct : (attributes.map Attribute.name).Nodup)
    (hstays : Tag.leavesForeign ⟨.opening, name, attributes, false⟩ = false) (rest : List Char) :
    Reaches (openTagText name attributes ++ rest) b rest (b.descend name attributes o.id) :=
  .token (by simp [openTagText]) (next_openTag hname hplain hdistinct _ rest)
    (takeToken_openTag_foreign hb hstays)

theorem Builder.InDrawing.endTag {b : Builder} {o below : Open} {outer : List Open}
    (hb : b.InDrawing o below outer) (hname : IsPlainName o.element.name) (rest : List Char) :
    Reaches (endTagText o.element.name ++ rest) b rest { b with opened := below :: outer } :=
  .token (by simp [endTagText]) (next_endTag hname _ rest) (takeToken_endTag_foreign hb rfl)

theorem Builder.InDrawing.withTree {b : Builder} {o below : Open} {outer : List Open}
    (hb : b.InDrawing o below outer) (t : Tree) : { b with tree := t }.InDrawing o below outer :=
  ⟨hb.opened, hb.space, hb.plain, hb.fosters, hb.skipsNewline⟩

/-- Inside of an element made behind an opening tag of SVG there is foreign content again. -/
theorem Builder.InDrawing.descend {b : Builder} {o : Open} {outer : List Open}
    (hopened : b.opened = o :: outer) (hfosters : b.fosters = false)
    (hskips : b.skipsNewline = false) {name : String}
    (hname : ElementName.isContentIntegration ⟨.svg, name⟩ = false) (attributes : List Attribute)
    (parent : Nat) :
    (b.descend name attributes parent).InDrawing ⟨b.tree.elements.size, ⟨.svg, name⟩⟩ o outer where
  opened := by simp [Builder.descend, hopened]
  space := rfl
  plain := hname
  fosters := hfosters
  skipsNewline := hskips

/-- An `svg` tag in the body begins foreign content. -/
theorem takeToken_svgTag {b : Builder} {id : Nat} {outer : List Open}
    (hopened : b.opened = ⟨id, ⟨.html, "body"⟩⟩ :: outer) (hmode : b.mode = .inBody)
    (hfosters : b.fosters = false) (hskips : b.skipsNewline = false)
    (attributes : List Attribute) :
    b.takeToken (.tag ⟨.opening, "svg", attributes, false⟩) =
      (b.descend "svg" attributes id, none) := by
  refine takeToken_tag hskips ?_ rfl
  have hcurrent : b.current? = some ⟨id, ⟨.html, "body"⟩⟩ := by simp [current?, hopened]
  have hforeign : b.openTagInBody ⟨.opening, "svg", attributes, false⟩ =
      (b.insert ⟨.svg, "svg"⟩ attributes).done := rfl
  rw [step, hcurrent]
  dsimp only
  rw [if_pos (by rfl), hmode]
  show b.openTagInBody ⟨.opening, "svg", attributes, false⟩ = _
  rw [hforeign, insert_svg hopened hfosters rfl]
  rfl

end ShapeCoords.Markup
