import ShapeCoords.Proofs.Drawing.Article
import ShapeCoords.Proofs.Page.Blocks

/-!
Texts of HTML without a block: paragraphs, pictures, and what stands around the content of a page.
-/

namespace ShapeCoords.Page

open Markup (Attribute IsPlainName Tag openTagText endTagText paragraphText)

/-! Plain parts -/

theorem isPlain_openTagPart {name : String} (hname : name ∉ ["pre", "div", "code"])
    (attributes : List Attribute) (c : Context) : (openTagPart name attributes c).IsPlain := by
  refine ⟨rfl, Option.eq_none_iff_forall_ne_some.2 fun kind hkind => ?_⟩
  have hblock := name_of_block (t := ⟨.opening, name, attributes, false⟩) hkind
  simp only [List.mem_cons, List.not_mem_nil, or_false] at hname
  exact hname hblock

theorem isPlain_endTagPart (name : String) (c : Context) : (endTagPart name c).IsPlain :=
  ⟨rfl, rfl⟩

theorem isPlain_contentParts (content : List Char) : ∀ p ∈ contentParts content, p.IsPlain := by
  intro p hp
  unfold contentParts at hp
  split at hp
  · cases hp
  · rw [List.mem_singleton.1 hp]
    exact ⟨rfl, rfl⟩

/-- Some parts that a text is always cut into, none of which is refused or begins a block. -/
def CutsPlainly (text : List Char) (c d : Context) : Prop :=
  ∃ ps, CutsInto text c ps d ∧ ∀ p ∈ ps, p.IsPlain

namespace CutsPlainly

variable {s t : List Char} {c d e : Context}

theorem nil (c : Context) : CutsPlainly [] c c :=
  ⟨[], .nil c, by simp⟩

theorem append (hs : CutsPlainly s c d) (ht : CutsPlainly t d e) : CutsPlainly (s ++ t) c e := by
  obtain ⟨ps, hps, hplain⟩ := hs
  obtain ⟨qs, hqs, hplain'⟩ := ht
  exact ⟨ps ++ qs, hps.append hqs, List.forall_mem_append.2 ⟨hplain, hplain'⟩⟩

theorem flatMap {α : Type} {f : α → List Char} (h : ∀ a, CutsPlainly (f a) c c) (as : List α) :
    CutsPlainly (as.flatMap f) c c := by
  induction as with
  | nil => exact nil c
  | cons a as ih => exact (h a).append ih

theorem cutsInto (h : CutsPlainly s {} c) : CutsInto s {} (parts s) c := by
  obtain ⟨ps, hps, -⟩ := h
  exact hps.self

theorem isPlain (h : CutsPlainly s {} c) : ∀ p ∈ parts s, p.IsPlain := by
  obtain ⟨ps, hps, hplain⟩ := h
  rwa [hps.parts_eq]

end CutsPlainly

section Tags

variable {name : String} {attributes : List Attribute} {c d : Context}

theorem cutsPlainly_openTag (hname : IsPlainName name) (hblock : name ∉ ["pre", "div", "code"])
    (hplain : ∀ a ∈ attributes, a.IsPlain) (hdistinct : (attributes.map Attribute.name).Nodup)
    (hsure : c.guard = .sure)
    (hopen : c.openTag ⟨.opening, name, attributes, false⟩ = (d, .markup)) :
    CutsPlainly (openTagText name attributes) c d := by
  refine ⟨_, cutsInto_openTag hname hplain hdistinct hsure hopen, ?_⟩
  intro p hp
  rw [List.mem_singleton.1 hp]
  exact isPlain_openTagPart hblock attributes d

theorem cutsPlainly_endTag (hname : IsPlainName name) (hsure : c.guard = .sure)
    (hclose : c.closeTag ⟨.closing, name, [], false⟩ = d) :
    CutsPlainly (endTagText name) c d := by
  refine ⟨_, cutsInto_endTag hname hsure hclose, ?_⟩
  intro p hp
  rw [List.mem_singleton.1 hp]
  exact isPlain_endTagPart name d

end Tags

theorem cutsPlainly_paragraph (s : PlainText) : CutsPlainly (paragraphText s.val) {} {} := by
  have hcontent : '<' ∉ s.val := fun h => (s.property _ h).1 rfl
  have hcuts : CutsInto (openTagText "p" [] ++ (s.val ++ endTagText "p")) {} _ {} :=
    cutsInto_element (by decide) (by simp) (by simp) rfl hcontent
  rw [← List.append_assoc] at hcuts
  refine ⟨_, hcuts, ?_⟩
  simp only [List.cons_append, List.forall_mem_cons, List.forall_mem_append, List.not_mem_nil,
    false_imp_iff, implies_true, and_true]
  exact ⟨isPlain_openTagPart (by decide) [] {}, isPlain_contentParts s.val,
    isPlain_endTagPart "p" {}⟩

def inPicture : Context :=
  ({} : Context).enter .svg

theorem cutsPlainly_graphics (g : Graphics) : CutsPlainly g.text inPicture inPicture := by
  induction g with
  | nil => exact .nil inPicture
  | element tag attributes inner rest ihInner ihRest =>
      have hstays := tag.stays attributes.list
      have hopen : inPicture.openTag ⟨.opening, tag.name, attributes.list, false⟩ =
          (inPicture, .markup) := by
        cases tag <;>
          simp_all [Context.openTag, inPicture, Context.enter, Guard.afterOpening, PictureTag.name,
            Context.holdsHtml, Context.mayHoldHtml]
      have hclose : inPicture.closeTag ⟨.closing, tag.name, [], false⟩ = inPicture := by
        cases tag <;> decide
      have hblock : tag.name ∉ ["pre", "div", "code"] := by
        cases tag <;> decide
      have hfirst := cutsPlainly_openTag tag.isPlainName hblock attributes.plain
        attributes.distinct rfl hopen
      have hlast := cutsPlainly_endTag tag.isPlainName rfl hclose
      exact ((hfirst.append ihInner).append hlast).append ihRest

theorem cutsPlainly_picture (p : Picture) : CutsPlainly p.text {} {} := by
  have hopen : ({} : Context).openTag ⟨.opening, "svg", p.attributes.list, false⟩ =
      (inPicture, .markup) := by
    simp [Context.openTag, inPicture, Context.enter, Guard.afterOpening]
  have hfirst := cutsPlainly_openTag (by decide : IsPlainName "svg") (by decide)
    p.attributes.plain p.attributes.distinct rfl hopen
  have hlast : CutsPlainly (endTagText "svg") inPicture {} :=
    cutsPlainly_endTag (by decide) rfl (by decide)
  exact (hfirst.append (cutsPlainly_graphics p.content)).append hlast

/-! Around the content of a page -/

theorem cutsPlainly_doctype : CutsPlainly "<!DOCTYPE html>".toList {} {} := by
  have hpiece (rest : List Char) : firstPiece {} inMarkup ("<!DOCTYPE html>".toList ++ rest) =
      .other "<!DOCTYPE html>".toList := by
    with_unfolding_all rfl
  refine ⟨_, .piece rfl (by simp) hpiece rfl rfl, ?_⟩
  intro p hp
  rw [List.mem_singleton.1 hp]
  exact ⟨rfl, rfl⟩

/-- The content of a title is read in a way of its own. -/
theorem cutsPlainly_title :
    CutsPlainly (openTagText "title" [] ++ 't' :: endTagText "title") {} {} := by
  let inTitle : Reading := .content (.escapable "title")
  have hadvance : advance {} inMarkup
      (.tag (openTagText "title" []) ⟨.opening, "title", [], false⟩) = ({}, inTitle) := by
    rfl
  have hopen (n : Nat) (rest : List Char) :
      partsFrom (n + 1) {} inMarkup (openTagText "title" [] ++ rest) =
        openTagPart "title" [] {} :: partsFrom n {} inTitle rest := by
    have hpiece := firstPiece_openTag (by decide : IsPlainName "title")
      (List.forall_mem_nil Attribute.IsPlain) List.nodup_nil {} rest
    have hstep := partsFrom_step (n := n) hpiece (by simp [openTagText]) rfl hadvance
    rwa [Piece.raw, List.drop_left] at hstep
  have htext (n : Nat) (rest : List Char) :
      partsFrom (n + 1) {} inTitle ('t' :: (endTagText "title" ++ rest)) =
        ⟨.text ['t'], false, .html⟩ :: partsFrom n {} inTitle (endTagText "title" ++ rest) :=
    partsFrom_step (by with_unfolding_all rfl) (by simp) rfl rfl
  have hend (n : Nat) (rest : List Char) :
      partsFrom (n + 1) {} inTitle (endTagText "title" ++ rest) =
        endTagPart "title" {} :: partsFrom n {} inMarkup rest :=
    partsFrom_step (by with_unfolding_all rfl) (by simp [endTagText]) rfl rfl
  refine ⟨[openTagPart "title" [] {}, ⟨.text ['t'], false, .html⟩, endTagPart "title" {}],
    fun rest => ⟨3, by simp [openTagText, endTagText]; omega, fun n => ?_⟩, ?_⟩
  · rw [List.append_assoc, List.cons_append, hopen, htext, hend]
    rfl
  · simp only [List.forall_mem_cons, List.not_mem_nil, false_imp_iff, implies_true, and_true]
    exact ⟨isPlain_openTagPart (by decide) [] {}, ⟨rfl, rfl⟩, isPlain_endTagPart "title" {}⟩

theorem cutsPlainly_pageStart : CutsPlainly pageStart {} {} := by
  have hopen {name : String} (hname : IsPlainName name) (hblock : name ∉ ["pre", "div", "code"])
      (hcontent : ({} : Context).openTag ⟨.opening, name, [], false⟩ = ({}, .markup)) :
      CutsPlainly (openTagText name []) {} {} :=
    cutsPlainly_openTag hname hblock (by simp) (by simp) rfl hcontent
  have hend : CutsPlainly (endTagText "head") {} {} := cutsPlainly_endTag (by decide) rfl rfl
  have hhead := cutsPlainly_doctype.append
    ((hopen (by decide : IsPlainName "html") (by decide) rfl).append
      (hopen (by decide : IsPlainName "head") (by decide) rfl))
  have hbody := hend.append (hopen (by decide : IsPlainName "body") (by decide) rfl)
  exact (hhead.append cutsPlainly_title).append hbody

theorem cutsPlainly_pageEnd : CutsPlainly pageEnd {} {} := by
  have hbody : CutsPlainly (endTagText "body") {} {} := cutsPlainly_endTag (by decide) rfl rfl
  have hhtml : CutsPlainly (endTagText "html") {} {} := cutsPlainly_endTag (by decide) rfl rfl
  exact hbody.append hhtml

end ShapeCoords.Page
