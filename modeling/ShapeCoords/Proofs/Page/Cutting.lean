import ShapeCoords.Proofs.Page.FirstPiece
import ShapeCoords.Proofs.Text.Runs

/-!
Cutting texts that end with a whole tag: they are cut into the same parts whatever stands behind
them, so the parts of a page made of such texts are theirs, one after the other.
-/

namespace ShapeCoords.Page

open Markup (Attribute IsPlainName endTagText openTagText)
open Text (EndsRun takeWhile_run)

/-- Cutting comes from one place in a page to another, in no more steps than there are characters
in between. -/
def Passes (page : List Char) (c : Context) (ps : List Part) (rest : List Char) (d : Context) :
    Prop :=
  ∃ k, k + rest.length ≤ page.length ∧
    ∀ n, partsFrom (n + k) c inMarkup page = ps ++ partsFrom n d inMarkup rest

/-- A text is cut into some parts whatever stands behind it. -/
def CutsInto (text : List Char) (c : Context) (ps : List Part) (d : Context) : Prop :=
  ∀ rest, Passes (text ++ rest) c ps rest d

theorem Passes.trans {page rest last : List Char} {c d e : Context} {ps qs : List Part}
    (h : Passes page c ps rest d) (hrest : Passes rest d qs last e) :
    Passes page c (ps ++ qs) last e := by
  obtain ⟨k, hk, hparts⟩ := h
  obtain ⟨m, hm, hparts'⟩ := hrest
  refine ⟨m + k, by omega, fun n => ?_⟩
  rw [← Nat.add_assoc, hparts, hparts', List.append_assoc]

theorem partsFrom_step {n : Nat} {page : List Char} {c d : Context} {reading next : Reading}
    {piece : Piece} (hpiece : firstPiece c reading page = piece) (hpage : page ≠ [])
    (hrefused : isRefused c piece = false) (hadvance : advance c reading piece = (d, next)) :
    partsFrom (n + 1) c reading page =
      ⟨piece, false, d.space⟩ :: partsFrom n d next (page.drop piece.raw.length) := by
  rw [partsFrom, if_neg (by simpa using hpage), hpiece]
  dsimp only
  rw [if_neg (by simp [hrefused]), hadvance]

theorem Passes.piece {page : List Char} {c d : Context} {piece : Piece}
    (hpiece : firstPiece c inMarkup page = piece) (hpage : page ≠ [])
    (hrefused : isRefused c piece = false) (hadvance : advance c inMarkup piece = (d, inMarkup)) :
    Passes page c [⟨piece, false, d.space⟩] (page.drop piece.raw.length) d := by
  have hleads := firstPiece_leads c inMarkup hpage
  rw [hpiece] at hleads
  have hpos := List.length_pos_iff.2 hleads.2
  have hle := hleads.1.length_le
  refine ⟨1, ?_, fun n => partsFrom_step hpiece hpage hrefused hadvance⟩
  rw [List.length_drop]
  omega

/-- A text ends in front of a tag and at the end of the page. -/
theorem Passes.text {s rest : List Char} (hs : '<' ∉ s) (hne : s ≠ [])
    (hrest : EndsRun (fun x => x != '<') rest) (c : Context) :
    Passes (s ++ rest) c [⟨.text s, false, c.space⟩] rest c := by
  have hall : ∀ x ∈ s, (x != '<') = true := by
    intro x hx
    simpa using fun h : x = '<' => hs (h ▸ hx)
  have hpiece : firstPiece c inMarkup (s ++ rest) = .text s := by
    unfold firstPiece
    dsimp only
    rw [takeWhile_run hall hrest]
    cases s with
    | nil => exact absurd rfl hne
    | cons x s => rfl
  have hpasses := Passes.piece hpiece (by simp [hne]) rfl rfl
  rwa [show (Piece.text s).raw = s from rfl, List.drop_left] at hpasses

theorem Passes.refl (page : List Char) (c : Context) : Passes page c [] page c :=
  ⟨0, by omega, fun _ => rfl⟩

/-- Cutting that comes to the end of a page has made all parts of it. -/
theorem Passes.parts_eq {page : List Char} {ps : List Part} {d : Context}
    (h : Passes page {} ps [] d) : parts page = ps := by
  obtain ⟨k, hk, hparts⟩ := h
  rw [List.length_nil] at hk
  have hend (n : Nat) : partsFrom n d inMarkup [] = [] := by
    cases n <;> rfl
  rw [parts, show page.length = page.length - k + k by omega, hparts, hend, List.append_nil]

namespace CutsInto

variable {s t : List Char} {c d e : Context} {ps qs : List Part}

theorem nil (c : Context) : CutsInto [] c [] c :=
  fun rest => .refl rest c

theorem append (hs : CutsInto s c ps d) (ht : CutsInto t d qs e) :
    CutsInto (s ++ t) c (ps ++ qs) e := by
  intro rest
  rw [List.append_assoc]
  exact (hs (t ++ rest)).trans (ht rest)

/-- A piece that stands in front of a text whatever is behind it. -/
theorem piece {piece : Piece} (hs : piece.raw = s) (hne : s ≠ [])
    (hpiece : ∀ rest, firstPiece c inMarkup (s ++ rest) = piece)
    (hrefused : isRefused c piece = false) (hadvance : advance c inMarkup piece = (d, inMarkup)) :
    CutsInto s c [⟨piece, false, d.space⟩] d := by
  intro rest
  have hpasses := Passes.piece (hpiece rest) (by simp [hne]) hrefused hadvance
  rwa [hs, List.drop_left] at hpasses

/-- Text in front of a tag. -/
theorem text (hs : '<' ∉ s) (hne : s ≠ []) (ht : CutsInto t c ps d) (htag : t.head? = some '<') :
    CutsInto (s ++ t) c (⟨.text s, false, c.space⟩ :: ps) d := by
  intro rest
  have hend : EndsRun (fun x => x != '<') (t ++ rest) := by
    cases t with
    | nil => cases htag
    | cons x t =>
        obtain rfl : x = '<' := Option.some.inj htag
        exact .cons (by decide) _
  rw [List.append_assoc]
  exact (Passes.text hs hne hend c).trans (ht rest)

/-- The parts of a text alone. -/
theorem parts_eq (h : CutsInto s {} ps c) : parts s = ps := by
  have hpasses := h []
  rw [List.append_nil] at hpasses
  exact hpasses.parts_eq

theorem self (h : CutsInto s {} ps c) : CutsInto s {} (parts s) c := by
  rwa [h.parts_eq]

theorem flatMap {α : Type} {f : α → List Char} (h : ∀ a, CutsInto (f a) {} (parts (f a)) {})
    (as : List α) : CutsInto (as.flatMap f) {} (as.flatMap fun a => parts (f a)) {} := by
  induction as with
  | nil => exact nil {}
  | cons a as ih => exact (h a).append ih

end CutsInto

/-! Tags -/

theorem isRefused_of_sure {c : Context} (hc : c.guard = .sure) (piece : Piece) :
    isRefused c piece = false := by
  have hrefuses (name : String) : c.guard.refuses name = false := by
    rw [hc, Guard.refuses, Bool.and_false]
  cases piece with
  | text raw => rfl
  | other raw => rfl
  | tag raw t => rw [isRefused, hrefuses, Bool.and_false]
  | cut raw name =>
      cases name with
      | none => rfl
      | some name => exact hrefuses name

section Tags

variable {name : String} {attributes : List Attribute} {c d : Context}

/-- The part that a plain opening tag is. -/
def openTagPart (name : String) (attributes : List Attribute) (d : Context) : Part :=
  ⟨.tag (openTagText name attributes) ⟨.opening, name, attributes, false⟩, false, d.space⟩

def endTagPart (name : String) (d : Context) : Part :=
  ⟨.tag (endTagText name) ⟨.closing, name, [], false⟩, false, d.space⟩

theorem cutsInto_openTag (hname : IsPlainName name) (hplain : ∀ a ∈ attributes, a.IsPlain)
    (hdistinct : (attributes.map Attribute.name).Nodup) (hsure : c.guard = .sure)
    (hopen : c.openTag ⟨.opening, name, attributes, false⟩ = (d, .markup)) :
    CutsInto (openTagText name attributes) c [openTagPart name attributes d] d := by
  refine .piece rfl (by simp [openTagText])
    (firstPiece_openTag hname hplain hdistinct c) (isRefused_of_sure hsure _) ?_
  simp only [advance, hopen]

theorem cutsInto_endTag (hname : IsPlainName name) (hsure : c.guard = .sure)
    (hclose : c.closeTag ⟨.closing, name, [], false⟩ = d) :
    CutsInto (endTagText name) c [endTagPart name d] d := by
  refine .piece rfl (by simp [endTagText]) (firstPiece_endTag hname c)
    (isRefused_of_sure hsure _) ?_
  simp only [advance, hclose]

/-- The parts of a text without tags. -/
def contentParts (content : List Char) : List Part :=
  if content.isEmpty then [] else [⟨.text content, false, .html⟩]

theorem cutsInto_content {content t : List Char} {ps : List Part} (hcontent : '<' ∉ content)
    (ht : CutsInto t {} ps d) (htag : t.head? = some '<') :
    CutsInto (content ++ t) {} (contentParts content ++ ps) d := by
  cases content with
  | nil => exact ht
  | cons x s => exact .text hcontent (by simp) ht htag

/-- An element of HTML with nothing but text in it. -/
theorem cutsInto_element (hname : IsPlainName name) (hplain : ∀ a ∈ attributes, a.IsPlain)
    (hdistinct : (attributes.map Attribute.name).Nodup)
    (hopen : ({} : Context).openTag ⟨.opening, name, attributes, false⟩ = ({}, .markup))
    {content : List Char} (hcontent : '<' ∉ content) :
    CutsInto (openTagText name attributes ++ (content ++ endTagText name)) {}
      (openTagPart name attributes {} :: contentParts content ++ [endTagPart name {}]) {} := by
  have hend : CutsInto (endTagText name) {} [endTagPart name {}] {} :=
    cutsInto_endTag hname rfl rfl
  exact (cutsInto_openTag hname hplain hdistinct rfl hopen).append
    (cutsInto_content hcontent hend rfl)

end Tags

end ShapeCoords.Page
