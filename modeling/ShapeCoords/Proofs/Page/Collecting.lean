import ShapeCoords.Proofs.Page.Fragments

/-!
Collecting the blocks of a page that is texts and written blocks in turn. Whatever the texts in a
block look like, they are its source as they were before they were written, and nothing else is.
-/

namespace ShapeCoords.Page

/-- A stretch of a page: a text without `<`, or a block. -/
inductive Stretch where
  | text (s : List Char) (plain : '<' ∉ s)
  | block (b : WrittenBlock)

namespace Stretch

def raw : Stretch → List Char
  | .text s _ => s
  | .block b => b.text

def block? : Stretch → Option WrittenBlock
  | .text .. => none
  | .block b => some b

/-- The parts of some stretches behind a text. Texts in a row are one part. -/
def parts (s : List Char) : List Stretch → List Part
  | [] => contentParts s
  | .text t _ :: page => parts (s ++ t) page
  | .block b :: page => contentParts s ++ (b.parts ++ parts [] page)

theorem passes {s : List Char} (hs : '<' ∉ s) (page : List Stretch) :
    Passes (s ++ page.flatMap raw) {} (parts s page) [] {} := by
  induction page generalizing s with
  | nil =>
      cases s with
      | nil => exact .refl [] {}
      | cons x s => exact .text hs (by simp) .nil {}
  | cons stretch page ih =>
      cases stretch with
      | text t ht =>
          have hmore : '<' ∉ s ++ t := by simp [hs, ht]
          simpa [parts, raw] using ih hmore
      | block b =>
          have hblock := cutsInto_content hs b.cutsInto rfl (page.flatMap raw)
          simpa [parts, raw] using hblock.trans (ih List.not_mem_nil)

/-- The texts of blocks are collected in their order, and no other text is. -/
theorem collectTexts_eq (s : List Char) (page : List Stretch) (texts : List (List Char)) :
    collectTexts texts (visitsFrom [] (parts s page)) =
      .ok (((page.filterMap block?).map fun b => escaped b.plain).reverse ++ texts) := by
  have hcontent (s : List Char) (texts : List (List Char)) :
      collectTexts texts (visitsFrom [] (contentParts s)) = .ok texts :=
    collectTexts_outside (show NoBlocks [] from rfl) (isPlain_contentParts s) texts
  induction page generalizing s texts with
  | nil => exact hcontent s texts
  | cons stretch page ih =>
      cases stretch with
      | text t ht => exact ih (s ++ t) texts
      | block b =>
          obtain ⟨hcollect, hbehind⟩ := b.collectTexts_eq texts
          rw [parts, visitsFrom_append, collectTexts_append (hcontent s texts),
            openedBehind_of_tagFree (isTagFree_contentParts s), visitsFrom_append,
            collectTexts_append hcollect, hbehind, ih]
          simp [block?]

end Stretch

/-- Of each block of a page the texts in it are collected, put behind each other as they were before
they were written, and trimmed. -/
theorem collectSources_written (page : List Stretch) :
    collectSources (String.ofList (page.flatMap Stretch.raw)) =
      .ok ((page.filterMap Stretch.block?).map fun b => String.ofList (Text.trim b.plain)) := by
  have hparts := (Stretch.passes List.not_mem_nil page).parts_eq
  rw [List.nil_append] at hparts
  rw [collectSources, String.toList_ofList, visits, hparts, Stretch.collectTexts_eq]
  simp [sourceOf_escaped]

/-- A page with a block, whose texts look like a reference and like a tag. -/
example : String.ofList (List.flatMap Stretch.raw
      [.text ['a', '&'] (by decide),
        .block ⟨.code, [.text "&lt;".toList, .lineBreak, .boldEnd, .text "<b>".toList]⟩]) =
    "a&<code class=\"language-mermaid\">&amp;lt;<br></b>&lt;b&gt;</code>" := by
  decide +kernel

end ShapeCoords.Page
