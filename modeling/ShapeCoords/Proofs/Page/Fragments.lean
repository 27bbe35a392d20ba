import ShapeCoords.Proofs.Page.Blockless
import ShapeCoords.Proofs.Page.Comments
import ShapeCoords.Proofs.Page.Escaping

/-!
Blocks whose content is texts, with comments and the tags of line breaks and of bold text between
them. The tags need not match. Such a block is collected as its texts, put behind each other.
-/

namespace ShapeCoords.Page

open Markup (endTagText openTagText)

inductive Fragment where
  | text (s : List Char)
  | comment (c : Comment)
  | lineBreak
  | boldStart
  | boldEnd

namespace Fragment

def raw : Fragment → List Char
  | .text s => escaped s
  | .comment c => c.text
  | .lineBreak => openTagText "br" []
  | .boldStart => openTagText "b" []
  | .boldEnd => endTagText "b"

/-- What a fragment adds to the source of a diagram. -/
def plain : Fragment → List Char
  | .text s => s
  | _ => []

/-- The part that a fragment makes unless it is a text. -/
def mark? : Fragment → Option Part
  | .text _ => none
  | .comment c => some ⟨.other c.text, false, .html⟩
  | .lineBreak => some (openTagPart "br" [] {})
  | .boldStart => some (openTagPart "b" [] {})
  | .boldEnd => some (endTagPart "b" {})

/-- The parts of some fragments behind a text. Texts in a row are one part. -/
def parts (s : List Char) : List Fragment → List Part
  | [] => contentParts s
  | f :: fs =>
    match f.mark? with
    | none => parts (s ++ f.raw) fs
    | some p => contentParts s ++ p :: parts [] fs

variable {f : Fragment} {p : Part}

/-- A fragment that is no text starts with `<` and adds nothing. -/
theorem cutsInto_mark (h : f.mark? = some p) :
    CutsInto f.raw {} [p] {} ∧ f.raw.head? = some '<' ∧ p.ownText = [] ∧ f.plain = [] := by
  cases f with
  | text s => cases h
  | comment c =>
      cases h
      exact ⟨cutsInto_comment c, rfl, rfl, rfl⟩
  | lineBreak =>
      cases h
      exact ⟨cutsInto_openTag (by decide) (by simp) (by simp) rfl (by decide), rfl, rfl, rfl⟩
  | boldStart =>
      cases h
      exact ⟨cutsInto_openTag (by decide) (by simp) (by simp) rfl (by decide), rfl, rfl, rfl⟩
  | boldEnd =>
      cases h
      exact ⟨cutsInto_endTag (by decide) rfl rfl, rfl, rfl, rfl⟩

theorem isPlain_mark (h : f.mark? = some p) : p.IsPlain := by
  cases f with
  | text s => cases h
  | comment c =>
      cases h
      exact ⟨rfl, rfl⟩
  | lineBreak =>
      cases h
      exact isPlain_openTagPart (by decide) _ _
  | boldStart =>
      cases h
      exact isPlain_openTagPart (by decide) _ _
  | boldEnd =>
      cases h
      exact isPlain_endTagPart _ _

theorem cutsInto_fragments {s t : List Char} {ps : List Part} {d : Context} (hs : '<' ∉ s)
    (fs : List Fragment) (ht : CutsInto t {} ps d) (htag : t.head? = some '<') :
    CutsInto (s ++ (fs.flatMap raw ++ t)) {} (parts s fs ++ ps) d := by
  induction fs generalizing s with
  | nil => exact cutsInto_content hs ht htag
  | cons f fs ih =>
      rw [parts]
      cases hmark : f.mark? with
      | none =>
          cases f with
          | text u =>
              have hmore : '<' ∉ s ++ raw (.text u) := by
                simpa using ⟨hs, not_mem_escaped u⟩
              simpa using ih hmore
          | _ => cases hmark
      | some p =>
          obtain ⟨hcuts, hhead, -, -⟩ := cutsInto_mark hmark
          have hbehind := hcuts.append (ih (List.not_mem_nil))
          have hcontent := cutsInto_content hs hbehind (by simp [hhead])
          simpa using hcontent

/-! What is open in a block -/

def bold : OpenElement :=
  ⟨"b", none⟩

def element (kind : BlockKind) : OpenElement :=
  ⟨kind.tagName, some kind⟩

/-- The element of a block of a kind, with nothing but bold text begun in it. -/
def Inside (kind : BlockKind) (opened : List OpenElement) : Prop :=
  ∃ k, opened = List.replicate k bold ++ [element kind]

variable {kind : BlockKind} {opened : List OpenElement}

theorem Inside.around (h : Inside kind opened) :
    opened.filterMap OpenElement.block = [kind] := by
  obtain ⟨k, rfl⟩ := h
  simp [bold, element]

theorem Inside.mark (h : Inside kind opened) (hp : f.mark? = some p) :
    Inside kind (p.opened opened) := by
  obtain ⟨k, rfl⟩ := h
  cases f with
  | text s => cases hp
  | comment c =>
      cases hp
      exact ⟨k, rfl⟩
  | lineBreak =>
      cases hp
      exact ⟨k, rfl⟩
  | boldStart =>
      cases hp
      exact ⟨k + 1, rfl⟩
  | boldEnd =>
      cases hp
      cases k with
      | zero => exact ⟨0, by cases kind <;> rfl⟩
      | succ k => exact ⟨k, rfl⟩

/-- The end tag of a block closes what is open in it. -/
theorem Inside.endTag (h : Inside kind opened) :
    (endTagPart kind.tagName {}).opened opened = [] := by
  obtain ⟨k, rfl⟩ := h
  have hbold : ∀ e ∈ List.replicate k bold, (e.name != kind.tagName) = true := by
    intro e he
    rw [List.eq_of_mem_replicate he]
    cases kind <;> rfl
  have hdrop : (List.replicate k bold ++ [element kind]).dropWhile
      (fun e => e.name != kind.tagName) = [element kind] := by
    rw [List.dropWhile_append_of_pos hbold]
    simp [element]
  have hany : (List.replicate k bold ++ [element kind]).any
      (fun e => e.name == kind.tagName) = true := by
    simp [element]
  simp only [Part.opened, endTagPart, hany, hdrop, if_true, List.tail_cons]

/-! The parts of fragments -/

theorem mem_parts {s : List Char} {fs : List Fragment} (h : p ∈ parts s fs) :
    (∃ t, p ∈ contentParts t) ∨ ∃ f : Fragment, f.mark? = some p := by
  induction fs generalizing s with
  | nil => exact .inl ⟨s, h⟩
  | cons f fs ih =>
      rw [parts] at h
      cases hmark : f.mark? with
      | none =>
          rw [hmark] at h
          exact ih h
      | some q =>
          rw [hmark] at h
          rcases List.mem_append.1 h with h | h
          · exact .inl ⟨s, h⟩
          · rcases List.mem_cons.1 h with rfl | h
            · exact .inr ⟨f, hmark⟩
            · exact ih h

theorem isPlain_of_mem_parts {s : List Char} {fs : List Fragment} (h : p ∈ parts s fs) :
    p.IsPlain := by
  rcases mem_parts h with ⟨t, h⟩ | ⟨f, h⟩
  · exact isPlain_contentParts t p h
  · exact isPlain_mark h

theorem Inside.part {s : List Char} {fs : List Fragment} (hopened : Inside kind opened)
    (h : p ∈ parts s fs) : Inside kind (p.opened opened) := by
  rcases mem_parts h with ⟨t, h⟩ | ⟨f, h⟩
  · rwa [(isTagFree_contentParts t p h).opened]
  · exact hopened.mark h

/-- The texts of the parts are those of the fragments. -/
theorem ownText_parts (s : List Char) (fs : List Fragment) :
    (parts s fs).flatMap Part.ownText = s ++ escaped (fs.flatMap plain) := by
  have hcontent (s : List Char) : (contentParts s).flatMap Part.ownText = s := by
    cases s <;> simp [contentParts, Part.ownText]
  induction fs generalizing s with
  | nil => simp [parts, hcontent, escaped_nil]
  | cons f fs ih =>
      rw [parts, List.flatMap_cons, escaped_append]
      cases hmark : f.mark? with
      | none =>
          cases f with
          | text u => simp [ih, raw, plain]
          | _ => cases hmark
      | some p =>
          obtain ⟨-, -, hown, hplain⟩ := cutsInto_mark hmark
          simp [ih, hcontent, hown, hplain, escaped_nil]

end Fragment

/-- A block that is written out with its class alone, and fragments in it. -/
structure WrittenBlock where
  kind : BlockKind
  content : List Fragment

namespace WrittenBlock

variable (b : WrittenBlock)

def text : List Char :=
  openTagText b.kind.tagName b.kind.attributes ++
    (b.content.flatMap Fragment.raw ++ endTagText b.kind.tagName)

def plain : List Char :=
  b.content.flatMap Fragment.plain

def parts : List Part :=
  openTagPart b.kind.tagName b.kind.attributes {} :: Fragment.parts [] b.content ++
    [endTagPart b.kind.tagName {}]

theorem cutsInto : CutsInto b.text {} b.parts {} := by
  have hname : Markup.IsPlainName b.kind.tagName := by
    cases b.kind <;> decide
  have hstart := cutsInto_openTag (c := {}) hname b.kind.isPlain_attributes
    (by simp [BlockKind.attributes]) rfl (openTag_of_block b.kind.of?_attributes)
  have hstop : CutsInto (endTagText b.kind.tagName) {} [endTagPart b.kind.tagName {}] {} :=
    cutsInto_endTag hname rfl rfl
  exact hstart.append (Fragment.cutsInto_fragments List.not_mem_nil b.content hstop rfl)

/-- Where no element is open a block is collected as the texts of its fragments. -/
theorem collectTexts_eq (texts : List (List Char)) :
    collectTexts texts (visitsFrom [] b.parts) = .ok (escaped b.plain :: texts) ∧
      openedBehind [] b.parts = [] := by
  have hopens : Fragment.Inside b.kind
      ((openTagPart b.kind.tagName b.kind.attributes {}).opened []) := by
    have hof := b.kind.of?_attributes
    have hcontent : b.kind.tagName ∉ voidNames := by
      cases b.kind <;> decide
    exact ⟨0, by simp [Part.opened, openTagPart, hof, hcontent, Fragment.element]⟩
  have hstart : (openTagPart b.kind.tagName b.kind.attributes {}).block? = some b.kind :=
    b.kind.of?_attributes
  obtain ⟨hcollect, behind, hinside, hbehind⟩ := collectTexts_block (Fragment.Inside b.kind)
    (fun _ h => h.around) (fun p hp _ h => h.part hp)
    (fun p hp => Fragment.isPlain_of_mem_parts hp) (by rfl) hstart
    (isPlain_endTagPart b.kind.tagName {}) rfl hopens texts
  rw [Fragment.ownText_parts, List.nil_append] at hcollect
  exact ⟨hcollect, hbehind.trans hinside.endTag⟩

end WrittenBlock

end ShapeCoords.Page
