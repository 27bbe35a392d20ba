import ShapeCoords.Proofs.Markup.MisnestingEdits

/-!
The edits of the rules for tags of metadata and for tokens inside of the body, rule by rule.
-/

namespace ShapeCoords.Markup.Builder.LeadsTo

variable {b c : Builder}

theorem stepIf {p : Prop} [Decidable p] {x y : Step} (hx : p → b.LeadsTo x.1)
    (hy : b.LeadsTo y.1) : b.LeadsTo (if p then x else y).1 := by
  split
  · exact hx ‹p›
  · exact hy

theorem stepIte {p : Prop} [Decidable p] {x y : Step} (hx : b.LeadsTo x.1) (hy : b.LeadsTo y.1) :
    b.LeadsTo (if p then x else y).1 :=
  .stepIf (fun _ => hx) hy

theorem unexpected (h : b.LeadsTo c) : b.LeadsTo c.unexpected.1 :=
  h.report _

/-! Metadata -/

theorem setTemplateModes (h : b.LeadsTo c) {modes : List Mode}
    (hmodes : (∀ m ∈ c.templateModes, m.isOrdinary = true) → ∀ m ∈ modes, m.isOrdinary = true) :
    b.LeadsTo { c with templateModes := modes } :=
  h.closes { Closes.refl c with } (fun hc => hc) fun hc => ⟨hc.now, hc.behind, hmodes hc.templates⟩

theorem enterTemplate (h : b.LeadsTo c) :
    b.LeadsTo { c.enter .inTemplate with templateModes := .inTemplate :: c.templateModes } := by
  have henter : b.LeadsTo (c.enter .inTemplate) := h.enter rfl
  refine henter.setTemplateModes fun hmodes m hm => ?_
  rcases List.mem_cons.1 hm with rfl | hm
  · rfl
  · exact hmodes m hm

theorem openTemplate (h : b.LeadsTo c) (t : Tag) : b.LeadsTo (c.openTemplate t).1 :=
  (h.insertTag t).pushMarker.forbidFrameset.enterTemplate

theorem leaveTemplate (h : b.LeadsTo c) : b.LeadsTo c.leaveTemplate :=
  (h.clearFormattingToMarker.setTemplateModes fun hmodes m hm =>
    hmodes m (List.mem_of_mem_tail hm)).resetMode

theorem closeTemplate (h : b.LeadsTo c) : b.LeadsTo c.closeTemplate.1 :=
  .stepIte ((h.popWhile _).expectToClose _).leaveTemplate h.unexpected

theorem metadata (h : b.LeadsTo c) (t : Tag) : b.LeadsTo (c.metadata t).1 := by
  rw [Builder.metadata]
  split
  · exact h.closeTemplate
  · exact .stepIte (h.insertEmptyTag t) <| .stepIte (h.insertTextElement t _) <|
      .stepIte (h.insertTextElement t _) <| .stepIte (h.openTemplate t) (h.insertTextElement t _)

theorem repeatedRoot (h : b.LeadsTo c) (t : Tag) : b.LeadsTo (c.repeatedRoot t).1 := by
  rw [Builder.repeatedRoot]
  split
  · exact (h.report _).addAttributes _ _
  · exact h.report _

theorem endInTemplate (h : b.LeadsTo c) : b.LeadsTo c.endInTemplate.1 :=
  .stepIte ((h.report _).popThroughNamed _).leaveTemplate h

/-! Opening tags in the body -/

section Opening

variable (h : b.LeadsTo c) (t : Tag)
include h

theorem checkBodyEnd : b.LeadsTo c.checkBodyEnd :=
  .ite h (h.report _)

theorem repeatedBody : b.LeadsTo (c.repeatedBody t).1 := by
  rw [Builder.repeatedBody]
  split
  · exact ((h.report _).addAttributes _ _).forbidFrameset
  · exact h.report _

theorem replaceBody : b.LeadsTo (c.replaceBody t).1 := by
  rw [Builder.replaceBody]
  split
  · rename_i o _ _
    have hdrop := h.edit (fun _ => .drops o.id (List.drop_sublist (c.opened.length - 1) _))
      (fun hc => hc) fun hc => hc
    exact (hdrop.insertTag t).enter rfl
  · exact h.report _

theorem openHeading : b.LeadsTo (c.openHeading t).1 :=
  have h := h.closeParagraphInScope
  (LeadsTo.ite (h.report _).pop h).insertTag t

theorem openForm : b.LeadsTo (c.openForm t).1 :=
  have hinsert := h.closeParagraphInScope.insertTag t
  .stepIte (h.report _) (.stepIte hinsert (hinsert.setForm _))

theorem openItem : b.LeadsTo (c.openItem t).1 := by
  have h := h.forbidFrameset
  rw [Builder.openItem]
  split
  · exact ((h.endImpliedExcept _).expectToClose _).closeParagraphInScope.insertTag t
  · exact h.closeParagraphInScope.insertTag t

theorem openButton : b.LeadsTo (c.openButton t).1 :=
  have h := LeadsTo.ite ((h.report .nestedButtons).endImplied.popThroughNamed "button") h
  (h.reconstruct.insertTag t).forbidFrameset

theorem openSelect : b.LeadsTo (c.openSelect t).1 := by
  have h := (h.reconstruct.insertTag t).forbidFrameset
  refine h.enter ?_
  split <;> rfl

theorem insertReplaced : b.LeadsTo (c.insertReplaced t).1 :=
  have h := h.reconstruct.insertEmptyTag t
  .stepIte h h.forbidFrameset

theorem openRuby : b.LeadsTo (c.openRuby t).1 :=
  have h := LeadsTo.ite (LeadsTo.ite (h.endImpliedExcept "rtc") h.endImplied) h
  (LeadsTo.ite h (h.report _)).insertTag t

theorem insertForeign (space : Namespace) : b.LeadsTo (c.insertForeign space t).1 :=
  .stepIte (h.insertEmpty _ _) (h.insert _ _)

omit t in
theorem closeLink : b.LeadsTo c.closeLink := by
  rw [Builder.closeLink]
  split
  · exact (((h.report _).closeFormatting "a").removeFormatting _).closeOpen _
  · exact h

variable {t}

theorem openNobr (ht : t.element.takesMisplaced = false) : b.LeadsTo (c.openNobr t).1 :=
  have h := h.reconstruct
  have h := LeadsTo.ite ((h.report .nestedNobr).closeFormatting "nobr").reconstruct h
  h.insertFormatting ht

end Opening

/-! End tags in the body -/

section Closing

variable (h : b.LeadsTo c) (t : Tag)
include h

theorem endOfBody : b.LeadsTo c.endOfBody.1 :=
  .stepIte (h.checkBodyEnd.enter rfl) (h.report _)

theorem endOfRoot : b.LeadsTo c.endOfRoot.1 :=
  .stepIte (h.checkBodyEnd.enter rfl) (h.report _)

theorem closeBlock : b.LeadsTo (c.closeBlock t).1 :=
  .stepIte (h.endImplied.expectToClose _) h.unexpected

theorem closeItem : b.LeadsTo (c.closeItem t).1 :=
  .stepIte ((h.endImpliedExcept _).expectToClose _) (h.report _)

theorem closeHeading : b.LeadsTo (c.closeHeading t).1 :=
  have h' := h.endImplied
  .stepIte ((LeadsTo.ite h' (h'.report _)).popThrough _) (h.report _)

theorem closeEnclosed : b.LeadsTo (c.closeEnclosed t).1 :=
  .stepIte (h.endImplied.expectToClose _).clearFormattingToMarker h.unexpected

omit t in
theorem closeForm : b.LeadsTo c.closeForm.1 := by
  rw [Builder.closeForm]
  split
  · have h' := h.endImplied
    exact .stepIte ((LeadsTo.ite h' (h'.report _)).popThroughNamed _) (h.report _)
  · split
    · exact h.report _
    · rename_i id _
      have h := h.setForm none
      have h' := h.endImplied.closeOpen id
      exact .stepIte (.ite h' (h'.report _)) (h.report _)

end Closing

/-! The body -/

theorem takesMisplaced_of_formattingName {t : Tag}
    (ht : ("a" :: "nobr" :: formattingNames).contains t.name = true) :
    t.element.takesMisplaced = false := by
  have hall : ∀ name ∈ "a" :: "nobr" :: formattingNames,
      ElementName.takesMisplaced ⟨.html, name⟩ = false := by decide
  exact hall _ (List.contains_iff_mem.1 ht)

theorem openTagInBody (h : b.LeadsTo c) (t : Tag) : b.LeadsTo (c.openTagInBody t).1 := by
  unfold Builder.openTagInBody
  exact .stepIte (h.repeatedRoot t) <| .stepIte (h.metadata t) <| .stepIte (h.repeatedBody t) <|
    .stepIte (h.replaceBody t) <| .stepIte (h.closeParagraphInScope.insertTag t) <|
    .stepIte (h.openHeading t) <|
    .stepIte ((h.closeParagraphInScope.insertTag t).setSkipsNewline true).forbidFrameset <|
    .stepIte (h.openForm t) <| .stepIte (h.openItem t) <|
    .stepIte (h.closeParagraphInScope.insertTag t) <| .stepIte (h.openButton t) <|
    .stepIf (fun ht => h.closeLink.reconstruct.insertFormatting
      (takesMisplaced_of_formattingName (by simp [ht]))) <|
    .stepIf (fun ht => h.reconstruct.insertFormatting
      (takesMisplaced_of_formattingName (List.contains_iff_mem.2
        (.tail _ (.tail _ (List.contains_iff_mem.1 ht)))))) <|
    .stepIf (fun ht => h.openNobr (takesMisplaced_of_formattingName (by simp [ht]))) <|
    .stepIte (h.reconstruct.insertTag t).pushMarker.forbidFrameset <|
    .stepIte (((LeadsTo.ite h h.closeParagraphInScope).insertTag t).forbidFrameset.enter rfl) <|
    .stepIte (h.insertReplaced t) <| .stepIte (h.insertEmptyTag t) <|
    .stepIte (h.closeParagraphInScope.insertEmptyTag t).forbidFrameset <|
    .stepIte ((h.report _).insertReplaced _) <|
    .stepIte ((h.forbidFrameset.setSkipsNewline true).insertTextElement t _) <|
    .stepIte (h.closeParagraphInScope.reconstruct.forbidFrameset.insertTextElement t _) <|
    .stepIte (h.forbidFrameset.insertTextElement t _) <| .stepIte (h.insertTextElement t _) <|
    .stepIte (h.openSelect t) <| .stepIte ((LeadsTo.ite h.pop h).reconstruct.insertTag t) <|
    .stepIte (h.openRuby t) <| .stepIte (h.insertForeign t _) <| .stepIte (h.insertForeign t _) <|
    .stepIte h.unexpected (h.reconstruct.insertTag t)

theorem closeTagInBody (h : b.LeadsTo c) (t : Tag) : b.LeadsTo (c.closeTagInBody t).1 := by
  unfold Builder.closeTagInBody
  exact .stepIte (h.metadata t) <| .stepIte h.endOfBody <| .stepIte h.endOfRoot <|
    .stepIte (h.closeBlock t) <| .stepIte h.closeForm <|
    .stepIte (LeadsTo.ite h ((h.report _).insertPhantom _)).closeParagraph <|
    .stepIte (h.closeItem t) <| .stepIte (h.closeHeading t) <|
    .stepIte (h.closeFormatting _) <| .stepIte (h.closeEnclosed t) <|
    .stepIte ((h.report _).insertReplaced _) (h.closeNamed _)

theorem textInBody (h : b.LeadsTo c) (s : List Char) : b.LeadsTo (c.textInBody s).1 :=
  .ite h.reconstruct h.reconstruct.forbidFrameset

theorem endOfTextInBody (h : b.LeadsTo c) : b.LeadsTo c.endOfTextInBody.1 :=
  .stepIte h.checkBodyEnd h.endInTemplate

theorem inBody (h : b.LeadsTo c) (token : Token) : b.LeadsTo (inBody token c).1 := by
  cases token with
  | null => exact h.unexpected
  | text s => exact h.textInBody s
  | tag t =>
      rw [Builder.inBody]
      split
      · exact h.openTagInBody t
      · exact h.closeTagInBody t
  | endOfText => exact h.endOfTextInBody
  | comment => exact h
  | doctype d => exact h

end ShapeCoords.Markup.Builder.LeadsTo
