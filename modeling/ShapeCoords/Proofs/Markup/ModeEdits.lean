import ShapeCoords.Markup.Parsing
import ShapeCoords.Proofs.Markup.TableEdits

/-!
The edits of a token in each part of a document, and so of all tokens of a text. Nothing is open
before the root is made, and there is no way back to before that.
-/

namespace ShapeCoords.Markup

namespace Builder

variable {b c : Builder}

structure IsFresh (b : Builder) : Prop where
  opened : b.opened = []
  mode : b.mode.isEarly = true
  templates : b.templateModes = []

/-- The root was made, or nothing was. -/
def IsOnTrack (b : Builder) : Prop :=
  b.Begun ∨ b.IsFresh

theorem not_begun_of_isEarly (h : b.mode.isEarly = true) : ¬b.Begun :=
  fun hb => absurd (h.symm.trans hb.now) (by decide)

theorem IsOnTrack.report (h : b.IsOnTrack) (f : Fault) : (b.report f).IsOnTrack :=
  h.imp (fun hb => hb) fun hb => ⟨hb.opened, hb.mode, hb.templates⟩

theorem IsOnTrack.opened_eq (h : b.IsOnTrack) (hmode : b.mode.isEarly = true) : b.opened = [] :=
  h.elim (fun hb => absurd hb (not_begun_of_isEarly hmode)) IsFresh.opened

namespace LeadsTo

/-! In front of the body -/

section Start

variable (h : b.LeadsTo c)
include h

/-- The root is looked for. -/
theorem startRoot (hmode : c.mode = .initial) (followsOldRules : Bool) :
    b.LeadsTo ({ c with followsOldRules := followsOldRules }.enter .beforeHtml) :=
  h.closes { Closes.refl _ with } (fun hc => hc) fun hc =>
    absurd hc (not_begun_of_isEarly (by rw [hmode]; rfl))

theorem inInitial (hmode : c.mode = .initial) (token : Token) :
    b.LeadsTo (inInitial token c).1 := by
  have hroot := (h.report .unexpectedToken).startRoot (c := c.report _) hmode true
  unfold Builder.inInitial
  split
  · exact .stepIte h hroot
  · exact h
  · exact hroot

theorem insertRoot (hopened : c.opened = []) (attributes : List Attribute) :
    b.LeadsTo ((c.insertRoot attributes).enter .beforeHead) :=
  LeadsTo.enter (h.edit (fun _ => .opensRoot attributes hopened) (fun hc => hc) fun hc => hc) rfl

theorem beforeHtml (hopened : c.opened = []) (token : Token) :
    b.LeadsTo (beforeHtml token c).1 := by
  have hroot (attributes : List Attribute) := h.insertRoot hopened attributes
  unfold Builder.beforeHtml
  split
  · exact .stepIte h (hroot [])
  · exact h
  · split
    · exact .stepIte (hroot _) (hroot [])
    · exact .stepIte (hroot []) h.unexpected
  · exact hroot []

theorem openHead (t : Tag) : b.LeadsTo (c.openHead t) := by
  have hinsert := h.insertTag t
  refine LeadsTo.enter (c := { c.insertTag t with head := some (c.next t.element) }) ?_ rfl
  exact hinsert.closes
    { Closes.refl _ with head := .inr ⟨c.next t.element, List.mem_cons_self, rfl⟩ }
    (fun hc => hc) fun hc => hc

theorem beforeHead (token : Token) : b.LeadsTo (beforeHead token c).1 := by
  have hmissing := h.openHead ⟨.opening, "head", [], false⟩
  unfold Builder.beforeHead
  split
  · exact .stepIte h hmissing
  · exact h
  · split
    · exact .stepIte (h.repeatedRoot _) <| .stepIte (h.openHead _) hmissing
    · exact .stepIte hmissing h.unexpected
  · exact hmissing

theorem inHead (token : Token) : b.LeadsTo (inHead token c).1 := by
  have hleave : b.LeadsTo (c.pop.enter .afterHead) := h.pop.enter rfl
  unfold Builder.inHead
  split
  · exact .stepIte h hleave
  · exact h
  · split
    · exact .stepIte (h.repeatedRoot _) <| .stepIte (h.metadata _) <| .stepIte h.unexpected hleave
    · exact .stepIte hleave <| .stepIte (h.metadata _) <| .stepIte hleave h.unexpected
  · exact hleave

/-- The head is open only as long as it takes to put the metadata into it. -/
theorem metadataAfterHead {t : Tag} (ht : t.kind = .opening) :
    b.LeadsTo (c.metadataAfterHead t).1 := by
  rw [Builder.metadataAfterHead]
  dsimp only
  split
  · exact h.report _
  rename_i head hhead
  have hopen : b.LeadsTo
      ((((c.report .unexpectedToken).push head).insertTag t).closeOpen head.id) :=
    h.edit (fun _ => .opensInHead _ _ hhead) (fun hc => hc) fun hc => hc
  have hmake : b.LeadsTo
      ((((c.report .unexpectedToken).push head).insertEmptyTag t).closeOpen head.id) :=
    h.edit (fun _ => .makesInHead _ _ hhead) (fun hc => hc) fun hc => hc
  have htext := hopen.suspend .text rfl
  rw [Builder.metadata, ht]
  dsimp only
  split_ifs
  · exact hmake
  · exact htext
  · exact htext
  · exact hopen.pushMarker.forbidFrameset.enterTemplate
  · exact htext

theorem afterHead (token : Token) : b.LeadsTo (afterHead token c).1 := by
  have hmissing : b.LeadsTo ((c.insertPhantom "body").enter .inBody) := (h.insertPhantom _).enter rfl
  unfold Builder.afterHead
  split
  · exact .stepIte h hmissing
  · exact h
  · rename_i t
    split
    · rename_i ht
      exact .stepIte (h.repeatedRoot _) <|
        .stepIte ((h.insertTag _).forbidFrameset.enter rfl) <|
        .stepIte ((h.insertTag _).enter rfl) <| .stepIte (h.metadataAfterHead ht) <|
        .stepIte h.unexpected hmissing
    · exact .stepIte (h.metadata _) <| .stepIte h.unexpected <| .stepIte hmissing h.unexpected
  · exact hmissing

end Start

/-! Text, selections and templates -/

section Inside

variable (h : b.LeadsTo c)
include h

theorem inText (hmode : c.mode = .text) (token : Token) : b.LeadsTo (inText token c).1 := by
  have hmode : c.mode.isOrdinary = false := by rw [hmode]; rfl
  unfold Builder.inText
  split
  · exact ((h.report _).pop).resume (c := (c.report _).pop) hmode
  · exact h.pop.resume (c := c.pop) hmode
  · exact h

theorem leaveSelect : b.LeadsTo c.leaveSelect.1 :=
  (h.popThroughNamed _).resetMode

theorem openTagInSelect (t : Tag) : b.LeadsTo (c.openTagInSelect t).1 := by
  have hr := h.report .unexpectedToken
  have hoption : b.LeadsTo (if c.currentNamed "option" then c.pop else c) := .ite h.pop h
  unfold Builder.openTagInSelect
  exact .stepIte (h.repeatedRoot t) <| .stepIte (hoption.insertTag t) <|
    .stepIte ((LeadsTo.ite hoption.pop hoption).insertTag t) <|
    .stepIte (.stepIte (hr.popThroughNamed _).resetMode hr) <|
    .stepIte (.stepIte hr.leaveSelect hr) <| .stepIte (h.metadata t) h.unexpected

theorem closeTagInSelect (t : Tag) : b.LeadsTo (c.closeTagInSelect t).1 := by
  unfold Builder.closeTagInSelect
  exact .stepIte (.stepIte (LeadsTo.ite h.pop h).pop (LeadsTo.ite h.pop h).unexpected) <|
    .stepIte (.stepIte h.pop h.unexpected) <|
    .stepIte (.stepIte (h.popThroughNamed _).resetMode h.unexpected) <|
    .stepIte (h.metadata t) h.unexpected

theorem inSelect (token : Token) : b.LeadsTo (inSelect token c).1 := by
  unfold Builder.inSelect
  split
  · exact h.unexpected
  · split
    · exact h.openTagInSelect _
    · exact h.closeTagInSelect _
  · exact h.endOfTextInBody
  · exact h

theorem inSelectInTable (token : Token) : b.LeadsTo (inSelectInTable token c).1 := by
  have hr := h.report .unexpectedToken
  unfold Builder.inSelectInTable
  split
  · exact .stepIte (.stepIte hr.leaveSelect hr) (h.inSelect _)
  · exact h.inSelect _

theorem switchTemplate {mode : Mode} (hmode : mode.isOrdinary = true) :
    b.LeadsTo (c.switchTemplate mode).1 := by
  have hmodes : b.LeadsTo { c with templateModes := mode :: c.templateModes.tail } := by
    refine h.setTemplateModes fun hold m hm => ?_
    rcases List.mem_cons.1 hm with rfl | hm
    · exact hmode
    · exact hold m (List.mem_of_mem_tail hm)
  exact hmodes.enter hmode

theorem inTemplate (token : Token) : b.LeadsTo (inTemplate token c).1 := by
  unfold Builder.inTemplate
  split
  · exact h.unexpected
  · split
    · exact .stepIte (h.metadata _) <| .stepIte (h.switchTemplate rfl) <|
        .stepIte (h.switchTemplate rfl) <| .stepIte (h.switchTemplate rfl) <|
        .stepIte (h.switchTemplate rfl) (h.switchTemplate rfl)
    · exact .stepIte (h.metadata _) h.unexpected
  · exact h.endInTemplate
  · exact h.inBody _

/-! Behind the body, and framesets -/

theorem returnToBody : b.LeadsTo c.returnToBody.1 :=
  (h.report _).enter rfl

theorem afterBody (token : Token) : b.LeadsTo (afterBody token c).1 := by
  unfold Builder.afterBody
  split
  · exact .stepIte (h.textInBody _) h.returnToBody
  · exact h
  · exact h
  · refine .stepIte ?_ h.returnToBody
    split
    · exact h.repeatedRoot _
    · exact h.enter rfl
  · exact h.returnToBody

theorem afterAfterBody (token : Token) : b.LeadsTo (afterAfterBody token c).1 := by
  unfold Builder.afterAfterBody
  split
  · exact .stepIte (h.textInBody _) h.returnToBody
  · exact h
  · exact h
  · exact .stepIte (h.repeatedRoot _) h.returnToBody
  · exact h.returnToBody

theorem inFrameset (token : Token) : b.LeadsTo (inFrameset token c).1 := by
  unfold Builder.inFrameset
  split
  · exact .stepIte h h.unexpected
  · exact h
  · exact .stepIte h h.unexpected
  · split
    · exact .stepIte (h.repeatedRoot _) <| .stepIte (h.insertTag _) <|
        .stepIte (h.insertEmptyTag _) <| .stepIte (h.metadata _) h.unexpected
    · exact .stepIte (.ite h.pop (h.pop.enter rfl)) h.unexpected
  · exact h.unexpected

theorem afterFrameset (token : Token) : b.LeadsTo (afterFrameset token c).1 := by
  unfold Builder.afterFrameset
  split
  · exact .stepIte h h.unexpected
  · exact h
  · exact h
  · refine .stepIte ?_ (.stepIte (h.metadata _) h.unexpected)
    split
    · exact h.repeatedRoot _
    · exact h.enter rfl
  · exact h.unexpected

theorem afterAfterFrameset (token : Token) : b.LeadsTo (afterAfterFrameset token c).1 := by
  unfold Builder.afterAfterFrameset
  split
  · exact .stepIte (h.textInBody _) h.unexpected
  · exact h
  · exact h
  · split
    · exact .stepIte (h.repeatedRoot _) (.stepIte (h.metadata _) h.unexpected)
    · exact h.unexpected
  · exact h.unexpected

end Inside

/-! Any part -/

section Token

variable (h : b.LeadsTo c) (hc : c.IsOnTrack)
include h hc

theorem stepIn (token : Token) : b.LeadsTo (stepIn c.mode token c).1 := by
  cases hmode : c.mode with
  | initial => exact h.inInitial hmode token
  | beforeHtml => exact h.beforeHtml (hc.opened_eq (by rw [hmode]; rfl)) token
  | beforeHead => exact h.beforeHead token
  | inHead => exact h.inHead token
  | afterHead => exact h.afterHead token
  | inBody => exact h.inBody token
  | text => exact h.inText hmode token
  | inTable => exact h.inTable token
  | inTableText => exact h.inTableText hmode token
  | inCaption => exact h.inCaption token
  | inColumnGroup => exact h.inColumnGroup token
  | inTableBody => exact h.inTableBody token
  | inRow => exact h.inRow token
  | inCell => exact h.inCell token
  | inSelect => exact h.inSelect token
  | inSelectInTable => exact h.inSelectInTable token
  | inTemplate => exact h.inTemplate token
  | afterBody => exact h.afterBody token
  | inFrameset => exact h.inFrameset token
  | afterFrameset => exact h.afterFrameset token
  | afterAfterBody => exact h.afterAfterBody token
  | afterAfterFrameset => exact h.afterAfterFrameset token

omit hc in
theorem openTagInForeign (t : Tag) : b.LeadsTo (c.openTagInForeign t).1 := by
  refine .stepIte ((h.report _).pop.popUntilCurrent _) ?_
  split
  · exact h.insertForeign t _
  · exact h

theorem closeOuterForeign (t : Tag) {opened : List Open} (hopened : opened.Sublist c.opened) :
    b.LeadsTo (c.closeOuterForeign t opened).1 := by
  induction opened with
  | nil => exact h
  | cons o opened ih =>
      have hrest := (List.sublist_cons_self o opened).trans hopened
      cases opened with
      | nil => exact h
      | cons p opened =>
          exact .stepIte (h.stepIn hc _) (.stepIte (h.close hrest) (ih hrest))

theorem closeTagInForeign (t : Tag) : b.LeadsTo (c.closeTagInForeign t).1 := by
  unfold Builder.closeTagInForeign
  split
  · rename_i o below opened hopened
    refine .stepIte h.pop ((h.report _).closeOuterForeign (hc.report _) t ?_)
    show (below :: opened).Sublist c.opened
    rw [hopened]
    exact List.sublist_cons_self _ _
  · exact h

theorem inForeign (token : Token) : b.LeadsTo (inForeign token c).1 := by
  unfold Builder.inForeign
  split
  · exact h.unexpected
  · exact .ite h h.forbidFrameset
  · split
    · exact h.openTagInForeign _
    · exact h.closeTagInForeign hc _
  · exact h

theorem step (token : Token) : b.LeadsTo (c.step token).1 := by
  unfold Builder.step
  split
  · exact .stepIte (h.stepIn hc token) (h.inForeign hc token)
  · exact h.stepIn hc token

end Token

end LeadsTo

end Builder

end ShapeCoords.Markup
