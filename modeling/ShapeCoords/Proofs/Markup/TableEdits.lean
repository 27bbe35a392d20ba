import ShapeCoords.Proofs.Markup.BodyEdits

/-!
The edits of the rules for tokens inside of tables, rule by rule. Content moves in front of a table
only behind a fault.
-/

namespace ShapeCoords.Markup.Builder.LeadsTo

variable {b c : Builder}

/-! Misplaced content -/

theorem fosterInBody (h : b.LeadsTo c) {f : Fault} (hf : f.misplaces = true) (token : Token) :
    b.LeadsTo ((c.report f).fosterInBody token).1 :=
  have hfoster := h.edit (fun _ => .fosters c hf) (fun hc => hc) fun hc => hc
  (hfoster.inBody token).endFostering

theorem agreesElsewhere_textInBody (c : Builder) (s : List Char) :
    c.AgreesElsewhere (c.textInBody s).1 := by
  have h := agreesElsewhere_reconstruct c
  rw [Builder.textInBody]
  split
  · exact h
  · exact ⟨h.mode, h.modeBehindText, h.templateModes, h.head, h.fosters, h.faults⟩

/-- Texts go in front of a table one after the other, as if fostering never stopped in between. -/
theorem fosterTexts (texts : List (List Char)) (h : b.LeadsTo { c with fosters := true }) :
    b.LeadsTo { texts.foldl (fun d s => (d.fosterInBody (.text s)).1) c with fosters := true } ∧
      (texts.foldl (fun d s => (d.fosterInBody (.text s)).1) c).mode = c.mode ∧
      (texts.foldl (fun d s => (d.fosterInBody (.text s)).1) c).modeBehindText =
        c.modeBehindText := by
  induction texts generalizing c with
  | nil => exact ⟨h, rfl, rfl⟩
  | cons s texts ih =>
      let d := ({ c with fosters := true }.textInBody s).1
      have hd : { c with fosters := true }.AgreesElsewhere d := agreesElsewhere_textInBody _ s
      have hfosters : b.LeadsTo { d with fosters := true } :=
        (h.textInBody s).closes { Closes.refl _ with fosters := fun _ => hd.fosters }
          (fun hc => hc) fun hc => hc
      have hnext := ih (c := { d with fosters := false }) hfosters
      exact ⟨hnext.1, hnext.2.1.trans hd.mode, hnext.2.2.trans hd.modeBehindText⟩

theorem flushTableTexts (h : b.LeadsTo c) :
    b.LeadsTo c.flushTableTexts ∧ c.flushTableTexts.mode = c.mode ∧
      c.flushTableTexts.modeBehindText = c.modeBehindText := by
  have h' := h.setTableTexts []
  rw [Builder.flushTableTexts]
  split
  · exact ⟨h', rfl, rfl⟩
  · obtain ⟨htexts, hmodes⟩ := fosterTexts c.tableTexts.reverse
      (h'.edit (fun _ => .fosters _ (f := .nonSpaceInTable) rfl) (fun hc => hc) fun hc => hc)
    exact ⟨htexts.closes { Closes.refl _ with fosters := fun _ => rfl } (fun hc => hc) fun hc => hc,
      hmodes⟩

theorem inTableText (h : b.LeadsTo c) (hmode : c.mode = .inTableText) (token : Token) :
    b.LeadsTo (inTableText token c).1 := by
  obtain ⟨hflush, hnow, hbehind⟩ := h.flushTableTexts
  have hleave : b.LeadsTo (c.flushTableTexts.enter c.modeBehindText) := by
    rw [← hbehind]
    exact hflush.resume (by rw [hnow, hmode]; rfl)
  unfold Builder.inTableText
  split
  · exact h.unexpected
  · exact h.setTableTexts _
  · exact hleave

theorem textInTable (h : b.LeadsTo c) (token : Token) : b.LeadsTo (c.textInTable token).1 :=
  .stepIte (h.suspend _ rfl) (h.fosterInBody rfl token)

/-! Parts of tables -/

section Parts

variable (h : b.LeadsTo c)
include h

theorem openPart (context : ElementName → Bool) {mode : Mode} (hmode : mode.isOrdinary = true)
    (t : Tag) : b.LeadsTo (c.openPart context mode t) :=
  ((h.popUntilCurrent context).insertTag t).enter hmode

theorem openMissingPart (context : ElementName → Bool) {mode : Mode}
    (hmode : mode.isOrdinary = true) (name : String) :
    b.LeadsTo (c.openMissingPart context mode name).1 :=
  ((h.popUntilCurrent context).insertPhantom name).enter hmode

theorem openTagInTable (t : Tag) : b.LeadsTo (c.openTagInTable t).1 := by
  have hr := h.report .unexpectedToken
  unfold Builder.openTagInTable
  exact .stepIte (((h.popUntilCurrent _).pushMarker.insertTag t).enter rfl) <|
    .stepIte (h.openPart _ rfl t) <| .stepIte (h.openMissingPart _ rfl _) <|
    .stepIte (h.openPart _ rfl t) <| .stepIte (h.openMissingPart _ rfl _) <|
    .stepIte (.stepIte (hr.popThroughNamed _).resetMode hr) <| .stepIte (h.metadata t) <|
    .stepIte (.stepIte (hr.insertEmptyTag t) (h.fosterInBody rfl _)) <|
    .stepIte (.stepIte ((hr.insertEmptyTag t).setForm _) hr) (h.fosterInBody rfl _)

theorem closeTagInTable (t : Tag) : b.LeadsTo (c.closeTagInTable t).1 := by
  unfold Builder.closeTagInTable
  exact .stepIte (.stepIte (h.popThroughNamed _).resetMode h.unexpected) <|
    .stepIte h.unexpected <| .stepIte (h.metadata t) (h.fosterInBody rfl _)

theorem inTable (token : Token) : b.LeadsTo (inTable token c).1 := by
  unfold Builder.inTable
  split
  · split
    · exact h.openTagInTable _
    · exact h.closeTagInTable _
  · exact h.endOfTextInBody
  · exact h
  · exact h.textInTable _

theorem closeCaption : b.LeadsTo c.closeCaption :=
  (h.endImplied.expectToClose _).clearFormattingToMarker.enter rfl

theorem inCaption (token : Token) : b.LeadsTo (inCaption token c).1 := by
  unfold Builder.inCaption
  split
  · exact .stepIte (.stepIte (.stepIte h.closeCaption h.closeCaption) h.unexpected) <|
      .stepIte h.unexpected (h.inBody _)
  · exact h.inBody _

theorem leaveColumnGroup : b.LeadsTo c.leaveColumnGroup.1 :=
  .stepIte (h.pop.enter rfl) h.unexpected

theorem inColumnGroup (token : Token) : b.LeadsTo (inColumnGroup token c).1 := by
  unfold Builder.inColumnGroup
  split
  · exact .stepIte h h.leaveColumnGroup
  · exact h
  · exact h.endOfTextInBody
  · split
    · exact .stepIte (h.repeatedRoot _) <| .stepIte (h.insertEmptyTag _) <|
        .stepIte (h.metadata _) h.leaveColumnGroup
    · exact .stepIte (.stepIte (h.pop.enter rfl) h.unexpected) <| .stepIte h.unexpected <|
        .stepIte (h.metadata _) h.leaveColumnGroup
  · exact h.leaveColumnGroup

theorem closeGroup : b.LeadsTo c.closeGroup :=
  (h.popUntilCurrent _).pop.enter rfl

theorem leaveGroup : b.LeadsTo c.leaveGroup.1 :=
  .stepIte h.closeGroup h.unexpected

theorem inTableBody (token : Token) : b.LeadsTo (inTableBody token c).1 := by
  unfold Builder.inTableBody
  split
  · split
    · exact .stepIte (h.openPart _ rfl _) <|
        .stepIte ((h.report _).openMissingPart _ rfl _) <| .stepIte h.leaveGroup (h.inTable _)
    · exact .stepIte (.stepIte h.closeGroup h.unexpected) <| .stepIte h.leaveGroup <|
        .stepIte h.unexpected (h.inTable _)
  · exact h.inTable _

theorem closeRow : b.LeadsTo c.closeRow :=
  (h.popUntilCurrent _).pop.enter rfl

theorem leaveRow : b.LeadsTo c.leaveRow.1 :=
  .stepIte h.closeRow h.unexpected

theorem inRow (token : Token) : b.LeadsTo (inRow token c).1 := by
  unfold Builder.inRow
  split
  · split
    · exact .stepIte (h.openPart _ rfl _).pushMarker <| .stepIte h.leaveRow (h.inTable _)
    · exact .stepIte (.stepIte h.closeRow h.unexpected) <| .stepIte h.leaveRow <|
        .stepIte (.stepIte (.stepIte h.closeRow h) h.unexpected) <|
        .stepIte h.unexpected (h.inTable _)
  · exact h.inTable _

theorem leaveCell : b.LeadsTo c.leaveCell.1 :=
  (h.endImplied.closeExpecting _ _).clearFormattingToMarker.enter rfl

theorem inCell (token : Token) : b.LeadsTo (inCell token c).1 := by
  unfold Builder.inCell
  split
  · split
    · exact .stepIte (.stepIte h.leaveCell h.unexpected) (h.inBody _)
    · exact .stepIte (.stepIte
          ((h.endImplied.expectToClose _).clearFormattingToMarker.enter rfl) h.unexpected) <|
        .stepIte h.unexpected <| .stepIte (.stepIte h.leaveCell h.unexpected) (h.inBody _)
  · exact h.inBody _

end Parts

end ShapeCoords.Markup.Builder.LeadsTo
