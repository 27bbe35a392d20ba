import ShapeCoords.Proofs.Markup.ModeEdits

/-!
The edits of a whole text: whatever a text holds, its tree comes of edits of the empty one.
-/

namespace ShapeCoords.Markup

namespace Builder

variable {b c : Builder}

/-- One state comes from another one, and the root was made, or nothing was. -/
structure GoesTo (b c : Builder) : Prop extends b.LeadsTo c where
  onTrack : c.IsOnTrack

/-! One token -/

theorem IsFresh.stepIn (h : c.IsFresh) (token : Token) :
    (stepIn c.mode token c).1.IsOnTrack := by
  have hfresh : c.IsOnTrack := .inr h
  have hroot (attributes : List Attribute) :
      ((c.insertRoot attributes).enter .beforeHead).IsOnTrack := by
    refine .inl (.of_isOrdinary rfl fun m hm => ?_)
    have : m ∈ c.templateModes := hm
    rw [h.templates] at this
    cases this
  cases hmode : c.mode with
  | initial =>
      have hnext : ({ c.report .unexpectedToken with followsOldRules := true }.enter
          .beforeHtml).IsOnTrack := .inr ⟨h.opened, rfl, h.templates⟩
      show (inInitial token c).1.IsOnTrack
      unfold inInitial
      split
      · split
        · exact hfresh
        · exact hnext
      · exact hfresh
      · exact hnext
  | beforeHtml =>
      show (beforeHtml token c).1.IsOnTrack
      unfold beforeHtml
      split
      · split
        · exact hfresh
        · exact hroot []
      · exact hfresh
      · split
        · split
          · exact hroot _
          · exact hroot []
        · split
          · exact hroot []
          · exact hfresh.report _
      · exact hroot []
  | _ => exact absurd h.mode (by rw [hmode]; decide)

theorem IsOnTrack.step (h : c.IsOnTrack) (token : Token) : (c.step token).1.IsOnTrack := by
  rcases h with hbegun | hfresh
  · exact .inl (((LeadsTo.refl c).step (.inl hbegun) token).begun hbegun)
  · have hcurrent : c.current? = none := by rw [current?, hfresh.opened, List.head?_nil]
    rw [Builder.step, hcurrent]
    exact hfresh.stepIn token

namespace GoesTo

theorem refl (h : b.IsOnTrack) : b.GoesTo b :=
  ⟨.refl b, h⟩

section Steps

variable (h : b.GoesTo c)
include h

theorem step (token : Token) : b.GoesTo (c.step token).1 :=
  ⟨h.toLeadsTo.step h.onTrack token, h.onTrack.step token⟩

theorem report (f : Fault) : b.GoesTo (c.report f) :=
  ⟨h.toLeadsTo.report f, h.onTrack.report f⟩

theorem setSkipsNewline (skips : Bool) : b.GoesTo { c with skipsNewline := skips } :=
  ⟨h.toLeadsTo.setSkipsNewline skips,
    h.onTrack.imp (fun hc => hc) fun hc => ⟨hc.opened, hc.mode, hc.templates⟩⟩

end Steps

theorem settle (n : Nat) (token : Token) (behind : List Char) (h : b.GoesTo c) :
    b.GoesTo (settle n token behind c).1 := by
  induction n generalizing c token behind with
  | zero => exact h
  | succ n ih =>
      rw [Builder.settle]
      obtain ⟨token, rest⟩ := c.portion token
      have goOn {d : Builder} (hd : b.GoesTo d) : b.GoesTo
          (if (rest ++ behind).isEmpty then ((d, none) : Builder × Option Content)
            else Builder.settle n (.text (rest ++ behind)) [] d).1 := by
        split
        · exact hd
        · exact ih _ _ hd
      have hstep := h.step token
      dsimp only
      split
      · rename_i d hd
        rw [hd] at hstep
        refine goOn ?_
        split
        · exact hstep.report _
        · exact hstep
      · rename_i d hd
        rw [hd] at hstep
        exact goOn hstep
      · rename_i d hd
        rw [hd] at hstep
        exact ih _ _ hstep
      · rename_i d content hd
        rw [hd] at hstep
        exact hstep

theorem startRoot (h : b.GoesTo c) (hmode : c.mode = .initial) (followsOldRules : Bool) :
    b.GoesTo ({ c with followsOldRules := followsOldRules }.enter .beforeHtml) := by
  have hearly : c.mode.isEarly = true := by rw [hmode]; rfl
  have hfresh : c.IsFresh := h.onTrack.resolve_left (not_begun_of_isEarly hearly)
  exact ⟨h.toLeadsTo.startRoot hmode followsOldRules, .inr ⟨hfresh.opened, rfl, hfresh.templates⟩⟩

theorem takeDoctype (h : b.GoesTo c) (d : Doctype) : b.GoesTo (c.takeDoctype d) := by
  rw [Builder.takeDoctype]
  split
  · rename_i hmode
    split
    · exact h.startRoot hmode _
    · exact (h.report _).startRoot (c := c.report _) hmode _
  · exact h.report _

theorem takeToken (h : b.GoesTo c) (token : Token) : b.GoesTo (c.takeToken token).1 := by
  have h := h.setSkipsNewline false
  have htext (s : List Char) (n : Nat) : b.GoesTo
      (if s.isEmpty then (({ c with skipsNewline := false }, none) : Builder × Option Content)
        else Builder.settle n (.text s) [] { c with skipsNewline := false }).1 := by
    split
    · exact h
    · exact h.settle _ _ _
  unfold Builder.takeToken
  dsimp only
  split
  · exact h.takeDoctype _
  · exact htext _ _
  · exact h.settle _ _ _

theorem takeItem (h : b.GoesTo c) (item : Item) : b.GoesTo (c.takeItem item).1 := by
  cases item with
  | fault f => exact (h.setSkipsNewline false).report f
  | token token => exact h.takeToken token

theorem takeItems (h : b.GoesTo c) (items : List Item) : b.GoesTo (c.takeItems items).1 := by
  induction items generalizing c with
  | nil => exact h
  | cons item items ih => exact ih (h.takeItem item)

theorem build (n : Nat) (src : Source) (content : Content) (h : b.GoesTo c) :
    b.GoesTo (build n src content c) := by
  induction n generalizing src content c with
  | zero => exact h
  | succ n ih =>
      rw [Markup.build]
      split
      · exact h.takeToken .endOfText
      · exact ih _ _ (h.takeItems _)

end GoesTo

end Builder

end ShapeCoords.Markup
