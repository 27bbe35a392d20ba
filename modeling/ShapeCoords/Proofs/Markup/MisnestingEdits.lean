import Mathlib.Data.List.TakeWhile
import ShapeCoords.Proofs.Markup.Edits

/-!
The edits of end tags of formatting. A block moves out of formatting only if that is not the
innermost open element, which is a fault.
-/

namespace ShapeCoords.Markup

theorem ElementName.takesMisplaced_of_endsScope {e : ElementName} (h : e.endsScope = false) :
    e.takesMisplaced = false := by
  rw [Bool.eq_false_iff] at h ⊢
  intro htakes
  rw [takesMisplaced, isNamed, isNamed, ← Bool.and_or_distrib_left, Bool.and_eq_true] at htakes
  obtain ⟨hspace, hname⟩ := htakes
  refine h ?_
  rw [endsScope, isHtml, hspace]
  rcases Bool.or_eq_true _ _ ▸ hname with hname | hname <;> simp [beq_iff_eq.1 hname]

namespace Builder

/-! A chain of copies -/

theorem Chain.agreesElsewhere_extend (c : Chain) (n : Nat) (between : List Open) :
    c.builder.AgreesElsewhere (c.extend n between).builder := by
  induction between generalizing c n with
  | nil => exact ⟨rfl, rfl, rfl, rfl, rfl, rfl⟩
  | cons o between ih =>
      rw [extend]
      split
      · have hcopy (tag : Tag) : c.builder.AgreesElsewhere (c.copy o tag).builder :=
          ⟨rfl, rfl, rfl, rfl, rfl, rfl⟩
        exact (hcopy _).trans (ih _ _)
      · have hremove : c.builder.AgreesElsewhere (c.builder.removeFormatting o.id) :=
          ⟨rfl, rfl, rfl, rfl, rfl, rfl⟩
        exact hremove.trans (ih { c with builder := c.builder.removeFormatting o.id } _)

theorem isPlain_map_replace {formatting : List Formatting} (h : IsPlain formatting) (id : Nat)
    (new : Open) {tag : Tag} (htag : tag.element.takesMisplaced = false) :
    IsPlain (formatting.map fun f => if isEntryOf id f then .element new tag else f) := by
  intro o t hmem
  obtain ⟨f, hf, heq⟩ := List.mem_map.1 hmem
  split at heq
  · cases heq
    exact htag
  · exact h o t (heq ▸ hf)

theorem Chain.isPlain_extend {c : Chain} (h : IsPlain c.builder.formatting) (n : Nat)
    (between : List Open) : IsPlain (c.extend n between).builder.formatting := by
  induction between generalizing c n with
  | nil => exact h
  | cons o between ih =>
      rw [extend]
      split
      · rename_i hentry
        exact ih (isPlain_map_replace h _ _ (h _ _ (List.mem_of_find?_eq_some hentry))) (n + 1)
      · exact ih (c := { c with builder := c.builder.removeFormatting o.id })
          (fun p t hmem => h p t (List.eraseP_sublist.subset hmem)) (n + 1)

theorem isPlain_placeFormatting {formatting : List Formatting} (h : IsPlain formatting) (old : Nat)
    (new : Open) {tag : Tag} (htag : tag.element.takesMisplaced = false) (bookmark : Bookmark) :
    IsPlain (placeFormatting old (.element new tag) bookmark formatting) := by
  cases bookmark with
  | inPlace => exact isPlain_map_replace h old new htag
  | behind id =>
      intro o t hmem
      obtain ⟨f, hf, hin⟩ := List.mem_flatMap.1 (List.eraseP_sublist.subset hmem)
      split at hin
      · rcases List.mem_cons.1 hin with heq | hin
        · cases heq
          exact htag
        · exact h o t (List.mem_singleton.1 hin ▸ hf)
      · exact h o t (List.mem_singleton.1 hin ▸ hf)

section MoveOut

variable (b : Builder) (target block : Open) (tag : Tag) (above between below : List Open)

theorem agreesElsewhere_moveOut :
    b.AgreesElsewhere (b.moveOut target tag above block between below) :=
  let h := Chain.agreesElsewhere_extend { builder := b, last := block.id } 0 between
  ⟨h.mode, h.modeBehindText, h.templateModes, h.head, h.fosters, h.faults⟩

theorem isPlain_moveOut {b : Builder} (h : IsPlain b.formatting)
    (htag : tag.element.takesMisplaced = false) :
    IsPlain (b.moveOut target tag above block between below).formatting :=
  isPlain_placeFormatting
    (Chain.isPlain_extend (c := { builder := b, last := block.id }) h 0 between) _ _ htag _

end MoveOut

/-! Finding the block -/

theorem splitAtLast_eq_some {p : Open → Bool} {l above between : List Open} {block : Open}
    (h : splitAtLast p l = some (above, block, between)) : l = above ++ block :: between := by
  unfold splitAtLast at h
  dsimp only at h
  split at h
  · cases h
  · rename_i o front hdrop
    cases h
    have := l.reverse.takeWhile_append_dropWhile (p := fun o => !p o)
    rw [hdrop] at this
    simpa using (congrArg List.reverse this).symm

theorem endsScope_of_inScope {p : Open → Bool} {opened : List Open}
    (h : inScope ElementName.endsScope p opened = true) {o : Open}
    (ho : o ∈ opened.takeWhile fun o => !p o) : o.element.endsScope = false := by
  induction opened with
  | nil => cases ho
  | cons first opened ih =>
      rw [inScope, Bool.or_eq_true, Bool.and_eq_true, Bool.not_eq_true'] at h
      cases hfirst : p first with
      | true =>
          rw [List.takeWhile_cons_of_neg (by simp [hfirst])] at ho
          cases ho
      | false =>
          rw [List.takeWhile_cons_of_pos (by simp [hfirst])] at ho
          obtain hp | ⟨hends, hrest⟩ := h
          · cases hfirst.symm.trans hp
          rcases List.mem_cons.1 ho with rfl | ho
          · exact hends
          · exact ih hrest ho

namespace LeadsTo

variable {b c : Builder}

theorem closeNamed (h : b.LeadsTo c) (name : String) : b.LeadsTo (c.closeNamed name) :=
  .ite ((h.endImpliedExcept name).closeExpecting _ _) (h.report _)

/-- The block is open inside of the formatting, so that is not the innermost open element. -/
theorem moveOut (h : b.LeadsTo c) {target block : Open} {tag : Tag} {above between : List Open}
    (hentry : .element target tag ∈ c.formatting)
    (hscope : inScope ElementName.endsScope (fun o => o.id == target.id) c.opened = true)
    (hopen : c.opened.any (fun o => o.id == target.id) = true)
    (hsplit : c.opened.takeWhile (fun o => !(o.id == target.id)) = above ++ block :: between) :
    b.LeadsTo ((c.report .formattingNotCurrent).moveOut target tag above block between
      (c.opened.dropWhile fun o => !(o.id == target.id)).tail) := by
  have hdrop : ∃ outer below, (c.opened.dropWhile fun o => !(o.id == target.id)) = outer :: below ∧
      outer.id = target.id := by
    cases hcase : c.opened.dropWhile fun o => !(o.id == target.id) with
    | nil =>
        obtain ⟨o, ho, htarget⟩ := List.any_eq_true.1 hopen
        have := List.dropWhile_eq_nil_iff.1 hcase o ho
        simp [beq_iff_eq.1 htarget] at this
    | cons outer below =>
        have := List.head?_dropWhile_not (fun o => !(o.id == target.id)) c.opened
        rw [hcase] at this
        exact ⟨outer, below, rfl, by simpa using this⟩
  obtain ⟨outer, below, hdrop, houter⟩ := hdrop
  have hopened : c.opened = above ++ block :: (between ++ outer :: below) := by
    have := c.opened.takeWhile_append_dropWhile (p := fun o => !(o.id == target.id))
    rw [hsplit, hdrop] at this
    simpa using this.symm
  have hplain : ∀ o ∈ above ++ block :: between, o.element.takesMisplaced = false := by
    intro o ho
    exact ElementName.takesMisplaced_of_endsScope (endsScope_of_inScope hscope (hsplit ▸ ho))
  rw [hdrop]
  exact h.edit (fun hc => .movesOut hopened houter hplain hentry hc)
    (fun hc => isPlain_moveOut _ _ _ _ _ _ hc (hc _ _ hentry))
    (agreesElsewhere_moveOut (c.report .formattingNotCurrent) _ _ _ _ _ _).begun

theorem mem_of_mem_formattingToMarker {entries : List Formatting} {o : Open} {tag : Tag}
    (h : (o, tag) ∈ formattingToMarker entries) : .element o tag ∈ entries := by
  induction entries with
  | nil => cases h
  | cons entry entries ih =>
      cases entry with
      | marker => cases h
      | element p t =>
          rcases List.mem_cons.1 h with heq | h
          · cases heq
            exact List.mem_cons_self
          · exact List.mem_cons_of_mem _ (ih h)

theorem closeFormattingLoop (h : b.LeadsTo c) (name : String) (n : Nat) :
    b.LeadsTo (c.closeFormattingLoop name n) := by
  induction n generalizing c with
  | zero => exact h
  | succ n ih =>
      rw [Builder.closeFormattingLoop]
      split
      · exact h.closeNamed name
      rename_i target tag hfind
      have hentry := mem_of_mem_formattingToMarker (List.mem_of_find?_eq_some hfind)
      dsimp only
      split
      · exact (h.report _).removeFormatting _
      rename_i hopen
      split
      · exact h.report _
      rename_i hscope
      rw [Bool.not_eq_true, Bool.not_eq_false'] at hopen hscope
      have hbelow : (c.opened.dropWhile fun o => !(o.id == target.id)).tail.Sublist c.opened :=
        (List.tail_sublist _).trans (List.dropWhile_sublist _)
      by_cases hcurrent : c.current?.any (fun o => o.id == target.id) = true
      · -- nothing is open inside of the innermost element
        have hinner : (c.opened.takeWhile fun o => !(o.id == target.id)) = [] := by
          cases hopened : c.opened with
          | nil => rfl
          | cons o opened =>
              rw [current?, hopened, List.head?_cons, Option.any_some] at hcurrent
              exact List.takeWhile_cons_of_neg (by simp [hcurrent])
        rw [if_pos hcurrent, hinner]
        exact (h.close hbelow).removeFormatting _
      · rw [if_neg hcurrent]
        split
        · exact ((h.report _).close hbelow).removeFormatting _
        · rename_i above block between hsplit
          exact ih (h.moveOut hentry hscope hopen (splitAtLast_eq_some hsplit))

theorem closeFormatting (h : b.LeadsTo c) (name : String) : b.LeadsTo (c.closeFormatting name) := by
  rw [Builder.closeFormatting]
  split
  · exact h.pop
  · exact h.closeFormattingLoop name 8

end LeadsTo

end Builder

end ShapeCoords.Markup
