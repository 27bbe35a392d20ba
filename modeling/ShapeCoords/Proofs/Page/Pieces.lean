import ShapeCoords.Page.Piece

/-!
The pieces of a page are cut from its front one after the other: none is empty, and put together
they give the page back. Only the last one can be refused.
-/

namespace ShapeCoords.Page

open Markup (TagKind RawText readRawText readScript)

/-- A piece stands at the front of a page and is not empty. -/
def Leads (p : Piece) (page : List Char) : Prop :=
  p.raw <+: page ∧ p.raw ≠ []

theorem take_leads {n : Nat} {page : List Char} (hn : 0 < n) (hpage : page ≠ []) :
    page.take n <+: page ∧ page.take n ≠ [] := by
  refine ⟨List.take_prefix n page, ?_⟩
  simp only [ne_eq, List.take_eq_nil_iff, hpage, or_false]
  omega

theorem tagPiece_leads {kind : TagKind} {mark : Nat} {page : List Char} (s : List Char)
    (hmark : 0 < mark) (hpage : page ≠ []) : Leads (tagPiece kind mark page s) page := by
  unfold tagPiece
  dsimp only
  split
  · exact take_leads (by omega) hpage
  · exact ⟨List.prefix_rfl, hpage⟩

theorem declarationLength_pos {page : List Char} (hpage : page ≠ []) :
    0 < declarationLength page := by
  cases page with
  | nil => contradiction
  | cons c s =>
      rw [declarationLength]
      split <;> omega

theorem anglePiece_leads (literal : Bool) (s : List Char) :
    Leads (anglePiece literal ('<' :: s)) ('<' :: s) := by
  have hpage : '<' :: s ≠ [] := List.cons_ne_nil _ _
  have hdeclaration := take_leads (declarationLength_pos hpage) hpage
  unfold anglePiece
  dsimp only [List.drop_succ_cons, List.drop_zero]
  split
  · exact ⟨List.prefix_rfl, hpage⟩
  · split
    · exact take_leads (by omega) hpage
    · exact take_leads (by omega) hpage
    · exact hdeclaration
  · exact ⟨List.prefix_rfl, hpage⟩
  · split
    · exact tagPiece_leads _ (by omega) hpage
    · exact hdeclaration
  · exact hdeclaration
  · split
    · exact tagPiece_leads _ (by omega) hpage
    · exact ⟨⟨_, rfl⟩, List.cons_ne_nil _ _⟩

/-- Text up to an end tag is empty only if that tag stands in front. -/
def ClosedIfEmpty (r : RawText) : Prop :=
  r.length = 0 → r.isClosed = true

theorem closedIfEmpty_extend (faults : List Markup.Fault) (r : RawText) :
    ClosedIfEmpty (r.extend faults) := by
  intro h
  simp [RawText.extend] at h

theorem readRawText_closedIfEmpty (name : List Char) {page : List Char} (hpage : page ≠ []) :
    ClosedIfEmpty (readRawText name false 0 page) := by
  cases page with
  | nil => contradiction
  | cons c s =>
      simp only [readRawText, Bool.and_false, Bool.false_eq_true, if_false]
      split
      · exact fun _ => rfl
      · split <;> exact closedIfEmpty_extend _ _

theorem readScript_closedIfEmpty {page : List Char} (hpage : page ≠ []) :
    ClosedIfEmpty (readScript .plain page) := by
  cases page with
  | nil => contradiction
  | cons c s =>
      rw [readScript]
      split
      · exact fun _ => rfl
      · exact closedIfEmpty_extend _ _

theorem rawPiece_leads {r : RawText} {page : List Char} (hr : ClosedIfEmpty r)
    (hpage : page ≠ []) : Leads (rawPiece r page) page := by
  unfold rawPiece
  split
  · exact tagPiece_leads _ (by omega) hpage
  · next h =>
      refine take_leads (Nat.pos_of_ne_zero fun h0 => h ?_) hpage
      simp [hr h0, h0]

theorem firstPiece_leads (c : Context) (reading : Reading) {page : List Char}
    (hpage : page ≠ []) : Leads (firstPiece c reading page) page := by
  unfold firstPiece
  split
  · dsimp only
    split
    · exact take_leads (by omega) hpage
    · exact take_leads (by omega) hpage
  · split
    · next h =>
        cases page with
        | nil => contradiction
        | cons x s =>
            obtain rfl : x = '<' := by
              simpa [List.takeWhile_cons] using h
            exact anglePiece_leads _ s
    · next text h =>
        exact ⟨List.takeWhile_prefix _, fun h0 => h h0⟩
  · exact ⟨List.prefix_rfl, hpage⟩
  · exact rawPiece_leads (readRawText_closedIfEmpty _ hpage) hpage
  · exact rawPiece_leads (readRawText_closedIfEmpty _ hpage) hpage
  · exact rawPiece_leads (readScript_closedIfEmpty hpage) hpage

theorem tagPiece_cut {kind : TagKind} {mark : Nat} {page s raw : List Char}
    {name : Option String} (h : tagPiece kind mark page s = .cut raw name) : raw = page := by
  unfold tagPiece at h
  dsimp only at h
  split at h
  · cases h
  · cases h
    rfl

theorem anglePiece_cut {literal : Bool} {page raw : List Char} {name : Option String}
    (h : anglePiece literal page = .cut raw name) : raw = page := by
  unfold anglePiece at h
  dsimp only at h
  split at h
  · cases h
  · split at h <;> cases h
  · cases h
  · split at h
    · exact tagPiece_cut h
    · cases h
  · cases h
  · split at h
    · exact tagPiece_cut h
    · cases h

theorem rawPiece_cut {r : RawText} {page raw : List Char} {name : Option String}
    (h : rawPiece r page = .cut raw name) : raw = page := by
  unfold rawPiece at h
  split at h
  · exact tagPiece_cut h
  · cases h

/-- A page ends in the tag that it cuts off. -/
theorem firstPiece_cut {c : Context} {reading : Reading} {page raw : List Char}
    {name : Option String} (h : firstPiece c reading page = .cut raw name) : raw = page := by
  unfold firstPiece at h
  split at h
  · dsimp only at h
    split at h <;> cases h
  · split at h
    · exact anglePiece_cut h
    · cases h
  · cases h
  · exact rawPiece_cut h
  · exact rawPiece_cut h
  · exact rawPiece_cut h

/-! The parts of a page -/

/-- A refused part is a tag that the page ends in, or else the page is not read to its end. -/
theorem last_of_isRefused {n : Nat} {c : Context} {reading : Reading} {page : List Char}
    {before behind : List Part} {p : Part}
    (h : partsFrom n c reading page = before ++ p :: behind) (hp : p.isRefused = true) :
    behind = [] := by
  -- cutting stops at the first refused part
  induction n generalizing c reading page before with
  | zero => simp [partsFrom] at h
  | succ n ih =>
      rw [partsFrom] at h
      split at h
      · simp at h
      · dsimp only at h
        split at h
        · cases before with
          | nil =>
              injection h with _ hbehind
              exact hbehind.symm
          | cons q before => simp at h
        · cases before with
          | nil =>
              injection h with hq _
              subst hq
              cases hp
          | cons q before =>
              injection h with _ hrest
              exact ih hrest

theorem piece_of_isRefused {n : Nat} {c : Context} {reading : Reading} {page : List Char}
    {p : Part} (hp : p ∈ partsFrom n c reading page) (h : p.isRefused = true) :
    (∃ raw t, p.piece = .tag raw t) ∨ ∃ raw name, p.piece = .cut raw (some name) := by
  induction n generalizing c reading page with
  | zero => simp [partsFrom] at hp
  | succ n ih =>
      rw [partsFrom] at hp
      split at hp
      · cases hp
      · dsimp only at hp
        split at hp
        · next hrefused =>
          obtain rfl := List.mem_singleton.1 hp
          unfold isRefused at hrefused
          split at hrefused
          · next raw t hpiece => exact .inl ⟨raw, t, hpiece⟩
          · next raw name hpiece => exact .inr ⟨raw, name, hpiece⟩
          · cases hrefused
        · rcases List.mem_cons.1 hp with rfl | hp
          · cases h
          · exact ih hp

/-- Put together, the parts give the page back, unless a whole tag is refused. -/
theorem flatMap_raw_partsFrom {n : Nat} {c : Context} {reading : Reading} {page : List Char}
    (hn : page.length ≤ n)
    (h : ∀ p ∈ partsFrom n c reading page, p.isRefused = true →
      ∃ raw name, p.piece = .cut raw name) :
    (partsFrom n c reading page).flatMap (fun p => p.piece.raw) = page := by
  -- each piece takes a character of the page, so the fuel lasts to its end
  induction n generalizing c reading page with
  | zero => simpa [partsFrom] using hn
  | succ n ih =>
      rw [partsFrom] at h ⊢
      split
      · next hempty => simp_all
      · next hpage =>
        rw [if_neg hpage] at h
        have hne : page ≠ [] := by simpa using hpage
        have hleads := firstPiece_leads c reading hne
        dsimp only at h ⊢
        split
        · next hrefused =>
          rw [if_pos hrefused] at h
          obtain ⟨raw, name, hcut⟩ := h _ (List.mem_singleton_self _) rfl
          rw [List.flatMap_singleton, hcut]
          exact firstPiece_cut hcut
        · next hrefused =>
          rw [if_neg hrefused] at h
          have happend := List.prefix_iff_eq_append.1 hleads.1
          have hpos := List.length_pos_iff.2 hleads.2
          rw [List.flatMap_cons, ih, happend]
          · rw [List.length_drop]
            omega
          · intro p hp
            exact h p (List.mem_cons_of_mem _ hp)

end ShapeCoords.Page
