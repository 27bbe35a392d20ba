import Mathlib.Control.Monad.Basic
import ShapeCoords.Page.Rendering
import ShapeCoords.Proofs.Page.Pieces

/-!
Collecting the blocks of a page and replacing them: both count the same blocks. They differ on one
kind of page only, which ends inside of a block in a refused tag without its `>`.
-/

namespace ShapeCoords.Page

def blockCount (vs : List Visit) : Nat :=
  vs.countP fun v => v.block?.isSome

/-- What is left of some visits outside of all blocks, with drawings in the place of the blocks. -/
def fill : List String → List Visit → List Char
  | _, [] => []
  | drawings, v :: vs =>
    match v.block? with
    | some _ =>
      (if v.isOutside then (drawings.headD "").toList else []) ++ fill drawings.tail vs
    | none => (if v.isOutside then v.part.piece.raw else []) ++ fill drawings vs

/-- A page ends inside of a block, in a start tag without its `>` that is refused by its name. -/
def EndsInRefusedTag (page : String) (name : String) : Prop :=
  ∃ before v raw, visits page.toList = before ++ [v] ∧ v.part.isRefused = true ∧
    v.part.piece = .cut raw (some name) ∧ v.around ≠ []

theorem map_part_visitsFrom (opened : List OpenElement) (ps : List Part) :
    (visitsFrom opened ps).map Visit.part = ps := by
  induction ps generalizing opened with
  | nil => rfl
  | cons p ps ih => simp [visitsFrom, ih]

theorem last_of_refused {page : List Char} {before behind : List Visit} {v : Visit}
    (h : visits page = before ++ v :: behind) (hv : v.part.isRefused = true) : behind = [] := by
  have hparts := congrArg (List.map Visit.part) h
  rw [visits, map_part_visitsFrom, List.map_append, List.map_cons] at hparts
  exact List.map_eq_nil_iff.1 (last_of_isRefused hparts hv)

theorem isRefused_of_refused {v : Visit} {name : String} (h : v.refused? = some name) :
    v.part.isRefused = true := by
  unfold Visit.refused? at h
  split at h <;> simp_all

/-- A refused part begins no block. -/
theorem block_of_isRefused {v : Visit} (h : v.part.isRefused = true) : v.block? = none := by
  unfold Visit.block? Part.block? Part.startTag?
  split <;> simp [h]

/-- Where the text of blocks is read, a refused part inside of a block is a tag that is cut off. -/
theorem cut_of_refused {v : Visit} {name : String} (h : v.refused? = some name)
    (ht : v.refusedInText? = none) :
    (∃ raw, v.part.piece = .cut raw (some name)) ∧ v.around ≠ [] := by
  unfold Visit.refusedInText? at ht
  split at ht
  · next raw cutName hcut =>
    have hname : cutName = some name := by
      simpa [Visit.refused?, hcut, isRefused_of_refused h] using h
    refine ⟨⟨raw, hname ▸ hcut⟩, fun haround => ?_⟩
    simp [Visit.isOutside, haround, h] at ht
  · simp [h] at ht

theorem length_extendLast (s : List Char) (texts : List (List Char)) :
    (extendLast s texts).length = texts.length := by
  cases texts <;> rfl

/-- Texts are collected only where no part is refused, one text for each block. -/
theorem collectTexts_ok {texts collected : List (List Char)} {vs : List Visit}
    (h : collectTexts texts vs = .ok collected) :
    (∀ v ∈ vs, v.refusedInText? = none) ∧
      collected.length = texts.length + blockCount vs := by
  induction vs generalizing texts with
  | nil =>
      cases h
      simp [blockCount]
  | cons v vs ih =>
      rw [collectTexts] at h
      split at h
      · cases h
      · next hrefused =>
        split at h
        · next kind hblock =>
          obtain ⟨hvs, hlength⟩ := ih h
          refine ⟨List.forall_mem_cons.2 ⟨hrefused, hvs⟩, ?_⟩
          simp only [blockCount, List.countP_cons, hblock, Option.isSome_some, if_true,
            List.length_cons] at hlength ⊢
          omega
        · next raw hblock hpiece =>
          obtain ⟨hvs, hlength⟩ := ih h
          refine ⟨List.forall_mem_cons.2 ⟨hrefused, hvs⟩, ?_⟩
          simpa [blockCount, List.countP_cons, hblock, length_extendLast] using hlength
        · next hblock hpiece =>
          obtain ⟨hvs, hlength⟩ := ih h
          refine ⟨List.forall_mem_cons.2 ⟨hrefused, hvs⟩, ?_⟩
          simpa [blockCount, List.countP_cons, hblock] using hlength

theorem collectSources_ok {page : String} {sources : List String}
    (h : collectSources page = .ok sources) :
    (∀ v ∈ visits page.toList, v.refusedInText? = none) ∧
      sources.length = blockCount (visits page.toList) := by
  unfold collectSources at h
  split at h
  · next texts htexts =>
    cases h
    simpa using collectTexts_ok htexts
  · cases h

theorem replaceBlocks_refused {v : Visit} {name : String} (h : v.refused? = some name)
    (vs : List Visit) (drawings : List String) :
    replaceBlocks drawings (v :: vs) = .error (.ambiguousTag name) := by
  simp [replaceBlocks, h, bind, Except.bind, throw, throwThe, MonadExceptOf.throw]

theorem replaceBlocks_other {v : Visit} (hv : v.refused? = none) (hblock : v.block? = none)
    (vs : List Visit) (drawings : List String) :
    replaceBlocks drawings (v :: vs) = (replaceBlocks drawings vs).map
      fun r => ((if v.isOutside then v.part.piece.raw else []) ++ r.1, r.2) := by
  simp only [replaceBlocks, hv, hblock]
  cases replaceBlocks drawings vs <;> simp [bind, Except.bind, pure, Except.pure, Except.map]
  split <;> rfl

theorem replaceBlocks_nil {v : Visit} {kind : BlockKind} (hv : v.refused? = none)
    (hblock : v.block? = some kind) (vs : List Visit) :
    replaceBlocks [] (v :: vs) = .error .tooFewDrawings := by
  simp [replaceBlocks, hv, hblock, throw, throwThe, MonadExceptOf.throw]

theorem replaceBlocks_block {v : Visit} {kind : BlockKind} (hv : v.refused? = none)
    (hblock : v.block? = some kind) (vs : List Visit) (drawing : String)
    (drawings : List String) :
    replaceBlocks (drawing :: drawings) (v :: vs) = (replaceBlocks drawings vs).map
      fun r => ((if v.isOutside then drawing.toList else []) ++ r.1, r.2) := by
  simp only [replaceBlocks, hv, hblock]
  cases replaceBlocks drawings vs <;> simp [bind, Except.bind, pure, Except.pure, Except.map]
  split <;> rfl

/-- Replacing runs through visits none of which is refused, as long as there are drawings. -/
theorem replaceBlocks_append {vs : List Visit} (hvs : ∀ v ∈ vs, v.refused? = none)
    (ws : List Visit) (drawings : List String) :
    replaceBlocks drawings (vs ++ ws) =
      if drawings.length < blockCount vs then .error .tooFewDrawings
      else (replaceBlocks (drawings.drop (blockCount vs)) ws).map
        fun r => (fill drawings vs ++ r.1, r.2) := by
  -- each block takes the first drawing that is left, or stops for want of one
  induction vs generalizing drawings with
  | nil =>
      simp only [blockCount, List.countP_nil, fill, List.nil_append, List.drop_zero,
        Nat.not_lt_zero, if_false]
      cases replaceBlocks drawings ws <;> rfl
  | cons v vs ih =>
      obtain ⟨hv, hvs⟩ := List.forall_mem_cons.1 hvs
      rw [List.cons_append]
      cases hblock : v.block? with
      | none =>
          have hcount : blockCount (v :: vs) = blockCount vs := by simp [blockCount, hblock]
          rw [replaceBlocks_other hv hblock, ih hvs, hcount]
          by_cases hlt : drawings.length < blockCount vs
          · rw [if_pos hlt, if_pos hlt]
            rfl
          · rw [if_neg hlt, if_neg hlt]
            cases replaceBlocks (drawings.drop (blockCount vs)) ws <;>
              simp [Except.map, fill, hblock]
      | some kind =>
          have hcount : blockCount (v :: vs) = blockCount vs + 1 := by simp [blockCount, hblock]
          cases drawings with
          | nil =>
              rw [replaceBlocks_nil hv hblock, hcount, if_pos (by simp)]
          | cons drawing drawings =>
              rw [replaceBlocks_block hv hblock, ih hvs, hcount]
              simp only [List.length_cons, Nat.add_lt_add_iff_right, List.drop_succ_cons]
              by_cases hlt : drawings.length < blockCount vs
              · rw [if_pos hlt, if_pos hlt]
                rfl
              · rw [if_neg hlt, if_neg hlt]
                cases replaceBlocks (drawings.drop (blockCount vs)) ws <;>
                  simp [Except.map, fill, hblock]

/-- Where no part is refused, only the number of drawings counts. -/
theorem inline_of_unrefused {page : String} (h : ∀ v ∈ visits page.toList, v.refused? = none)
    (drawings : List String) :
    inline page drawings =
      if drawings.length < blockCount (visits page.toList) then .error (.page .tooFewDrawings)
      else if drawings.length = blockCount (visits page.toList) then
        .ok (String.ofList (fill drawings (visits page.toList)))
      else .error (.countMismatch (blockCount (visits page.toList)) drawings.length) := by
  have hreplace := replaceBlocks_append h [] drawings
  rw [List.append_nil] at hreplace
  unfold inline
  rw [hreplace]
  by_cases hlt : drawings.length < blockCount (visits page.toList)
  · rw [if_pos hlt, if_pos hlt]
  · rw [if_neg hlt, if_neg hlt]
    simp only [replaceBlocks, Except.map, List.append_nil]
    cases hleft : drawings.drop (blockCount (visits page.toList)) with
    | nil =>
        have hlength := congrArg List.length hleft
        simp only [List.length_drop, List.length_nil] at hlength
        rw [if_pos (by omega)]
    | cons drawing left =>
        have hlength := congrArg List.length hleft
        simp only [List.length_drop, List.length_cons] at hlength
        have hcount : drawings.length - (drawing :: left).length =
            blockCount (visits page.toList) := by
          rw [List.length_cons]
          omega
        rw [if_neg (by omega), ← hcount]

/-- On a page that ends in a refused tag, the tag counts unless drawings run out before it. -/
theorem inline_of_endsInRefusedTag {page name : String} {sources : List String}
    (h : collectSources page = .ok sources) (hend : EndsInRefusedTag page name)
    (drawings : List String) :
    inline page drawings =
      if drawings.length < sources.length then .error (.page .tooFewDrawings)
      else .error (.page (.ambiguousTag name)) := by
  obtain ⟨before, v, raw, hvisits, hrefused, hcut, -⟩ := hend
  have hname : v.refused? = some name := by simp [Visit.refused?, hrefused, hcut]
  -- a refused part before the last one would have ended the page there
  have hbefore : ∀ w ∈ before, w.refused? = none := by
    intro w hw
    obtain ⟨front, behind, rfl⟩ := List.append_of_mem hw
    cases hw : w.refused? with
    | none => rfl
    | some _ =>
        rw [List.append_assoc] at hvisits
        have := last_of_refused hvisits (isRefused_of_refused hw)
        simp at this
  have hcount : sources.length = blockCount before := by
    rw [(collectSources_ok h).2, hvisits]
    simp [blockCount, block_of_isRefused hrefused]
  unfold inline
  rw [hvisits, replaceBlocks_append hbefore, replaceBlocks_refused hname, hcount]
  by_cases hlt : drawings.length < blockCount before
  · rw [if_pos hlt, if_pos hlt]
  · rw [if_neg hlt, if_neg hlt]
    rfl

/-- Of a page whose blocks are collected no part is refused, but for a tag that it ends in. -/
theorem unrefused_or_endsInRefusedTag {page : String} {sources : List String}
    (h : collectSources page = .ok sources) :
    (∀ v ∈ visits page.toList, v.refused? = none) ∨ ∃ name, EndsInRefusedTag page name := by
  refine Classical.or_iff_not_imp_left.2 fun hsome => ?_
  simp only [Classical.not_forall] at hsome
  obtain ⟨v, hv, hrefused⟩ := hsome
  obtain ⟨name, hname⟩ := Option.ne_none_iff_exists'.1 hrefused
  -- collecting lets a refused part through only if it is cut off, and it is the last one
  obtain ⟨⟨raw, hcut⟩, haround⟩ := cut_of_refused hname ((collectSources_ok h).1 v hv)
  obtain ⟨before, behind, hvisits⟩ := List.append_of_mem hv
  have hlast := last_of_refused hvisits (isRefused_of_refused hname)
  subst hlast
  exact ⟨name, before, v, raw, hvisits, isRefused_of_refused hname, hcut, haround⟩

/-- What becomes of drawings for a page whose blocks are collected: their number decides, and
nothing in them, unless the page ends inside of a block in a refused tag. -/
theorem inline_outcome {page : String} {sources : List String}
    (h : collectSources page = .ok sources) (drawings : List String) :
    ((∃ result, inline page drawings = .ok result) ↔
      drawings.length = sources.length ∧ ¬∃ name, EndsInRefusedTag page name) ∧
    (drawings.length < sources.length →
      inline page drawings = .error (.page .tooFewDrawings)) ∧
    (sources.length ≤ drawings.length → ∀ name, EndsInRefusedTag page name →
      inline page drawings = .error (.page (.ambiguousTag name))) ∧
    (sources.length < drawings.length → (¬∃ name, EndsInRefusedTag page name) →
      inline page drawings = .error (.countMismatch sources.length drawings.length)) := by
  rcases unrefused_or_endsInRefusedTag h with hunrefused | ⟨name, hend⟩
  · have hnone : ¬∃ name, EndsInRefusedTag page name := by
      rintro ⟨name, before, v, raw, hvisits, hrefused, hcut, -⟩
      have := hunrefused v (by simp [hvisits])
      simp [Visit.refused?, hrefused, hcut] at this
    have hinline := inline_of_unrefused hunrefused drawings
    rw [← (collectSources_ok h).2] at hinline
    rw [hinline]
    refine ⟨?_, ?_, ?_, ?_⟩
    · split
      · simp only [reduceCtorEq, exists_false, false_iff]
        omega
      · split <;> simp_all
    · intro hlt
      rw [if_pos hlt]
    · intro _ name hend
      exact absurd ⟨name, hend⟩ hnone
    · intro hlt _
      rw [if_neg (by omega), if_neg (by omega)]
  · have hinline (drawings : List String) := inline_of_endsInRefusedTag h hend drawings
    refine ⟨?_, ?_, ?_, ?_⟩
    · rw [hinline]
      refine ⟨?_, fun hok => absurd ⟨name, hend⟩ hok.2⟩
      split <;> simp
    · intro hlt
      rw [hinline, if_pos hlt]
    · intro hle other hother
      rw [inline_of_endsInRefusedTag h hother, if_neg (by omega)]
    · intro _ hnone
      exact absurd ⟨name, hend⟩ hnone

theorem inline_outcome_cut_off :
    collectSources "<select><div class=mermaid><xmp " = .ok [""] ∧
      inline "<select><div class=mermaid><xmp " ["drawing"] =
        .error (.page (.ambiguousTag "xmp")) := by
  have h : collectSources "<select><div class=mermaid><xmp " = .ok [""] := by
    decide +kernel
  have hend : EndsInRefusedTag "<select><div class=mermaid><xmp " "xmp" := by
    refine ⟨(visits "<select><div class=mermaid><xmp ".toList).dropLast,
      ⟨⟨.cut "<xmp ".toList (some "xmp"), true, .html⟩, [.div]⟩, "<xmp ".toList, ?_, rfl, rfl, ?_⟩
    · decide +kernel
    · decide
  exact ⟨h, (inline_outcome h ["drawing"]).2.2.1 (by decide) "xmp" hend⟩

/-- A page of which the blocks are collected, and whose drawings are refused all the same. -/
theorem collected_page_refused :
    ∃ page sources drawings, collectSources page = .ok sources ∧
      drawings.length = sources.length ∧ ¬∃ result, inline page drawings = .ok result := by
  refine ⟨"<select><div class=mermaid><xmp ", [""], ["drawing"], by decide +kernel, rfl, ?_⟩
  rintro ⟨result, h⟩
  have hrefused : inline "<select><div class=mermaid><xmp " ["drawing"] =
      .error (.page (.ambiguousTag "xmp")) := by decide +kernel
  rw [hrefused] at h
  cases h

end ShapeCoords.Page
