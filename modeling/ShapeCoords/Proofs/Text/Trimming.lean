import Mathlib.Data.List.TakeWhile
import ShapeCoords.Proofs.Text.Runs
import ShapeCoords.Text.Blank

/-!
White space around a text, which trimming removes and which changes nothing else.
-/

namespace ShapeCoords.Text

variable {raw s before after : List Char}

/-- `raw` is `s` with white space around it, and `s` has none at its ends. -/
structure IsTrimmed (raw s : List Char) : Prop where
  around : ∃ before after, raw = before ++ (s ++ after) ∧
    (∀ c ∈ before, isBlank c = true) ∧ ∀ c ∈ after, isBlank c = true
  starts : ∀ c ∈ s.head?, isBlank c = false
  ends : ∀ c ∈ s.getLast?, isBlank c = false

theorem trim_append (hbefore : ∀ c ∈ before, isBlank c = true)
    (hafter : ∀ c ∈ after, isBlank c = true) : trim (before ++ (s ++ after)) = trim s := by
  have hreverse : ∀ c ∈ after.reverse, isBlank c = true := fun c hc =>
    hafter c (List.mem_reverse.1 hc)
  have hdropped : after.dropWhile isBlank = [] := by
    rw [← List.append_nil after, List.dropWhile_append_of_pos hafter, List.dropWhile_nil]
  rw [trim, trimStart, List.dropWhile_append_of_pos hbefore, List.dropWhile_append]
  split
  · next hempty => rw [hdropped, trim, trimStart, List.isEmpty_iff.1 hempty]
  · rw [trimEnd, List.reverse_append, List.dropWhile_append_of_pos hreverse]
    rfl

/-- What is left of a text without white space at its end is a front of it. -/
theorem trimEnd_append (s : List Char) :
    trimEnd s ++ (s.reverse.takeWhile isBlank).reverse = s := by
  rw [trimEnd, ← List.reverse_append, List.takeWhile_append_dropWhile, List.reverse_reverse]

theorem isTrimmed_trim (raw : List Char) : IsTrimmed raw (trim raw) := by
  have hfront := trimEnd_append (trimStart raw)
  constructor
  · refine ⟨raw.takeWhile isBlank, ((trimStart raw).reverse.takeWhile isBlank).reverse, ?_,
      fun c hc => List.mem_takeWhile_imp hc,
      fun c hc => List.mem_takeWhile_imp (List.mem_reverse.1 hc)⟩
    rw [trim, hfront, trimStart, List.takeWhile_append_dropWhile]
  · intro c hc
    refine endsRun_dropWhile isBlank raw c ?_
    have hhead : (trimEnd (trimStart raw)).head? = some c := hc
    change c ∈ (trimStart raw).head?
    rw [← hfront, List.head?_append, hhead]
    rfl
  · intro c hc
    rw [trim, trimEnd, List.getLast?_reverse] at hc
    exact endsRun_dropWhile isBlank _ c hc

end ShapeCoords.Text
