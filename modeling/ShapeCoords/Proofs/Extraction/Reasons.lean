import ShapeCoords.Proofs.Extraction.Placement

/-!
Why a shape has no record. The reasons are looked for in a fixed order, the size first, then the
transform around the shape, then the numbers of its record.
-/

namespace ShapeCoords

section Reasons

variable {o : Options} {p : Primitive} {t : Shift}

theorem record_of_lacksTransform (hsize : ¬ p.LacksSize) (h : p.LacksTransform o) :
    record o p = .error .noParentTransform := by
  rw [record_of_sized hsize, parentShift_of_lacksTransform h]
  rfl

theorem record_of_hasOtherTransform (hsize : ¬ p.LacksSize) (h : p.HasOtherTransform) :
    record o p = .error .unsupportedTransform := by
  rw [record_of_sized hsize, parentShift_of_hasOtherTransform h]
  rfl

theorem record_of_isMalformed (hsize : ¬ p.LacksSize) (htransform : ¬ p.LacksTransform o)
    (ht : p.shift? = some t) (h : p.IsMalformed o t) : record o p = .error .nonFinite := by
  obtain ⟨hpolicy, hfinite⟩ := (isMalformed_iff o p t).1 h
  rw [record_of_sized hsize, parentShift_of_shift? htransform ht]
  change requireFinite o _ _ = _
  simp [requireFinite, hpolicy, hfinite]

theorem record_of_not_isMalformed (hsize : ¬ p.LacksSize) (htransform : ¬ p.LacksTransform o)
    (ht : p.shift? = some t) (h : ¬ p.IsMalformed o t) : record o p = .ok (p.place o t) := by
  rw [record_of_sized hsize, parentShift_of_shift? htransform ht]
  change requireFinite o _ _ = _
  rw [isMalformed_iff, not_and] at h
  cases hpolicy : o.malformed with
  | propagate => simp [requireFinite, hpolicy]
  | skip =>
      have hfinite : (p.place o t).isFinite = true := by simpa using h hpolicy
      simp [requireFinite, hfinite]

end Reasons

/-- Each reason is given exactly if it holds and none of those before it does, and there is a record
exactly if there is no reason against it. -/
theorem record_error_iff (o : Options) (p : Primitive) :
    (record o p = .error .missingSize ↔ p.LacksSize) ∧
    (record o p = .error .noParentTransform ↔ ¬ p.LacksSize ∧ p.LacksTransform o) ∧
    (record o p = .error .unsupportedTransform ↔
      ¬ p.LacksSize ∧ ¬ p.LacksTransform o ∧ p.HasOtherTransform) ∧
    (record o p = .error .nonFinite ↔
      ¬ p.LacksSize ∧ ¬ p.LacksTransform o ∧ ¬ p.HasOtherTransform ∧
        ∃ t, p.shift? = some t ∧ p.IsMalformed o t) ∧
    ((∃ r, record o p = .ok r) ↔
      ¬ p.LacksSize ∧ ¬ p.LacksTransform o ∧ ¬ p.HasOtherTransform ∧
        ∀ t, p.shift? = some t → ¬ p.IsMalformed o t) := by
  by_cases hsize : p.LacksSize
  · simp [record_of_lacksSize o hsize, hsize]
  · by_cases htransform : p.LacksTransform o
    · simp [record_of_lacksTransform hsize htransform, hsize, htransform]
    · cases ht : p.shift? with
      | none =>
          have hother := (hasOtherTransform_iff p).2 ht
          simp [record_of_hasOtherTransform hsize hother, hsize, htransform, hother]
      | some t =>
          have hother : ¬ p.HasOtherTransform := by simp [hasOtherTransform_iff, ht]
          by_cases hmalformed : p.IsMalformed o t
          · simp [record_of_isMalformed hsize htransform ht hmalformed, hsize, htransform, hother,
              hmalformed]
          · simp [record_of_not_isMalformed hsize htransform ht hmalformed, hsize, htransform,
              hother, hmalformed]

/-- A circle without any attribute has a record if malformed shapes are not skipped. -/
example : record {} ⟨.circle ⟨none, none, none, none, none⟩, some "translate(1, 2)"⟩ =
    .ok (.circle ⟨⟨Number.nan, Number.nan⟩, Number.nan⟩) := by
  rfl

end ShapeCoords
