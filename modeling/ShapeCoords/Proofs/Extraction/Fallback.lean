import ShapeCoords.Proofs.Extraction.Malformed
import ShapeCoords.Proofs.Extraction.Placement

/-!
Taking a missing transform for the identity adds the records of shapes without a transform around
them to an extraction and changes none of the others.
-/

namespace ShapeCoords

open Markup (Element)

/-- The options with their policy for shapes without a transform around them replaced. -/
def Options.lacking (o : Options) (policy : MissingTransform) : Options :=
  { o with missingTransform := policy }

/-! One record -/

section Records

variable {o : Options} {a b : MissingTransform} {p : Primitive} {text : String}

theorem parse_identity : Shift.parse "translate(0, 0)" = some .identity := by
  rfl

theorem parentShift_lacking (o : Options) (a b : MissingTransform) (text : String) :
    parentShift (o.lacking a) (some text) = parentShift (o.lacking b) (some text) :=
  rfl

/-- A missing transform that is the identity is no other than the one that is written out. -/
theorem parentShift_identity (o : Options) (policy : MissingTransform) :
    parentShift (o.lacking .identity) none =
      parentShift (o.lacking policy) (some "translate(0, 0)") := by
  simp only [parentShift, parse_identity]
  rfl

/-- The policy has no other use than to find the shift. -/
theorem record_lacking {shape : Shape} {s t : Option String}
    (h : parentShift (o.lacking a) s = parentShift (o.lacking b) t) :
    record (o.lacking a) ⟨shape, s⟩ = record (o.lacking b) ⟨shape, t⟩ := by
  cases shape with
  | circle attributes =>
      simp only [record, circleRecord, h]
      rfl
  | rect attributes =>
      simp only [record, rectangleRecord, h]
      rfl

theorem toOption_record_eq_none {reason : SkipReason}
    (h : parentShift o p.parentTransform = .error reason) : (record o p).toOption = none := by
  by_cases hsize : p.LacksSize
  · rw [record_of_lacksSize o hsize]
    rfl
  · rw [record_of_sized hsize, h]
    rfl

theorem toOption_record_rejected (h : p.parentTransform = some text)
    (hparse : Shift.parse text = none) : (record o p).toOption = none := by
  have hshift : parentShift o p.parentTransform = .error .unsupportedTransform := by
    rw [h, parentShift, hparse]
  exact toOption_record_eq_none hshift

theorem record_identity (h : p.parentTransform = none) (policy : MissingTransform) :
    record (o.lacking .identity) p =
      record (o.lacking policy) { p with parentTransform := some "translate(0, 0)" } := by
  obtain ⟨shape, parent⟩ := p
  cases h
  exact record_lacking (parentShift_identity o policy)

/-- Without the fallback the records of shapes without a transform around them are left out. -/
theorem toOption_record_skip (o : Options) (p : Primitive) :
    (record (o.lacking .skip) p).toOption =
      if p.parentTransform.isSome then (record (o.lacking .identity) p).toOption else none := by
  obtain ⟨shape, parent⟩ := p
  cases parent with
  | some text =>
      rw [record_lacking (parentShift_lacking o .skip .identity text)]
      rfl
  | none => exact toOption_record_eq_none rfl

end Records

/-! All records -/

namespace Document

/-- The shapes of a document with the numbers of their elements, circles first. -/
def numbered (d : Document) : List (Nat × Primitive) :=
  (d.named "circle").map (fun x =>
      (x.2, ⟨.circle (d.circle x.1), d.tree.parentValue? x.2 "transform"⟩)) ++
    (d.named "rect").map fun x =>
      (x.2, ⟨.rect (d.rect x.1), d.tree.parentValue? x.2 "transform"⟩)

/-- The records of an extraction with the numbers of the elements they come from. -/
def numberedRecords (o : Options) (d : Document) : List (Nat × ShapeRecord) :=
  d.numbered.filterMap fun x => (record o x.2).toOption.map fun r => (x.1, r)

theorem primitives_eq_numbered (d : Document) : d.primitives = d.numbered.map Prod.snd := by
  simp [primitives, circles, rects, numbered, Function.comp_def]

theorem extract_numbered (o : Options) (d : Document) :
    extract o d.primitives = ⟨(d.numberedRecords o).map Prod.snd⟩ := by
  rw [extract, circlesFirst_primitives, primitives_eq_numbered, numberedRecords,
    List.filterMap_map, List.map_filterMap]
  simp [Function.comp_def]

theorem parentTransform_of_mem_numbered {d : Document} {x : Nat × Primitive}
    (h : x ∈ d.numbered) : x.2.parentTransform = d.tree.parentValue? x.1 "transform" := by
  rcases List.mem_append.1 h with h | h
  · obtain ⟨y, -, rfl⟩ := List.mem_map.1 h
    rfl
  · obtain ⟨y, -, rfl⟩ := List.mem_map.1 h
    rfl

/-- An element of the document stands directly in one that has a transform. -/
def hasTransform (d : Document) (id : Nat) : Bool :=
  (d.tree.parentValue? id "transform").isSome

theorem numberedRecords_skip (o : Options) (d : Document) :
    d.numberedRecords (o.lacking .skip) =
      (d.numberedRecords (o.lacking .identity)).filter fun x => d.hasTransform x.1 := by
  rw [numberedRecords, numberedRecords, List.filter_filterMap]
  refine List.filterMap_congr fun x hx => ?_
  rw [toOption_record_skip, parentTransform_of_mem_numbered hx]
  change (if d.hasTransform x.1 then _ else _ : Option ShapeRecord).map _ = _
  cases hhas : d.hasTransform x.1 <;> cases (record (o.lacking .identity) x.2).toOption <;>
    simp [Option.filter, hhas]

end Document

theorem parse_lacking (o : Options) (policy : MissingTransform) (text : String) :
    Document.parse (o.lacking policy) text = Document.parse o text :=
  rfl

/-- Without the fallback the records are those with it, less those of shapes without a transform
around them. The latter are as under a transform that moves nothing, and a shape under a transform
that is no shift has no record in either case. -/
theorem extractCoordinates_skip_eq_identity (o : Options) (text : String) :
    (∃ e, extractCoordinates (o.lacking .skip) text = .error e ∧
      extractCoordinates (o.lacking .identity) text = .error e) ∨
    ∃ d, (∀ policy, Document.parse (o.lacking policy) text = .ok d) ∧
      extractCoordinates (o.lacking .identity) text =
        .ok ⟨(d.numberedRecords (o.lacking .identity)).map Prod.snd⟩ ∧
      extractCoordinates (o.lacking .skip) text =
        .ok ⟨((d.numberedRecords (o.lacking .identity)).filter fun x =>
          d.hasTransform x.1).map Prod.snd⟩ ∧
      (∀ x ∈ d.numbered, d.hasTransform x.1 = false → ∀ policy,
        record (o.lacking .identity) x.2 =
          record (o.lacking policy) { x.2 with parentTransform := some "translate(0, 0)" }) ∧
      (∀ x ∈ d.numbered, ∀ t, d.tree.parentValue? x.1 "transform" = some t →
        Shift.parse t = none → ∀ policy r, record (o.lacking policy) x.2 ≠ .ok r) := by
  cases hparse : Document.parse o text with
  | error e =>
      exact .inl ⟨e, extractCoordinates_of_parse_error hparse,
        extractCoordinates_of_parse_error hparse⟩
  | ok d =>
      have hrun (policy : MissingTransform) : extractCoordinates (o.lacking policy) text =
          .ok ⟨(d.numberedRecords (o.lacking policy)).map Prod.snd⟩ := by
        rw [extractCoordinates_of_parse ((parse_lacking o policy text).trans hparse),
          Document.extract_numbered]
      refine .inr ⟨d, fun policy => hparse, hrun .identity, ?_, ?_, ?_⟩
      · rw [hrun, Document.numberedRecords_skip]
      · intro x hx hlacks policy
        refine record_identity ?_ policy
        rw [Document.parentTransform_of_mem_numbered hx]
        exact Option.not_isSome_iff_eq_none.1 (Bool.eq_false_iff.1 hlacks)
      · intro x hx t ht hrejected policy r hrecord
        have hnone := toOption_record_rejected (o := o.lacking policy)
          ((Document.parentTransform_of_mem_numbered hx).trans ht) hrejected
        rw [hrecord] at hnone
        cases hnone

end ShapeCoords
