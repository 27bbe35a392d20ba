import ShapeCoords.Proofs.Extraction.Grouping
import ShapeCoords.Proofs.Markup.Forests
import ShapeCoords.Proofs.Markup.MissingDoctype

/-!
The order of the shapes of a document. Shapes are listed in the order in which their elements were
made. That is document order unless the text is so malformed that content moved away from where it
was read, which the faults tell.
-/

namespace ShapeCoords

open Markup

namespace Document

def numbers (name : String) (d : Document) : List Nat :=
  (d.named name).map Prod.snd

/-- The elements with a name in document order. -/
def inDocumentOrder (name : String) (d : Document) : List Nat :=
  d.tree.ofKind (fun e => e.name == name) d.tree.documentOrder

def circleAt (d : Document) (id : Nat) : Primitive :=
  ⟨.circle (d.circle (d.tree.elements.getD id default)), d.tree.parentValue? id "transform"⟩

def rectAt (d : Document) (id : Nat) : Primitive :=
  ⟨.rect (d.rect (d.tree.elements.getD id default)), d.tree.parentValue? id "transform"⟩

variable {o : Options} {text : String} {d : Document}

theorem numbers_eq_listed (name : String) (d : Document) :
    d.numbers name = d.tree.listed fun e => e.name == name :=
  rfl

theorem getD_of_mem_named {name : String} {x : Element × Nat} (h : x ∈ d.named name) :
    d.tree.elements.getD x.2 default = x.1 := by
  have hmem := (List.mem_filter.1 (List.mem_filter.1 h).1).1
  rw [List.mem_zipIdx_iff_getElem?, Array.getElem?_toList] at hmem
  rw [Array.getD_eq_getD_getElem?, hmem, Option.getD_some]

theorem shapes_eq_map (k : ShapeKind) (d : Document) :
    k.shapes d = (d.numbers k.tag).map fun id =>
      ⟨k.shape d (d.tree.elements.getD id default), d.tree.parentValue? id "transform"⟩ := by
  have hshapes : k.shapes d = (d.named k.tag).map fun x =>
      ⟨k.shape d x.1, d.tree.parentValue? x.2 "transform"⟩ := by
    cases k <;> rfl
  rw [hshapes, numbers, List.map_map]
  refine List.map_congr_left fun x hx => ?_
  rw [Function.comp_apply, getD_of_mem_named hx]

theorem parse_eq_ok_iff : parse o text = .ok d ↔
    (o.strictMarkup = false ∨ (Markup.parse text.toList).2 = []) ∧
      d = ⟨(Markup.parse text.toList).1, (Markup.parse text.toList).2, o.malformed == .skip⟩ := by
  rw [parse]
  dsimp only
  split
  · rename_i h
    rw [Bool.and_eq_true, Bool.not_eq_true', List.isEmpty_eq_false_iff] at h
    simp [h.1, h.2]
  · rename_i h
    rw [Bool.and_eq_true, Bool.not_eq_true', List.isEmpty_eq_false_iff, not_and_or, not_not,
      Bool.not_eq_true] at h
    rw [Except.ok.injEq, eq_comm, and_iff_right h]

/-- The elements of a document have one order. -/
theorem isDocumentOrder_iff_of_parse (h : parse o text = .ok d) :
    (∀ order, d.tree.IsDocumentOrder order ↔ order = d.tree.documentOrder) ∧
      d.tree.documentOrder.Nodup := by
  obtain ⟨-, rfl⟩ := parse_eq_ok_iff.1 h
  exact (isForest_parse text.toList).isDocumentOrder_iff

/-- Elements are listed in document order if no fault tells of content that moved. -/
theorem numbers_eq_of_tolerated (h : parse o text = .ok d)
    (hfaults : d.faults.countP Fault.misplaces ≤ toleratedFaults (dropOrderMark text.toList))
    (name : String) : d.numbers name = d.inDocumentOrder name := by
  have horder := ((isDocumentOrder_iff_of_parse h).1 _).2 rfl
  obtain ⟨-, rfl⟩ := parse_eq_ok_iff.1 h
  rw [numbers_eq_listed]
  exact (madeInOrder_parse hfaults).listed_eq horder _

/-- A strict run keeps document order. -/
theorem numbers_eq_of_strict (hstrict : o.strictMarkup = true) (h : parse o text = .ok d)
    (name : String) : d.numbers name = d.inDocumentOrder name := by
  obtain ⟨hparse, rfl⟩ := parse_eq_ok_iff.1 h
  have hnone := hparse.resolve_left (by rw [hstrict]; decide)
  refine numbers_eq_of_tolerated h ?_ name
  simp [hnone]

end Document

/-- The shapes of a document are listed in the order in which their elements were made, and so are
their records. The document has one order of its elements, and the shapes are listed in it
exactly if they were made in it and none was taken out of the document. That is so if no fault
tells of content that moved. -/
theorem listing_order (o : Options) (text : String) :
    (∃ e, Document.parse o text = .error e) ∨
      ∃ d, Document.parse o text = .ok d ∧
        (∀ order, d.tree.IsDocumentOrder order ↔ order = d.tree.documentOrder) ∧
        d.tree.documentOrder.Nodup ∧
        (∀ name,
          (d.numbers name).SortedLT ∧
          (∀ id, id ∈ d.numbers name ↔
            d.tree.elements[id]?.any (fun e => e.name == name) = true ∧
              (d.tree.parent? id).isSome = true) ∧
          (d.numbers name = d.inDocumentOrder name ↔
            (d.inDocumentOrder name).SortedLT ∧ ∀ id ∈ d.numbers name, d.tree.InDocument id) ∧
          (d.faults.countP Fault.misplaces ≤ toleratedFaults (dropOrderMark text.toList) →
            d.numbers name = d.inDocumentOrder name)) ∧
        d.circles = (d.numbers "circle").map d.circleAt ∧
        d.rects = (d.numbers "rect").map d.rectAt ∧
        ∃ c, extractCoordinates o text = .ok c ∧
          c.circles.map .circle = recordsOf o d.circles ∧
          c.rectangles.map .rectangle = recordsOf o d.rects := by
  cases hparse : Document.parse o text with
  | error e => exact .inl ⟨e, rfl⟩
  | ok d =>
      obtain ⟨hunique, hnodup⟩ := Document.isDocumentOrder_iff_of_parse hparse
      have horder := (hunique _).2 rfl
      refine .inr ⟨d, rfl, hunique, hnodup, fun name => ?_,
        d.shapes_eq_map .circle, d.shapes_eq_map .rectangle, _,
        extractCoordinates_of_parse hparse, d.group_extract .circle o, d.group_extract .rectangle o⟩
      have hkept := fun hfaults => Document.numbers_eq_of_tolerated hparse hfaults name
      rw [Document.numbers_eq_listed, Document.inDocumentOrder] at hkept ⊢
      refine ⟨?_, fun id => ?_, ?_, fun hfaults => ?_⟩
      · exact d.tree.sortedLT_listed _
      · exact Tree.mem_listed
      · exact horder.listed_eq_iff
      · exact hkept hfaults

/-- A circle that a frameset takes out of the document is listed. -/
example :
    let tree := (Markup.parse "<!DOCTYPE html><svg><circle></circle></svg><frameset>".toList).1
    tree.listed (fun e => e.name == "circle") = [4] ∧ tree.documentOrder = [0, 1, 5] := by
  decide +kernel

/-- A circle in a cell, and then one that may not stand in the table and moves in front of it. -/
def tablePage : String :=
  "<!DOCTYPE html><title>t</title><body><table><tr><td><circle rx=\"1\" ry=\"1\" r=\"1\"></circle>" ++
    "</td></tr><circle rx=\"2\" ry=\"2\" r=\"2\"></circle></table>"

theorem numbers_tablePage :
    ∃ d, Document.parse { missingTransform := .identity } tablePage = .ok d ∧
      d.tree.IsDocumentOrder d.tree.documentOrder ∧ d.numbers "circle" = [8, 9] ∧
        d.inDocumentOrder "circle" = [9, 8] := by
  have hparse : Document.parse { missingTransform := .identity } tablePage =
      .ok ⟨(Markup.parse tablePage.toList).1, (Markup.parse tablePage.toList).2, false⟩ :=
    Document.parse_eq_ok_iff.2 ⟨.inl rfl, rfl⟩
  refine ⟨_, hparse, ((Document.isDocumentOrder_iff_of_parse hparse).1 _).2 rfl, ?_, ?_⟩
  · decide +kernel
  · decide +kernel

end ShapeCoords
