import Mathlib.Data.List.Basic
import ShapeCoords.Document
import ShapeCoords.Proofs.Markup.Growth

/-!
The two groups of an extraction: the records of all circles, and then those of all rectangles.
-/

namespace ShapeCoords

open Markup (Element Tree)

/-! Kinds of shapes -/

inductive ShapeKind where
  | circle
  | rectangle
  deriving DecidableEq

namespace ShapeKind

def has : ShapeKind → Primitive → Bool
  | circle => Primitive.isCircle
  | rectangle => Primitive.isRect

def tag : ShapeKind → String
  | circle => "circle"
  | rectangle => "rect"

def Record : ShapeKind → Type
  | circle => CircleRecord
  | rectangle => RectangleRecord

def wrap : (k : ShapeKind) → k.Record → ShapeRecord
  | circle => .circle
  | rectangle => .rectangle

def record? : (k : ShapeKind) → ShapeRecord → Option k.Record
  | circle => ShapeRecord.circle?
  | rectangle => ShapeRecord.rectangle?

def group (k : ShapeKind) (c : Collection) : List k.Record :=
  c.records.filterMap k.record?

def shapes : ShapeKind → Document → List Primitive
  | circle => Document.circles
  | rectangle => Document.rects

/-- The shape that an element would be. -/
def shape (d : Document) (e : Element) : ShapeKind → Shape
  | circle => .circle (d.circle e)
  | rectangle => .rect (d.rect e)

/-- The shapes of a kind among some elements. -/
def among (k : ShapeKind) (d : Document) (es : List (Element × Option String)) : List Primitive :=
  (es.filter fun x => x.1.name == k.tag).map fun x => ⟨k.shape d x.1, x.2⟩

theorem shapes_eq_among (k : ShapeKind) (d : Document) : k.shapes d = k.among d d.tree.seen := by
  cases k <;>
    simp [shapes, among, tag, shape, Document.circles, Document.rects, Document.named, Tree.seen,
      List.filter_map, Function.comp_def]

theorem among_append (k : ShapeKind) (d : Document) (es fs : List (Element × Option String)) :
    k.among d (es ++ fs) = k.among d es ++ k.among d fs := by
  simp [among]

theorem wrap_injective (k : ShapeKind) : Function.Injective k.wrap := by
  cases k with
  | circle => exact fun _ _ => ShapeRecord.circle.inj
  | rectangle => exact fun _ _ => ShapeRecord.rectangle.inj

theorem map_wrap_group (k : ShapeKind) (c : Collection) :
    (k.group c).map k.wrap = c.records.filter fun r => (k.record? r).isSome := by
  have hguard (r : ShapeRecord) :
      (k.record? r).map k.wrap = Option.guard (fun r => (k.record? r).isSome) r := by
    cases k <;> cases r <;> rfl
  rw [group, List.map_filterMap, ← List.filterMap_eq_filter]
  exact List.filterMap_congr fun r _ => hguard r

end ShapeKind

/-! Records -/

def recordsOf (o : Options) (ps : List Primitive) : List ShapeRecord :=
  ps.filterMap fun p => (record o p).toOption

theorem toOption_eq_some_iff {ε α : Type} {e : Except ε α} {a : α} :
    e.toOption = some a ↔ e = .ok a := by
  cases e <;> simp [Except.toOption]

theorem exists_of_map_eq_ok {ε α β : Type} {f : α → β} {e : Except ε α} {b : β}
    (h : e.map f = .ok b) : ∃ a, e = .ok a ∧ f a = b := by
  cases e with
  | error _ => cases h
  | ok a => exact ⟨a, rfl, Except.ok.inj h⟩

theorem recordsOf_flatMap {α : Type} (o : Options) (f : α → List Primitive) (as : List α) :
    recordsOf o (as.flatMap f) = as.flatMap fun a => recordsOf o (f a) :=
  List.filterMap_flatMap

namespace ShapeKind

/-- The record of a shape is of its kind. -/
theorem isSome_record? (k : ShapeKind) {o : Options} {p : Primitive} {r : ShapeRecord}
    (h : record o p = .ok r) : (k.record? r).isSome = k.has p := by
  obtain ⟨shape, parent⟩ := p
  cases shape with
  | circle a =>
      obtain ⟨c, -, rfl⟩ := exists_of_map_eq_ok h
      cases k <;> rfl
  | rect a =>
      obtain ⟨c, -, rfl⟩ := exists_of_map_eq_ok h
      cases k <;> rfl

theorem filter_recordsOf (k : ShapeKind) (o : Options) (ps : List Primitive) :
    (recordsOf o ps).filter (fun r => (k.record? r).isSome) = recordsOf o (ps.filter k.has) := by
  rw [recordsOf, recordsOf, List.filter_filterMap, List.filterMap_filter]
  refine List.filterMap_congr fun p _ => ?_
  cases h : record o p with
  | error reason => simp [Except.toOption]
  | ok r => simp [Except.toOption, Option.filter, k.isSome_record? h]

end ShapeKind

/-! Circles first -/

theorem ShapeKind.filter_circlesFirst (k : ShapeKind) (ps : List Primitive) :
    (circlesFirst ps).filter k.has = ps.filter k.has := by
  cases k with
  | circle => simp [circlesFirst, has, Primitive.isRect, List.filter_filter]
  | rectangle =>
      change _ = ps.filter fun p => !p.isCircle
      simp [circlesFirst, has, Primitive.isRect, List.filter_filter]

theorem circlesFirst_eq (ps : List Primitive) :
    circlesFirst ps = ps.filter ShapeKind.circle.has ++ ps.filter ShapeKind.rectangle.has :=
  rfl

/-- Putting circles first leaves shapes as they are of which the circles come first. -/
theorem circlesFirst_circlesFirst (ps : List Primitive) :
    circlesFirst (circlesFirst ps) = circlesFirst ps := by
  rw [circlesFirst_eq (circlesFirst ps), ShapeKind.filter_circlesFirst,
    ShapeKind.filter_circlesFirst, ← circlesFirst_eq]

theorem extract_eq_recordsOf (o : Options) (ps : List Primitive) :
    extract o ps =
      ⟨recordsOf o (ps.filter Primitive.isCircle) ++ recordsOf o (ps.filter Primitive.isRect)⟩ := by
  rw [extract, circlesFirst, List.filterMap_append]
  rfl

/-- The group of a kind in an extraction has the records of the shapes of that kind. -/
theorem ShapeKind.group_extract (k : ShapeKind) (o : Options) (ps : List Primitive) :
    (k.group (extract o ps)).map k.wrap = recordsOf o (ps.filter k.has) := by
  rw [map_wrap_group, ← filter_circlesFirst, ← filter_recordsOf]
  rfl

namespace Document

variable {d : Document} {p : Primitive}

theorem has_of_mem_shapes {j : ShapeKind} (h : p ∈ j.shapes d) (k : ShapeKind) :
    k.has p = decide (j = k) := by
  cases j <;> obtain ⟨x, -, rfl⟩ := List.mem_map.1 h <;> cases k <;> rfl

theorem filter_shapes (j k : ShapeKind) (d : Document) :
    (j.shapes d).filter k.has = if j = k then j.shapes d else [] := by
  split
  · next h => exact List.filter_eq_self.2 fun p hp => by rw [has_of_mem_shapes hp, decide_eq_true h]
  · next h =>
    refine List.filter_eq_nil_iff.2 fun p hp => ?_
    rw [has_of_mem_shapes hp, decide_eq_false h]
    exact Bool.false_ne_true

theorem filter_primitives (k : ShapeKind) (d : Document) :
    d.primitives.filter k.has = k.shapes d := by
  change (ShapeKind.circle.shapes d ++ ShapeKind.rectangle.shapes d).filter k.has = _
  rw [List.filter_append, filter_shapes, filter_shapes]
  cases k <;> simp

theorem circlesFirst_primitives (d : Document) : circlesFirst d.primitives = d.primitives := by
  rw [circlesFirst_eq, filter_primitives, filter_primitives]
  rfl

/-- The records of a document are those of its circles and then those of its rectangles. -/
theorem extract_eq (o : Options) (d : Document) :
    extract o d.primitives = ⟨recordsOf o d.circles ++ recordsOf o d.rects⟩ := by
  rw [extract, circlesFirst_primitives, primitives, List.filterMap_append]
  rfl

theorem group_extract (k : ShapeKind) (o : Options) (d : Document) :
    (k.group (extract o d.primitives)).map k.wrap = recordsOf o (k.shapes d) := by
  rw [k.group_extract, filter_primitives]

end Document

theorem extractCoordinates_of_parse {o : Options} {text : String} {d : Document}
    (h : Document.parse o text = .ok d) :
    extractCoordinates o text = .ok (extract o d.primitives) := by
  rw [extractCoordinates, extractMarkup, h]
  rfl

end ShapeCoords
