import ShapeCoords.Proofs.Json.Structures
import ShapeCoords.Record.Reading

/-!
A text of any JSON value is read as a record of either shape just as it is read as a circle or else
as a rectangle, and a list is read as a collection just as its items are read as records.
-/

namespace ShapeCoords

open Json (Agrees EndsNumber Fails Gives IsNumberToken IsText Items Reads Spaces Took)
open Json.Reader
open Text (isAsciiDigit)

/-! Numbers -/

section Numbers

variable {negative : Bool} {s t w : List Char} {v : Json} {c : Char}

/-- What `float` does behind the sign. -/
def numberAsFloat (negative : Bool) : Json.Reader Float := do
  match ← number negative with
  | .int i => return Number.Decimal.toFloat ⟨decide (i < 0), i.natAbs, 0⟩
  | .float v => return v
  | _ => failNext .expectedValue

theorem gives_numberAsFloat (h : IsNumberToken negative s v) (ht : EndsNumber t) :
    Gives (numberAsFloat negative) (s ++ t) (numberOf v) t := by
  refine Gives.of_reads (h.reads t ht) ?_
  cases h.isNumeric with
  | int i => exact Reads.pure _ t
  | float v => exact Reads.pure v t

/-- Where there is no `null`, a number must follow. -/
theorem gives_floatOrNull {x : Option Float} (hw : Spaces w) (hc : isSpace c = false)
    (hnull : c ≠ 'n') (h : Gives float (c :: s) x t) : Gives floatOrNull (w ++ c :: s) x t := by
  refine Gives.of_reads (Reads.peekToken hw hc s) ?_
  split
  · next hnext => exact absurd (Option.some.inj hnext) hnull
  · exact h

theorem fails_floatOrNull (hw : Spaces w) (hc : isSpace c = false) (hnull : c ≠ 'n')
    (hminus : c ≠ '-') (hdigit : isAsciiDigit c = false) (s : List Char) :
    Fails floatOrNull (w ++ c :: s) := by
  have hnumber : ¬(c = '-' ∨ isAsciiDigit c = true) := by
    rw [hdigit]
    exact not_or.2 ⟨hminus, Bool.false_ne_true⟩
  have hfloat : Fails float (c :: s) := by
    refine (Reads.valueStart Spaces.nil hc s).fails ?_
    rw [if_neg hnumber]
    exact Json.fails_wrongType _ _
  exact gives_floatOrNull (x := none) (t := s) hw hc hnull hfloat

theorem gives_float_digit {x : Option Float} (hc : isAsciiDigit c = true)
    (h : Gives (numberAsFloat false) (c :: s) x t) : Gives float (c :: s) x t := by
  have hminus : c ≠ '-' := by
    rintro rfl
    cases hc
  refine Gives.of_reads (Reads.valueStart Spaces.nil (Json.isSpace_of_isAsciiDigit hc) s) ?_
  rw [if_pos (Or.inr hc), if_neg hminus, beq_false_of_ne hminus]
  exact h

theorem agrees_floatOrNull (d : Nat) : Agrees (IsText d) floatOrNull numberOf := by
  intro s v w t hs hw ht
  obtain ⟨inner, htext, -⟩ := hs.exists_inner
  cases htext with
  | null => exact (Reads.peekToken hw rfl _).bind (Reads.skip_word 'n' _ t (Reads.pure _ t))
  | isTrue => exact fails_floatOrNull hw rfl (by decide) (by decide) rfl _
  | isFalse => exact fails_floatOrNull hw rfl (by decide) (by decide) rfl _
  | string hstring =>
      cases hstring
      exact fails_floatOrNull hw rfl (by decide) (by decide) rfl _
  | number hnumber =>
      have hfloat := gives_numberAsFloat hnumber ht
      obtain ⟨c, u, rfl, hc⟩ := hnumber.exists_eq_cons
      refine gives_floatOrNull hw (Json.isSpace_of_isAsciiDigit hc) ?_ (gives_float_digit hc hfloat)
      rintro rfl
      cases hc
  | negative hnumber =>
      refine gives_floatOrNull hw rfl (by decide) ?_
      refine Gives.of_reads (Reads.valueStart Spaces.nil rfl _) ?_
      exact Gives.of_reads (Reads.skip '-' _) (gives_numberAsFloat hnumber ht)
  | array => exact fails_floatOrNull hw rfl (by decide) (by decide) rfl _
  | object => exact fails_floatOrNull hw rfl (by decide) (by decide) rfl _

end Numbers

/-! Structures -/

theorem Point.agrees (d : Nat) : Agrees (IsText d) schema.reader schema.ofJson := by
  refine schema.agrees rfl (fun f hf d => ?_) d
  simp only [schema, List.mem_cons, List.not_mem_nil, or_false] at hf
  obtain rfl | rfl := hf
  · exact (agrees_floatOrNull d).map _
  · exact (agrees_floatOrNull d).map _

theorem agrees_radius (d : Nat) :
    Agrees (IsText d) radiusSchema.reader radiusSchema.ofJson := by
  refine radiusSchema.agrees rfl (fun f hf d => ?_) d
  simp only [radiusSchema, List.mem_singleton] at hf
  obtain rfl := hf
  exact (agrees_floatOrNull d).map _

theorem CircleRecord.agrees (d : Nat) : Agrees (IsText d) schema.reader schema.ofJson := by
  refine schema.agrees rfl (fun f hf d => ?_) d
  simp only [schema, List.mem_cons, List.not_mem_nil, or_false] at hf
  obtain rfl | rfl := hf
  · exact (Point.agrees d).map _
  · exact (agrees_radius d).map _

theorem RectangleRecord.agrees (d : Nat) : Agrees (IsText d) schema.reader schema.ofJson := by
  refine schema.agrees rfl (fun f hf d => ?_) d
  simp only [schema, List.mem_cons, List.not_mem_nil, or_false] at hf
  obtain rfl | rfl | rfl | rfl := hf
  all_goals exact (Point.agrees d).map _

theorem ShapeRecord.agrees (d : Nat) : Agrees (IsText d) (reader d) ofJson := by
  intro s v w t hs hw ht
  refine Gives.of_reads (Json.agrees_any d s v w t hs hw ht) ?_
  cases ofJson v with
  | some r => exact Reads.pure r t
  | none => exact Json.fails_fail _ t

/-! Whole texts -/

section Texts

variable {text : String} {v : Json}

/-- A whole text is read as what its value stands for. -/
theorem Json.Agrees.exists_gives {α : Type} {r : Json.Reader α} {f : Json → Option α}
    (h : Agrees (IsText maxDepth) r f) (hv : Json.parse text = .ok v) :
    ∃ w, Spaces w ∧ Gives r text.toList (f v) w := by
  obtain ⟨w, s, w', htext, hw, hw', hs⟩ := Json.parse_eq_ok_iff.1 hv
  rw [htext]
  exact ⟨w', hw', h s v w w' hs hw hw'.endsNumber⟩

theorem Json.Agrees.toOption_run {α : Type} {r : Json.Reader α} {f : Json → Option α}
    (h : Agrees (IsText maxDepth) r f) (hv : Json.parse text = .ok v) :
    (r.run text).toOption = f v := by
  obtain ⟨w, hw, hgives⟩ := h.exists_gives hv
  exact Json.toOption_run hgives hw

theorem ShapeRecord.parse_eq_ok_iff (hv : Json.parse text = .ok v) (r : ShapeRecord) :
    parse text = .ok r ↔ ofJson v = some r := by
  obtain ⟨w, hw, hgives⟩ := (agrees maxDepth).exists_gives hv
  exact Json.run_eq_ok_iff hgives hw

/-- A record of either shape is a circle where a circle can be read, and else a rectangle. -/
theorem ShapeRecord.toOption_parse (hv : Json.parse text = .ok v) :
    (parse text).toOption = ((CircleRecord.parse text).toOption.map .circle <|>
      (RectangleRecord.parse text).toOption.map .rectangle) := by
  have hshape : (parse text).toOption = ofJson v := (agrees maxDepth).toOption_run hv
  have hcircle : (CircleRecord.parse text).toOption = CircleRecord.schema.ofJson v :=
    (CircleRecord.agrees maxDepth).toOption_run hv
  have hrectangle : (RectangleRecord.parse text).toOption = RectangleRecord.schema.ofJson v :=
    (RectangleRecord.agrees maxDepth).toOption_run hv
  rw [hshape, hcircle, hrectangle, ofJson]

/-- The text of a list is made up of the given texts, in brackets and with white space anywhere. -/
def IsListOf (text : String) (es : List String) : Prop :=
  ∃ w body w' w'', text.toList = w ++ '[' :: (body ++ (w' ++ ']' :: w'')) ∧ Spaces w ∧
    Spaces w' ∧ Spaces w'' ∧ Items (fun e str => e = String.toList str) true body es

theorem Json.Items.exists_texts {β : Type} {P : List Char → β → Prop} {first : Bool}
    {s : List Char} {xs : List β} (hs : Items P first s xs) :
    ∃ es, Items (fun e str => e = String.toList str) first s es ∧
      List.Forall₂ (fun e x => P (String.toList e) x) es xs := by
  induction hs with
  | nil first => exact ⟨[], .nil first, .nil⟩
  | @cons first w w' e s x xs hw hw' he _ ih =>
      obtain ⟨es, hes, hP⟩ := ih
      refine ⟨String.ofList e :: es, .cons hw hw' String.toList_ofList.symm hes, .cons ?_ hP⟩
      rwa [String.toList_ofList]

variable {vs : List Json}

/-- The text of a list is made up of the texts of its items. -/
theorem exists_isListOf (hv : Json.parse text = .ok (.array vs)) :
    ∃ es, IsListOf text es ∧ List.Forall₂ (fun e v => Json.parse e = .ok v) es vs := by
  obtain ⟨w, s, w'', htext, hw, hw'', hs⟩ := Json.parse_eq_ok_iff.1 hv
  obtain ⟨d, body, w', hd, rfl, hbody, hw'⟩ := hs.of_array
  obtain ⟨es, hes, hP⟩ := hbody.exists_texts
  refine ⟨es, ⟨w, body, w', w'', ?_, hw, hw', hw'', hes⟩, hP.imp fun e v he => ?_⟩
  · rw [htext]
    simp
  · rw [Json.parse_eq_ok_iff, hd]
    exact ⟨[], e.toList, [], by simp, Spaces.nil, Spaces.nil, he.succ⟩

/-- The values of the items stand for the records in their order. -/
theorem Collection.parse_eq_ok_iff (hv : Json.parse text = .ok (.array vs)) (c : Collection) :
    parse text = .ok c ↔ List.Forall₂ (fun v r => ShapeRecord.ofJson v = some r) vs c.records := by
  obtain ⟨w, s, w'', htext, hw, hw'', hs⟩ := Json.parse_eq_ok_iff.1 hv
  obtain ⟨d, body, w', hd, rfl, hbody, hw'⟩ := hs.of_array
  obtain rfl : d = maxDepth - 1 := by omega
  have hitems := (ShapeRecord.agrees (maxDepth - 1)).gives_items (fun e x he => he.exists_eq_cons)
    hbody hw' w''
  have hreader : Gives reader text.toList ((vs.foldlM
      (fun read v => (ShapeRecord.ofJson v).map fun r => r :: read) []).map
      fun read => ⟨read.reverse⟩) w'' := by
    simp only [htext, List.cons_append, List.append_assoc, List.nil_append]
    refine Gives.of_reads (Reads.valueStart hw rfl _) (Gives.locate ?_)
    exact Gives.of_reads (Reads.skip '[' _) (hitems.map fun read => Collection.mk read.reverse)
  rw [parse, Json.run_eq_ok_iff hreader hw'', Option.map_eq_some_iff]
  simp only [Json.foldlM_push_eq_some_iff, List.append_nil]
  constructor
  · rintro ⟨_, ⟨rs, hrs, rfl⟩, rfl⟩
    rwa [List.reverse_reverse]
  · intro h
    exact ⟨_, ⟨_, h, rfl⟩, by rw [List.reverse_reverse]⟩

theorem forall₂_parse_iff {es : List String}
    (h : List.Forall₂ (fun e v => Json.parse e = .ok v) es vs) (rs : List ShapeRecord) :
    List.Forall₂ (fun e r => ShapeRecord.parse e = .ok r) es rs ↔
      List.Forall₂ (fun v r => ShapeRecord.ofJson v = some r) vs rs := by
  induction h generalizing rs with
  | nil => simp only [List.forall₂_nil_left_iff]
  | @cons e v es vs he _ ih =>
      cases rs with
      | nil => simp
      | cons r rs => rw [List.forall₂_cons, List.forall₂_cons, ih, ShapeRecord.parse_eq_ok_iff he]

/-! Texts of other forms -/

/-- The first character behind white space is the start of a list or an object. -/
def OpensListOrObject (text : String) : Prop :=
  ∃ w c s, text.toList = w ++ c :: s ∧ Spaces w ∧ (c = '[' ∨ c = '\x7b')

theorem Json.Schema.opensListOrObject {σ α : Type} {s : Json.Schema σ α} {a : α}
    (h : s.reader.run text = .ok a) : OpensListOrObject text := by
  obtain ⟨t, -, htook⟩ := Json.took_of_run h
  exact s.exists_of_took htook

theorem ShapeRecord.opensListOrObject {r : ShapeRecord} (h : parse text = .ok r) :
    OpensListOrObject text := by
  obtain ⟨t, -, htook⟩ := Json.took_of_run h
  obtain ⟨v, t', hv, hrecord⟩ := htook.of_bind
  obtain ⟨w, e, hw, htext, he⟩ := Json.takesTexts_any _ _ _ _ hv
  cases v with
  | array vs =>
      obtain ⟨-, body, w', -, rfl, -⟩ := he.of_array
      exact ⟨w, '[', _, htext, hw, .inl rfl⟩
  | object ms =>
      obtain ⟨-, body, w', -, rfl, -⟩ := he.of_object
      exact ⟨w, '\x7b', _, htext, hw, .inr rfl⟩
  | _ => exact absurd hrecord (Json.fails_fail _ _).not_took

/-- Reading a record of either shape agrees with reading a circle and with reading a rectangle, and
reading a collection agrees with reading its items, whatever JSON value the text is of. -/
theorem untagged_agrees (text : String) :
    (∀ v, Json.parse text = .ok v →
      (ShapeRecord.parse text).toOption = ((CircleRecord.parse text).toOption.map .circle <|>
        (RectangleRecord.parse text).toOption.map .rectangle) ∧
      ∀ vs, v = .array vs → ∃ es, IsListOf text es ∧
        List.Forall₂ (fun e v => Json.parse e = .ok v) es vs ∧
        ∀ c, Collection.parse text = .ok c ↔
          List.Forall₂ (fun e r => ShapeRecord.parse e = .ok r) es c.records) ∧
      (¬OpensListOrObject text → (∀ r, ShapeRecord.parse text ≠ .ok r) ∧
        (∀ c, CircleRecord.parse text ≠ .ok c) ∧ ∀ r, RectangleRecord.parse text ≠ .ok r) := by
  refine ⟨fun v hv => ⟨ShapeRecord.toOption_parse hv, ?_⟩, fun hopens => ?_⟩
  · rintro vs rfl
    obtain ⟨es, htext, hes⟩ := exists_isListOf hv
    refine ⟨es, htext, hes, fun c => ?_⟩
    rw [Collection.parse_eq_ok_iff hv, forall₂_parse_iff hes]
  · exact ⟨fun r h => hopens (ShapeRecord.opensListOrObject h),
      fun c h => hopens (Json.Schema.opensListOrObject h),
      fun r h => hopens (Json.Schema.opensListOrObject h)⟩

/-- A circle as a list of its fields, of which the second is no record, and a text of no record. -/
theorem untagged_agrees_list :
    let text := "[[null,null],[null]]"
    let items : List Json := [.array [.null, .null], .array [.null]]
    Json.parse text = .ok (.array items) ∧
      (ShapeRecord.parse text).toOption =
        some (.circle ⟨⟨Number.nan, Number.nan⟩, Number.nan⟩) ∧
      (∃ es, IsListOf text es ∧ List.Forall₂ (fun e v => Json.parse e = .ok v) es items ∧
        ∀ c, Collection.parse text = .ok c ↔
          List.Forall₂ (fun e r => ShapeRecord.parse e = .ok r) es c.records) ∧
      ¬OpensListOrObject "null" ∧ ∀ r, ShapeRecord.parse "null" ≠ .ok r := by
  intro text items
  have hv : Json.parse text = .ok (.array items) := by cbv
  have hcircle : (CircleRecord.parse text).toOption =
      some ⟨⟨Number.nan, Number.nan⟩, Number.nan⟩ := (CircleRecord.agrees maxDepth).toOption_run hv
  have hopens : ¬OpensListOrObject "null" := by
    rintro ⟨w, c, s, hs, hw, hc⟩
    cases w with
    | nil =>
        obtain rfl : 'n' = c := (List.cons.inj hs).1
        exact absurd hc (by decide)
    | cons d w =>
        obtain rfl : 'n' = d := (List.cons.inj hs).1
        exact absurd (hw 'n' List.mem_cons_self) (by decide)
  obtain ⟨hshape, hlist⟩ := (untagged_agrees text).1 _ hv
  rw [hcircle] at hshape
  exact ⟨hv, hshape, hlist items rfl, hopens,
    ((untagged_agrees "null").2 hopens).1⟩

end Texts

end ShapeCoords
