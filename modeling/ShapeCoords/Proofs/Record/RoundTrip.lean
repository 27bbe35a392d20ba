import ShapeCoords.Proofs.Json.Objects
import ShapeCoords.Record.Reading

/-!
The JSON texts of a collection, compact or indented, are read back as the collection with its
numbers settled.
-/

namespace ShapeCoords

open Json (EndsNumber Reads ReadsBack Schema Spaces Spacing)

/-! What comes back -/

def Point.settled (p : Point) : Point :=
  ⟨Json.settled p.x, Json.settled p.y⟩

def CircleRecord.settled (c : CircleRecord) : CircleRecord :=
  ⟨c.center.settled, Json.settled c.radius⟩

def RectangleRecord.settled (r : RectangleRecord) : RectangleRecord :=
  ⟨r.topLeft.settled, r.topRight.settled, r.bottomLeft.settled, r.bottomRight.settled⟩

def ShapeRecord.settled : ShapeRecord → ShapeRecord
  | .circle c => .circle c.settled
  | .rectangle r => .rectangle r.settled

def Collection.settled (c : Collection) : Collection :=
  ⟨c.records.map ShapeRecord.settled⟩

/-! Values that stand for records -/

/-- The members of an object set the fields one after the other. -/
theorem Json.Schema.ofJson_object {σ α : Type} (s : Schema σ α) (members : List (String × Json)) :
    s.ofJson (.object members) =
      (members.foldlM s.ofMember s.start).bind fun parts => (s.finish parts).toOption :=
  rfl

theorem Point.ofJson_object {x y : Json} {a b : Float} (hx : numberOf x = some a)
    (hy : numberOf y = some b) : schema.ofJson (.object [("x", x), ("y", y)]) = some ⟨a, b⟩ := by
  rw [Schema.ofJson_object]
  simp [Schema.ofMember, schema, hx, hy]
  rfl

theorem radiusSchema_ofJson_object {r : Json} {a : Float} (hr : numberOf r = some a) :
    radiusSchema.ofJson (.object [("r", r)]) = some a := by
  rw [Schema.ofJson_object]
  simp [Schema.ofMember, radiusSchema, hr]
  rfl

theorem CircleRecord.ofJson_object {center radius : Json} {p : Point} {a : Float}
    (hcenter : Point.schema.ofJson center = some p)
    (hradius : radiusSchema.ofJson radius = some a) :
    schema.ofJson (.object [("center", center), ("radius", radius)]) = some ⟨p, a⟩ := by
  rw [Schema.ofJson_object]
  simp [Schema.ofMember, schema, hcenter, hradius]
  rfl

section Rectangle

variable {topLeft topRight bottomLeft bottomRight : Json}

/-- The fields of a rectangle are none of a circle's. -/
theorem CircleRecord.ofJson_corners :
    schema.ofJson (.object [("topLeft", topLeft), ("topRight", topRight),
      ("bottomLeft", bottomLeft), ("bottomRight", bottomRight)]) = none :=
  rfl

theorem RectangleRecord.ofJson_object {p q r s : Point}
    (htopLeft : Point.schema.ofJson topLeft = some p)
    (htopRight : Point.schema.ofJson topRight = some q)
    (hbottomLeft : Point.schema.ofJson bottomLeft = some r)
    (hbottomRight : Point.schema.ofJson bottomRight = some s) :
    schema.ofJson (.object [("topLeft", topLeft), ("topRight", topRight),
      ("bottomLeft", bottomLeft), ("bottomRight", bottomRight)]) = some ⟨p, q, r, s⟩ := by
  rw [Schema.ofJson_object]
  simp [Schema.ofMember, schema, htopLeft, htopRight, hbottomLeft, hbottomRight]
  rfl

end Rectangle

/-! Records -/

theorem Point.exists_readsBack (d : Nat) (p : Point) :
    ∃ j, schema.ofJson j = some p.settled ∧ ReadsBack (d + 1) p.toJson j := by
  obtain ⟨x, hx, hreadsX⟩ := Json.exists_readsBack_float d p.x
  obtain ⟨y, hy, hreadsY⟩ := Json.exists_readsBack_float d p.y
  exact ⟨.object [("x", x), ("y", y)], ofJson_object hx hy,
    ReadsBack.object (.cons ⟨rfl, hreadsX⟩ (.cons ⟨rfl, hreadsY⟩ .nil))⟩

theorem CircleRecord.exists_readsBack (d : Nat) (c : CircleRecord) :
    ∃ j, schema.ofJson j = some c.settled ∧ ReadsBack (d + 2) c.toJson j := by
  obtain ⟨center, hcenter, hreadsCenter⟩ := c.center.exists_readsBack d
  obtain ⟨r, hr, hreadsR⟩ := Json.exists_readsBack_float d c.radius
  have hreadsRadius : ReadsBack (d + 1) (.object [("r", .float c.radius)]) (.object [("r", r)]) :=
    ReadsBack.object (.cons ⟨rfl, hreadsR⟩ .nil)
  exact ⟨.object [("center", center), ("radius", .object [("r", r)])],
    ofJson_object hcenter (radiusSchema_ofJson_object hr),
    ReadsBack.object (.cons ⟨rfl, hreadsCenter⟩ (.cons ⟨rfl, hreadsRadius⟩ .nil))⟩

/-- A rectangle is not taken for a circle. -/
theorem RectangleRecord.exists_readsBack (d : Nat) (r : RectangleRecord) :
    ∃ j, CircleRecord.schema.ofJson j = none ∧ schema.ofJson j = some r.settled ∧
      ReadsBack (d + 2) r.toJson j := by
  obtain ⟨topLeft, htopLeft, hreadsTopLeft⟩ := r.topLeft.exists_readsBack d
  obtain ⟨topRight, htopRight, hreadsTopRight⟩ := r.topRight.exists_readsBack d
  obtain ⟨bottomLeft, hbottomLeft, hreadsBottomLeft⟩ := r.bottomLeft.exists_readsBack d
  obtain ⟨bottomRight, hbottomRight, hreadsBottomRight⟩ := r.bottomRight.exists_readsBack d
  exact ⟨.object [("topLeft", topLeft), ("topRight", topRight), ("bottomLeft", bottomLeft),
      ("bottomRight", bottomRight)], CircleRecord.ofJson_corners,
    ofJson_object htopLeft htopRight hbottomLeft hbottomRight,
    ReadsBack.object (.cons ⟨rfl, hreadsTopLeft⟩ (.cons ⟨rfl, hreadsTopRight⟩
      (.cons ⟨rfl, hreadsBottomLeft⟩ (.cons ⟨rfl, hreadsBottomRight⟩ .nil))))⟩

theorem ShapeRecord.exists_readsBack (d : Nat) (r : ShapeRecord) :
    ∃ j, ofJson j = some r.settled ∧ ReadsBack (d + 2) r.toJson j := by
  cases r with
  | circle c =>
      obtain ⟨j, hj, hreads⟩ := c.exists_readsBack d
      refine ⟨j, ?_, hreads⟩
      rw [ofJson, hj]
      rfl
  | rectangle r =>
      obtain ⟨j, hcircle, hj, hreads⟩ := r.exists_readsBack d
      refine ⟨j, ?_, hreads⟩
      rw [ofJson, hcircle, hj]
      rfl

section Reading

variable (sp : Spacing) (depth : Nat) {w t : List Char}

theorem ShapeRecord.reads (d : Nat) (r : ShapeRecord) (hw : Spaces w) (ht : EndsNumber t) :
    Reads (reader (d + 2)) (w ++ (r.toJson.spaced sp depth ++ t)) r.settled t := by
  obtain ⟨j, hj, hreads⟩ := r.exists_readsBack d
  refine (hreads sp depth w t hw ht).bind ?_
  rw [hj]
  exact Reads.pure _ t

theorem ShapeRecord.exists_spaced_eq_cons (r : ShapeRecord) :
    ∃ s, r.toJson.spaced sp depth = '\x7b' :: s := by
  cases r <;> exact ⟨_, rfl⟩

/-! Collections -/

/-- What the reader of collections does with an item. -/
def Collection.recordItem (read : List ShapeRecord) : Json.Reader (List ShapeRecord) := do
  return (← ShapeRecord.reader 126) :: read

theorem endsNumber_spacedItems (vs : List Json) (hw : Spaces w) (t : List Char) :
    EndsNumber (Json.spacedItems sp depth false vs ++ (w ++ ']' :: t)) := by
  cases vs with
  | nil =>
      rw [Json.spacedItems, List.nil_append]
      exact EndsNumber.spaces hw (EndsNumber.cons (by decide) t)
  | cons v vs =>
      rw [Json.spacedItems_false_cons]
      exact EndsNumber.cons (by decide) _

theorem Collection.repeats_recordItem (rs : List ShapeRecord) (first : Bool)
    (acc : List ShapeRecord) (hw : Spaces w) (t : List Char) :
    ∃ first', Json.Repeats (Json.itemStep recordItem) (first, acc)
      (Json.spacedItems sp depth first (rs.map ShapeRecord.toJson) ++ (w ++ ']' :: t))
      (first', (rs.map ShapeRecord.settled).reverse ++ acc) (']' :: t) := by
  induction rs generalizing first acc with
  | nil => exact ⟨first, .stop ((Reads.nextItem_end hw t).bind (Reads.pure _ _))⟩
  | cons r rs ih =>
      obtain ⟨first', hrest⟩ := ih false (r.settled :: acc)
      have hend := endsNumber_spacedItems sp depth (rs.map ShapeRecord.toJson) hw t
      -- the list around the records is the first of the 127 levels
      have hrecord := r.reads sp depth 124 Spaces.nil hend
      obtain ⟨s, hs⟩ := r.exists_spaced_eq_cons sp depth
      refine ⟨first', ?_⟩
      rw [List.map_cons, List.map_cons, List.reverse_cons, List.append_assoc, List.singleton_append,
        Json.spacedItems]
      simp only [List.append_assoc]
      rw [hs, List.nil_append, List.cons_append] at hrecord
      rw [hs, List.cons_append]
      refine .next ?_ ?_ hrest
      · refine (Reads.nextItem Spaces.nil (sp.lineBreak_spaces depth) rfl (by decide) _).bind ?_
        exact Reads.bind (hrecord.bind (Reads.pure _ _)) (Reads.pure _ _)
      · simp only [List.length_append, List.length_cons]
        omega

theorem Collection.reads_spaced (c : Collection) (t : List Char) :
    Reads reader (c.toJson.spaced sp 0 ++ t) c.settled t := by
  obtain ⟨first, hitems⟩ := repeats_recordItem sp 1 c.records true []
    (sp.closing_spaces 0 (c.records.map ShapeRecord.toJson)) t
  rw [toJson, Json.spaced, List.cons_append, List.append_assoc, List.append_assoc,
    List.singleton_append]
  refine (Reads.valueStart Spaces.nil rfl _).bind (Reads.locate ((Reads.skip '[' _).bind ?_))
  refine ((hitems.reads_eachItem).closedBy (Reads.listEnd Spaces.nil t)).bind ?_
  rw [List.append_nil, List.reverse_reverse]
  exact Reads.pure _ t

theorem Collection.parse_spaced_append (c : Collection) (hw : Spaces w) :
    parse (String.ofList (c.toJson.spaced sp 0 ++ w)) = .ok c.settled :=
  Json.run_of_reads_spaces (c.reads_spaced sp w) hw

theorem Collection.parse_spaced (c : Collection) :
    parse (String.ofList (c.toJson.spaced sp 0)) = .ok c.settled := by
  have hparse := c.parse_spaced_append sp Spaces.nil
  rwa [List.append_nil] at hparse

end Reading

/-! Writing again -/

theorem Point.compact_settled (p : Point) : p.settled.toJson.compact = p.toJson.compact := by
  simp only [settled, toJson, Json.compact, Json.compactMembers, Json.numberText_settled]

theorem ShapeRecord.compact_settled (r : ShapeRecord) :
    r.settled.toJson.compact = r.toJson.compact := by
  cases r with
  | circle c =>
      simp only [settled, CircleRecord.settled, toJson, CircleRecord.toJson, Json.compact,
        Json.compactMembers, Point.compact_settled, Json.numberText_settled]
  | rectangle r =>
      simp only [settled, RectangleRecord.settled, toJson, RectangleRecord.toJson, Json.compact,
        Json.compactMembers, Point.compact_settled]

theorem compactItems_settled (rs : List ShapeRecord) :
    Json.compactItems ((rs.map ShapeRecord.settled).map ShapeRecord.toJson) =
      Json.compactItems (rs.map ShapeRecord.toJson) := by
  induction rs with
  | nil => rfl
  | cons r rs ih =>
      cases rs with
      | nil => exact r.compact_settled
      | cons r' rs =>
          simp only [List.map_cons, Json.compactItems, r.compact_settled] at ih ⊢
          rw [ih]

/-- Both texts of a collection are read back. The collection read has the same records of the same
shapes in the same order, its numbers settled, and the same text. -/
theorem Collection.json_round_trip (c : Collection) :
    parse c.json = .ok c.settled ∧ parse c.prettyJson = .ok c.settled ∧
      c.settled.json = c.json := by
  refine ⟨?_, ?_, ?_⟩
  · rw [json, Json.compact_eq_spaced 0]
    exact Collection.parse_spaced Json.dense c
  · rw [prettyJson, Json.pretty, Json.prettyAt_eq_spaced 0]
    exact Collection.parse_spaced Json.indented c
  · rw [json, json, toJson, toJson, Json.compact, Json.compact, settled, compactItems_settled]

end ShapeCoords
