import ShapeCoords.Proofs.Extraction.Grouping
import ShapeCoords.Proofs.Json.NumberText

/-!
Skipping malformed shapes takes records out of an extraction and changes none of the others: those
that are not finite, and those of elements with a blank attribute they are computed from.
-/

namespace ShapeCoords

open Markup (Element)

/-! The undefined number -/

namespace Number

theorem unpack_nan : nan.toModel.unpack = .notANumber := by rfl

theorem isFinite_nan : isFinite nan = false := by rfl

theorem nan_add (x : Float) : nan + x = nan := by
  change Float.ofModel (Float.Model.pack
    (Float.Model.UnpackedFloat.add .binary64 nan.toModel.unpack x.toModel.unpack)) = nan
  rw [unpack_nan]
  cases x.toModel.unpack <;> rfl

end Number

/-! Blank attributes -/

/-- The attributes that the record of an element is computed from. -/
def usedNames (o : Options) (e : Element) : List String :=
  if e.name = "circle" then
    match o.circleCenter with
    | .radii => ["rx", "ry", "r"]
    | .center => ["cx", "cy", "r"]
  else ["x", "y", "width", "height"]

def isBlankIn (e : Element) (name : String) : Bool :=
  (e.value? name).any fun value => Text.allBlank value.toList

/-- Whether one of them is there and is blank. -/
def carriesBlank (o : Options) (e : Element) : Bool :=
  (usedNames o e).any (isBlankIn e)

section Blank

variable {o : Options} {d q : Document} {e : Element} {name : String}

theorem number_of_isBlankIn (hd : d.blankIsMissing = true) (h : isBlankIn e name = true) :
    d.number e name = none := by
  rw [isBlankIn] at h
  rw [Document.number]
  cases hvalue : e.value? name with
  | none => rfl
  | some value =>
      rw [hvalue, Option.any_some] at h
      simp [hd, h]

theorem number_of_not_isBlankIn (h : isBlankIn e name = false) :
    d.number e name = q.number e name := by
  rw [isBlankIn] at h
  rw [Document.number, Document.number]
  cases hvalue : e.value? name with
  | none => rfl
  | some value =>
      rw [hvalue, Option.any_some] at h
      simp [h]

/-- Without a blank attribute the circle is where it is. -/
theorem place_circle_eq (hname : e.name = "circle") (h : carriesBlank o e = false) (t : Shift) :
    (d.circle e).place o.circleCenter t = (q.circle e).place o.circleCenter t := by
  rw [carriesBlank, usedNames, if_pos hname] at h
  cases hcenter : o.circleCenter <;> rw [hcenter] at h <;>
    simp only [List.any_cons, List.any_nil, Bool.or_false, Bool.or_eq_false_iff] at h <;>
    simp only [CircleAttributes.place, CircleAttributes.centerBy, Document.circle,
      number_of_not_isBlankIn (d := d) (q := q) h.1,
      number_of_not_isBlankIn (d := d) (q := q) h.2.1,
      number_of_not_isBlankIn (d := d) (q := q) h.2.2]

/-- With one it is nowhere. -/
theorem place_circle_not_finite (hd : d.blankIsMissing = true) (hname : e.name = "circle")
    (h : carriesBlank o e = true) (t : Shift) :
    ((d.circle e).place o.circleCenter t).isFinite = false := by
  rw [carriesBlank, usedNames, if_pos hname] at h
  cases hcenter : o.circleCenter <;> rw [hcenter] at h <;>
    simp only [List.any_cons, List.any_nil, Bool.or_false, Bool.or_eq_true] at h <;>
    rcases h with h | h | h <;>
    simp [CircleAttributes.place, CircleAttributes.centerBy, Document.circle,
      number_of_isBlankIn hd h, CircleRecord.isFinite, Point.isFinite, Shift.apply, Number.orNaN,
      Number.nan_add, Number.isFinite_nan]

theorem rect_eq (hname : e.name = "rect") (h : carriesBlank o e = false) :
    d.rect e = q.rect e := by
  rw [carriesBlank, usedNames, if_neg (by rw [hname]; decide)] at h
  simp only [List.any_cons, List.any_nil, Bool.or_false, Bool.or_eq_false_iff] at h
  simp only [Document.rect, number_of_not_isBlankIn (d := d) (q := q) h.1,
    number_of_not_isBlankIn (d := d) (q := q) h.2.1,
    number_of_not_isBlankIn (d := d) (q := q) h.2.2.1,
    number_of_not_isBlankIn (d := d) (q := q) h.2.2.2]

/-- A rectangle with a blank attribute has no size, or its corner is nowhere. -/
theorem rect_without_size_or_corner (hd : d.blankIsMissing = true) (hname : e.name = "rect")
    (h : carriesBlank o e = true) :
    (size? (d.rect e).width = none ∨ size? (d.rect e).height = none) ∨
      ∀ corner width height t,
        ((d.rect e).place corner width height t).topLeft.isFinite = false := by
  rw [carriesBlank, usedNames, if_neg (by rw [hname]; decide)] at h
  simp only [List.any_cons, List.any_nil, Bool.or_false, Bool.or_eq_true] at h
  rcases h with h | h | h | h
  · right
    intro corner width height t
    simp [RectAttributes.place, Document.rect, number_of_isBlankIn hd h, Point.isFinite,
      Shift.apply, Number.orNaN, Number.nan_add, Number.isFinite_nan]
  · right
    intro corner width height t
    simp [RectAttributes.place, Document.rect, number_of_isBlankIn hd h, Point.isFinite,
      Shift.apply, Number.orNaN, Number.nan_add, Number.isFinite_nan]
  · left
    left
    rw [Document.rect, number_of_isBlankIn hd h]
    rfl
  · left
    right
    rw [Document.rect, number_of_isBlankIn hd h]
    rfl

end Blank

/-! One record -/

/-- The options with their policy for malformed shapes replaced. -/
def Options.treating (o : Options) (policy : Malformed) : Options :=
  { o with malformed := policy }

/-- A record that stays if malformed shapes are skipped. -/
def staysIn (o : Options) (e : Element) (r : ShapeRecord) : Bool :=
  r.isFinite && !carriesBlank o e

/-- What a policy lets through. -/
def letsThrough (policy : Malformed) (r : ShapeRecord) : Bool :=
  policy = .propagate || r.isFinite

section Records

variable {o : Options} {d q : Document} {e : Element}

theorem toOption_circle (policy : Malformed) (a : CircleAttributes) (parent : Option String) :
    (record (o.treating policy) ⟨.circle a, parent⟩).toOption =
      (parentShift o parent).toOption.bind fun t =>
        (some (.circle (a.place o.circleCenter t))).filter (letsThrough policy) := by
  have hshift : parentShift (o.treating policy) parent = parentShift o parent := rfl
  simp only [record, circleRecord, hshift]
  cases parentShift o parent with
  | error reason => rfl
  | ok t =>
      change (Except.map _ (requireFinite _ (a.place o.circleCenter t).isFinite _)).toOption = _
      generalize hr : a.place o.circleCenter t = r
      cases policy <;> cases hfinite : r.isFinite <;>
        simp [requireFinite, Options.treating, Option.filter, letsThrough, ShapeRecord.isFinite,
          Except.map, Except.toOption, hr, hfinite]

theorem toOption_rect (policy : Malformed) (a : RectAttributes) (parent : Option String) :
    (record (o.treating policy) ⟨.rect a, parent⟩).toOption =
      (size? a.width).bind fun width => (size? a.height).bind fun height =>
        (parentShift o parent).toOption.bind fun t =>
          (some (.rectangle (a.place o.bottomRightY width height t))).filter
            (letsThrough policy) := by
  have hshift : parentShift (o.treating policy) parent = parentShift o parent := rfl
  simp only [record, rectangleRecord, hshift]
  cases size? a.width with
  | none => rfl
  | some width =>
      cases size? a.height with
      | none => rfl
      | some height =>
          cases parentShift o parent with
          | error reason => rfl
          | ok t =>
              change (Except.map _ (requireFinite _
                (a.place o.bottomRightY width height t).isFinite _)).toOption = _
              generalize hr : a.place o.bottomRightY width height t = r
              cases policy <;> cases hfinite : r.isFinite <;>
                simp [requireFinite, Options.treating, Option.filter, letsThrough,
                  ShapeRecord.isFinite, Except.map, Except.toOption, hr, hfinite]

theorem staysIn_of_blank (h : carriesBlank o e = true) (r : ShapeRecord) :
    staysIn o e r = false := by
  rw [staysIn, h, Bool.not_true, Bool.and_false]

theorem filter_skip_eq (h : carriesBlank o e = false) (r : Option ShapeRecord) :
    r.filter (letsThrough .skip) = (r.filter (letsThrough .propagate)).filter (staysIn o e) := by
  cases r with
  | none => rfl
  | some r => simp [Option.filter, letsThrough, staysIn, h]

theorem circle_skip (hq : q.blankIsMissing = true) (hname : e.name = "circle")
    (parent : Option String) :
    (record (o.treating .skip) ⟨.circle (q.circle e), parent⟩).toOption =
      (record (o.treating .propagate) ⟨.circle (d.circle e), parent⟩).toOption.filter
        (staysIn o e) := by
  rw [toOption_circle, toOption_circle]
  cases (parentShift o parent).toOption with
  | none => rfl
  | some t =>
      rw [Option.bind_some, Option.bind_some]
      cases hblank : carriesBlank o e with
      | false => rw [place_circle_eq (d := d) (q := q) hname hblank, filter_skip_eq hblank]
      | true =>
          have hfinite := place_circle_not_finite hq hname hblank t
          simp [Option.filter, letsThrough, ShapeRecord.isFinite, hfinite,
            staysIn_of_blank hblank]

theorem rect_skip (hq : q.blankIsMissing = true) (hname : e.name = "rect")
    (parent : Option String) :
    (record (o.treating .skip) ⟨.rect (q.rect e), parent⟩).toOption =
      (record (o.treating .propagate) ⟨.rect (d.rect e), parent⟩).toOption.filter
        (staysIn o e) := by
  rw [toOption_rect, toOption_rect]
  cases hblank : carriesBlank o e with
  | false =>
      rw [rect_eq (d := d) (q := q) hname hblank]
      cases size? (q.rect e).width with
      | none => rfl
      | some width =>
          cases size? (q.rect e).height with
          | none => rfl
          | some height =>
              cases (parentShift o parent).toOption with
              | none => rfl
              | some t =>
                  simp only [Option.bind_some]
                  exact filter_skip_eq hblank _
  | true =>
      have hdropped (r : Option ShapeRecord) : r.filter (staysIn o e) = none := by
        cases r with
        | none => rfl
        | some r => rw [Option.filter_some, staysIn_of_blank hblank, if_neg Bool.false_ne_true]
      rw [hdropped]
      rcases rect_without_size_or_corner hq hname hblank with (hwidth | hheight) | hcorner
      · rw [hwidth]
        rfl
      · rw [hheight]
        cases size? (q.rect e).width <;> rfl
      · have hfinite (width height : Float) (t : Shift) :
            ((q.rect e).place o.bottomRightY width height t).isFinite = false := by
          simp [RectangleRecord.isFinite, RectangleRecord.corners, hcorner]
        simp [Option.filter, letsThrough, ShapeRecord.isFinite, hfinite]

end Records

/-! All records -/

namespace Document

/-- The shapes of a document with the elements they come from, circles first. -/
def shapes (d : Document) : List (Element × Primitive) :=
  (d.named "circle").map (fun x =>
      (x.1, ⟨.circle (d.circle x.1), d.tree.parentValue? x.2 "transform"⟩)) ++
    (d.named "rect").map fun x =>
      (x.1, ⟨.rect (d.rect x.1), d.tree.parentValue? x.2 "transform"⟩)

/-- The records of an extraction with the elements they come from. -/
def records (o : Options) (d : Document) : List (Element × ShapeRecord) :=
  d.shapes.filterMap fun x => (record o x.2).toOption.map fun r => (x.1, r)

theorem primitives_eq (d : Document) : d.primitives = d.shapes.map Prod.snd := by
  simp [primitives, circles, rects, shapes, Function.comp_def]

theorem extract_primitives (o : Options) (d : Document) :
    extract o d.primitives = ⟨(d.records o).map Prod.snd⟩ := by
  rw [extract, circlesFirst_primitives, primitives_eq, records, List.filterMap_map,
    List.map_filterMap]
  simp [Function.comp_def]

/-- Those of them that are finite and come from an element without a blank attribute. -/
def kept (o : Options) (d : Document) : List (Element × ShapeRecord) :=
  (d.records (o.treating .propagate)).filter fun x => staysIn o x.1 x.2

/-- If malformed shapes are skipped, the same elements give these records. -/
theorem records_skip {o : Options} {d q : Document} (htree : q.tree = d.tree)
    (hq : q.blankIsMissing = true) : q.records (o.treating .skip) = d.kept o := by
  have hnamed (name : String) : q.named name = d.named name := by rw [named, named, htree]
  have hname {name : String} {x : Element × Nat} (hx : x ∈ d.named name) : x.1.name = name :=
    beq_iff_eq.1 (List.mem_filter.1 hx).2
  -- the same step for circles and for rectangles
  have hstep (xs : List (Element × Nat)) (p p' : Element × Nat → Primitive)
      (h : ∀ x ∈ xs, (record (o.treating .skip) (p' x)).toOption =
        (record (o.treating .propagate) (p x)).toOption.filter (staysIn o x.1)) :
      ((xs.map fun x => (x.1, p' x)).filterMap fun x =>
          (record (o.treating .skip) x.2).toOption.map fun r => (x.1, r)) =
        ((xs.map fun x => (x.1, p x)).filterMap fun x =>
          (record (o.treating .propagate) x.2).toOption.map fun r => (x.1, r)).filter
            fun x => staysIn o x.1 x.2 := by
    induction xs with
    | nil => rfl
    | cons x xs ih =>
        have hrest := ih fun y hy => h y (List.mem_cons_of_mem x hy)
        rw [List.map_cons, List.map_cons, List.filterMap_cons, List.filterMap_cons, hrest,
          h x List.mem_cons_self]
        cases (record (o.treating .propagate) (p x)).toOption with
        | none => rfl
        | some r =>
            cases hstays : staysIn o x.1 r <;>
              simp [Option.filter, hstays]
  rw [kept, records, records, shapes, shapes, hnamed, hnamed, htree, List.filterMap_append,
    List.filterMap_append, List.filter_append]
  congr 1
  · exact hstep _ _ _ fun x hx => circle_skip hq (hname hx) _
  · exact hstep _ _ _ fun x hx => rect_skip hq (hname hx) _

end Document

/-! Texts of finite records -/

theorem not_mem_numberText {v : Float} (h : Number.isFinite v = true) :
    'l' ∉ Json.numberText v := by
  cases hv : Number.value v with
  | nan => simp [Number.isFinite, hv] at h
  | infinite negative => simp [Number.isFinite, hv] at h
  | finite negative m q =>
      intro h
      rcases Json.isNumeralChar_of_mem_numberText hv h with hdigit | h | h | h | h
      · exact absurd hdigit (by decide)
      all_goals exact absurd h (by decide)

/-- No text of a finite point has a letter of `null` that only `null` has. -/
theorem Point.not_mem_compact {p : Point} (h : p.isFinite = true) : 'l' ∉ p.toJson.compact := by
  rw [isFinite, Bool.and_eq_true] at h
  have hx := not_mem_numberText h.1
  have hy := not_mem_numberText h.2
  have hnames : 'l' ∉ Json.quoted "x" ∧ 'l' ∉ Json.quoted "y" := by decide
  simp [toJson, Json.compact, Json.compactMembers, hx, hy, hnames]

theorem CircleRecord.not_mem_compact {c : CircleRecord} (h : c.isFinite = true) :
    'l' ∉ c.toJson.compact := by
  rw [isFinite, Bool.and_eq_true] at h
  have hcenter := Point.not_mem_compact h.1
  have hradius := not_mem_numberText h.2
  have hnames : 'l' ∉ Json.quoted "center" ∧ 'l' ∉ Json.quoted "radius" ∧
      'l' ∉ Json.quoted "r" := by decide
  simp [toJson, Json.compact, Json.compactMembers, hcenter, hradius, hnames]

theorem RectangleRecord.not_mem_compact {r : RectangleRecord} (h : r.isFinite = true) :
    'l' ∉ r.toJson.compact := by
  simp only [isFinite, corners, List.all_cons, List.all_nil, Bool.and_true,
    Bool.and_eq_true] at h
  have hnames : 'l' ∉ Json.quoted "topLeft" ∧ 'l' ∉ Json.quoted "topRight" ∧
      'l' ∉ Json.quoted "bottomLeft" ∧ 'l' ∉ Json.quoted "bottomRight" := by decide
  simp [toJson, Json.compact, Json.compactMembers, Point.not_mem_compact h.1,
    Point.not_mem_compact h.2.1, Point.not_mem_compact h.2.2.1, Point.not_mem_compact h.2.2.2,
    hnames]

theorem ShapeRecord.not_mem_compact {r : ShapeRecord} (h : r.isFinite = true) :
    'l' ∉ r.toJson.compact := by
  cases r with
  | circle c => exact CircleRecord.not_mem_compact h
  | rectangle r => exact RectangleRecord.not_mem_compact h

theorem not_mem_compactItems {rs : List ShapeRecord} (h : ∀ r ∈ rs, r.isFinite = true) :
    'l' ∉ Json.compactItems (rs.map ShapeRecord.toJson) := by
  induction rs with
  | nil => exact List.not_mem_nil
  | cons r rs ih =>
      have hfirst := ShapeRecord.not_mem_compact (h r List.mem_cons_self)
      have hrest := ih fun r' hr' => h r' (List.mem_cons_of_mem r hr')
      cases rs with
      | nil => exact hfirst
      | cons r' rs =>
          rw [List.map_cons] at hrest
          simp [Json.compactItems, hfirst, hrest]

theorem Collection.no_null {c : Collection} (h : ∀ r ∈ c.records, r.isFinite = true) :
    ¬ "null".toList <:+: c.json.toList := by
  intro hnull
  have hl : 'l' ∈ c.json.toList := hnull.subset (by decide)
  rw [json, String.toList_ofList, toJson, Json.compact] at hl
  have hitems := not_mem_compactItems h
  simp [hitems] at hl

/-! The policies -/

theorem parse_treating (o : Options) (text : String) :
    (∃ e, ∀ policy, Document.parse (o.treating policy) text = .error e) ∨
      ∃ tree faults, ∀ policy,
        Document.parse (o.treating policy) text = .ok ⟨tree, faults, policy == .skip⟩ := by
  have hstrict (policy : Malformed) : (o.treating policy).strictMarkup = o.strictMarkup := rfl
  cases hrefused : o.strictMarkup && !(Markup.parse text.toList).2.isEmpty with
  | true => exact .inl ⟨⟨(Markup.parse text.toList).2⟩, fun policy => by
      simp only [Document.parse, hstrict, hrefused, if_true]⟩
  | false => exact .inr ⟨_, _, fun policy => by
      simp only [Document.parse, hstrict, hrefused, Bool.false_eq_true, if_false]
      rfl⟩

theorem extractCoordinates_of_parse_error {o : Options} {text : String} {e : MarkupError}
    (h : Document.parse o text = .error e) : extractCoordinates o text = .error e := by
  rw [extractCoordinates, extractMarkup, h]
  rfl

/-- Skipping malformed shapes is a filter on what is extracted otherwise. What stays is finite, and
has no `null` in its text. -/
theorem extractCoordinates_skip_eq_filter (o : Options) (text : String) :
    (∃ e, extractCoordinates (o.treating .propagate) text = .error e ∧
      extractCoordinates (o.treating .skip) text = .error e) ∨
    ∃ d, Document.parse (o.treating .propagate) text = .ok d ∧
      extractCoordinates (o.treating .propagate) text =
        .ok ⟨(d.records (o.treating .propagate)).map Prod.snd⟩ ∧
      extractCoordinates (o.treating .skip) text = .ok ⟨(d.kept o).map Prod.snd⟩ ∧
      (∀ r ∈ (d.kept o).map Prod.snd, r.isFinite = true) ∧
      ¬ "null".toList <:+: (Collection.mk ((d.kept o).map Prod.snd)).json.toList := by
  rcases parse_treating o text with ⟨e, herror⟩ | ⟨tree, faults, hparse⟩
  · exact .inl ⟨e, extractCoordinates_of_parse_error (herror .propagate),
      extractCoordinates_of_parse_error (herror .skip)⟩
  · right
    generalize hd : Document.mk tree faults (Malformed.propagate == .skip) = d
    have hall := extractCoordinates_of_parse (hparse .propagate)
    have hskip := extractCoordinates_of_parse (hparse .skip)
    rw [Document.extract_primitives] at hall hskip
    have hrecords := Document.records_skip (o := o) (d := d)
      (q := ⟨tree, faults, Malformed.skip == .skip⟩) (by rw [← hd]) rfl
    rw [hd] at hall
    rw [hrecords] at hskip
    have hfinite : ∀ r ∈ (d.kept o).map Prod.snd, r.isFinite = true := by
      intro r hr
      obtain ⟨x, hx, rfl⟩ := List.mem_map.1 hr
      exact (Bool.and_eq_true_iff.1 (List.mem_filter.1 hx).2).1
    refine ⟨d, ?_, hall, hskip, hfinite, Collection.no_null hfinite⟩
    rw [hparse, hd]

end ShapeCoords
