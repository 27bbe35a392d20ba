import ShapeCoords.Proofs.Extraction.Fallback

/-!
What each option has no influence on. Strictness decides whether there is a result and not which
one, the source of centres does not count for rectangles, and the corner formula counts for one
ordinate of a rectangle.
-/

namespace ShapeCoords

/-! One record -/

section Records

variable {o : Options} {p : Primitive}

theorem record_circleCenter_of_isRect (h : p.isRect = true) (source : CircleCenter) :
    record { o with circleCenter := source } p = record o p := by
  obtain ⟨shape, parent⟩ := p
  cases shape with
  | circle a => cases h
  | rect a => rfl

theorem record_bottomRightY_of_isCircle (h : p.isCircle = true) (corner : BottomRightY) :
    record { o with bottomRightY := corner } p = record o p := by
  obtain ⟨shape, parent⟩ := p
  cases shape with
  | circle a => rfl
  | rect a => cases h

/-- The same record but for the ordinate of the bottom right corner. -/
inductive ShapeRecord.EqButLowest : ShapeRecord → ShapeRecord → Prop where
  | circle (c : CircleRecord) : EqButLowest (.circle c) (.circle c)
  | rectangle (r : RectangleRecord) (y : Float) :
      EqButLowest (.rectangle r)
        (.rectangle { r with bottomRight := { r.bottomRight with y := y } })

theorem eqButLowest_place (o : Options) (corner corner' : BottomRightY) (p : Primitive)
    (t : Shift) :
    (p.place { o with bottomRightY := corner } t).EqButLowest
      (p.place { o with bottomRightY := corner' } t) := by
  obtain ⟨shape, parent⟩ := p
  cases shape with
  | circle a => exact .circle _
  | rect a => exact .rectangle _ _

/-- If malformed shapes stay, the corner formula does not decide which shapes have a record. -/
theorem rel_record (ho : o.malformed = .propagate) (corner corner' : BottomRightY)
    (p : Primitive) :
    Option.Rel ShapeRecord.EqButLowest
      (record { o with bottomRightY := corner } p).toOption
      (record { o with bottomRightY := corner' } p).toOption := by
  by_cases hsize : p.LacksSize
  · rw [record_of_lacksSize _ hsize, record_of_lacksSize _ hsize]
    exact .none
  · rw [record_of_sized hsize, record_of_sized hsize]
    change Option.Rel _ ((parentShift o _).bind _).toOption ((parentShift o _).bind _).toOption
    cases parentShift o p.parentTransform with
    | error reason => exact .none
    | ok t =>
        simp only [Except.bind, requireFinite, ho, reduceCtorEq, decide_false, Bool.and_false,
          Bool.false_eq_true, if_false]
        exact .some (eqButLowest_place o corner corner' p t)

/-- The shape with the attributes of one source of centres moved to the other. -/
def Primitive.centered (p : Primitive) : Primitive :=
  match p.shape with
  | .circle a => { p with shape := .circle { a with rx := a.cx, ry := a.cy } }
  | .rect _ => p

theorem record_centered (o : Options) (p : Primitive) :
    record { o with circleCenter := .radii } p.centered =
      record { o with circleCenter := .center } p := by
  obtain ⟨shape, parent⟩ := p
  cases shape <;> rfl

theorem isCircle_centered (p : Primitive) : p.centered.isCircle = p.isCircle := by
  obtain ⟨shape, parent⟩ := p
  cases shape <;> rfl

theorem isRect_centered (p : Primitive) : p.centered.isRect = p.isRect := by
  rw [Primitive.isRect, isCircle_centered, Primitive.isRect]

end Records

/-! Collections -/

section Collections

variable {o o' : Options} {ps : List Primitive}

theorem ShapeKind.group_congr (k : ShapeKind)
    (h : ∀ p ∈ ps, k.has p = true → record o p = record o' p) :
    k.group (extract o ps) = k.group (extract o' ps) := by
  have hrecords : recordsOf o (ps.filter k.has) = recordsOf o' (ps.filter k.has) := by
    refine List.filterMap_congr fun p hp => ?_
    rw [h p (List.mem_filter.1 hp).1 (List.mem_filter.1 hp).2]
  refine (List.map_inj_right k.wrap_injective).1 ?_
  rw [k.group_extract, k.group_extract, hrecords]

theorem forall₂_extract (ho : o.malformed = .propagate) (corner corner' : BottomRightY)
    (ps : List Primitive) :
    List.Forall₂ ShapeRecord.EqButLowest
      (extract { o with bottomRightY := corner } ps).records
      (extract { o with bottomRightY := corner' } ps).records :=
  List.rel_filterMap (R := Eq) (fun p _ hp => hp ▸ rel_record ho corner corner' p)
    (List.forall₂_refl _)

/-- Centres from the one source are those from the other one of the shapes with their attributes
moved. -/
theorem extract_centered (o : Options) (ps : List Primitive) :
    extract { o with circleCenter := .center } ps =
      extract { o with circleCenter := .radii } (ps.map Primitive.centered) := by
  have hfirst : circlesFirst (ps.map Primitive.centered) =
      (circlesFirst ps).map Primitive.centered := by
    rw [circlesFirst, circlesFirst, List.filter_map, List.filter_map, List.map_append]
    simp only [Function.comp_def, isCircle_centered, isRect_centered]
  rw [extract, extract, hfirst, List.filterMap_map]
  simp only [Function.comp_def, record_centered]

end Collections

/-! Runs -/

/-- The faults that are found in a text of markup. -/
def markupFaults (text : String) : List Markup.Fault :=
  (Markup.parse text.toList).2

section Runs

variable {o o' : Options} {text : String}

/-- The document of a text, if its faults are put up with. -/
theorem exists_parse (h : o.strictMarkup = false ∨ markupFaults text = []) :
    Document.parse o text =
      .ok ⟨(Markup.parse text.toList).1, markupFaults text, o.malformed == .skip⟩ := by
  rw [markupFaults] at h
  rcases h with h | h <;> simp [Document.parse, h, markupFaults]

theorem parse_strict (hstrict : o.strictMarkup = true) (h : markupFaults text ≠ []) :
    Document.parse o text = .error ⟨markupFaults text⟩ := by
  rw [markupFaults] at h ⊢
  simp [Document.parse, hstrict, h]

/-- What two runs have in common if they load the same document, or refuse it for the same reason. -/
theorem extractCoordinates_congr {α : Type} {f : Collection → α}
    (hparse : Document.parse o text = Document.parse o' text)
    (h : ∀ ps, f (extract o ps) = f (extract o' ps)) :
    (extractCoordinates o text).map f = (extractCoordinates o' text).map f := by
  cases hdocument : Document.parse o text with
  | error e =>
      rw [extractCoordinates_of_parse_error hdocument,
        extractCoordinates_of_parse_error (hparse.symm.trans hdocument)]
  | ok d =>
      rw [extractCoordinates_of_parse hdocument,
        extractCoordinates_of_parse (hparse.symm.trans hdocument)]
      exact congrArg Except.ok (h d.primitives)

end Runs

/-- Two runs that differ in one option differ in nothing but what the option is for. Strict options
refuse a text with faults, and nothing else; the source of centres does not count for rectangles, and
to take the centres from the one source is to take them from the other after moving the attributes;
the corner formula does not count for circles, and if malformed shapes stay it counts for the
ordinates of bottom right corners alone. -/
theorem options_independent (text : String) (o : Options) :
    (∃ c, extractCoordinates { o with strictMarkup := false } text = .ok c ∧
      (markupFaults text = [] →
        extractCoordinates { o with strictMarkup := true } text = .ok c) ∧
      (markupFaults text ≠ [] → ∃ e,
        extractCoordinates { o with strictMarkup := true } text = .error e ∧
          e.message = "Markup parse error: " ++
            "; ".intercalate ((markupFaults text).map Markup.Fault.message))) ∧
    (∀ source source',
      (extractCoordinates { o with circleCenter := source } text).map Collection.rectangles =
        (extractCoordinates { o with circleCenter := source' } text).map Collection.rectangles) ∧
    (∀ corner corner',
      (extractCoordinates { o with bottomRightY := corner } text).map Collection.circles =
        (extractCoordinates { o with bottomRightY := corner' } text).map Collection.circles ∧
      (o.malformed = .propagate → ∀ c,
        extractCoordinates { o with bottomRightY := corner } text = .ok c → ∃ c',
          extractCoordinates { o with bottomRightY := corner' } text = .ok c' ∧
            c.length = c'.length ∧
            List.Forall₂ ShapeRecord.EqButLowest c.records c'.records)) ∧
    ∀ d, Document.parse o text = .ok d →
      extractCoordinates { o with circleCenter := .center } text =
        .ok (extract { o with circleCenter := .radii } (d.primitives.map Primitive.centered)) := by
  refine ⟨?_, fun source source' => ?_, fun corner corner' => ⟨?_, fun ho c hc => ?_⟩,
    fun d hd => ?_⟩
  · refine ⟨_, extractCoordinates_of_parse (exists_parse (.inl rfl)), fun hclean => ?_,
      fun hfaults => ?_⟩
    · exact extractCoordinates_of_parse (exists_parse (.inr hclean))
    · exact ⟨⟨markupFaults text⟩,
        extractCoordinates_of_parse_error (parse_strict rfl hfaults), rfl⟩
  · refine extractCoordinates_congr rfl fun ps => ShapeKind.rectangle.group_congr fun p _ hp => ?_
    exact (record_circleCenter_of_isRect hp source).trans
      (record_circleCenter_of_isRect hp source').symm
  · refine extractCoordinates_congr rfl fun ps => ShapeKind.circle.group_congr fun p _ hp => ?_
    exact (record_bottomRightY_of_isCircle hp corner).trans
      (record_bottomRightY_of_isCircle hp corner').symm
  · cases hparse : Document.parse o text with
    | error e =>
        rw [extractCoordinates_of_parse_error (o := { o with bottomRightY := corner }) hparse] at hc
        cases hc
    | ok d =>
        rw [extractCoordinates_of_parse (o := { o with bottomRightY := corner }) hparse] at hc
        cases hc
        have hrecords := forall₂_extract ho corner corner' d.primitives
        exact ⟨_, extractCoordinates_of_parse (o := { o with bottomRightY := corner' }) hparse,
          hrecords.length_eq, hrecords⟩
  · rw [← extract_centered]
    exact extractCoordinates_of_parse hd

end ShapeCoords
