import ShapeCoords.Proofs.Extraction.Run

/-!
What an extraction keeps of a list of shapes: the records of its circles and then those of its
rectangles, each in their order, and a report for each shape without a record.
-/

namespace ShapeCoords

/-! Groups -/

section Groups

variable {o : Options} {ps qs : List Primitive}

theorem run_congr (hcircles : qs.filter Primitive.isCircle = ps.filter Primitive.isCircle)
    (hrects : qs.filter Primitive.isRect = ps.filter Primitive.isRect) :
    Extraction.run o qs = Extraction.run o ps := by
  simp only [Extraction.run, circlesFirst, hcircles, hrects]

theorem run_circlesFirst (o : Options) (ps : List Primitive) :
    Extraction.run o (circlesFirst ps) = Extraction.run o ps :=
  run_congr (ShapeKind.circle.filter_circlesFirst ps) (ShapeKind.rectangle.filter_circlesFirst ps)

/-- An extraction's collection and reports are those of its run. -/
theorem extract_congr (h : Extraction.run o qs = Extraction.run o ps) :
    extract o qs = extract o ps ∧ extractEvents o qs = extractEvents o ps := by
  have hcollection : extract o qs = extract o ps := by
    rw [← Extraction.run_collection, h, Extraction.run_collection]
  exact ⟨hcollection, by
    rw [Extraction.extractEvents_eq, Extraction.extractEvents_eq, hcollection, h]⟩

theorem ShapeKind.group_extract_append (k : ShapeKind) (o : Options) (ps qs : List Primitive) :
    k.group (extract o (ps ++ qs)) = k.group (extract o ps) ++ k.group (extract o qs) := by
  refine (List.map_inj_right k.wrap_injective).1 ?_
  rw [List.map_append, k.group_extract, k.group_extract, k.group_extract, List.filter_append,
    recordsOf_append]

theorem length_extract (o : Options) (ps : List Primitive) :
    (extract o ps).circles.length + (extract o ps).rectangles.length =
      (extract o ps).length := by
  have hlength (k : ShapeKind) :
      (k.group (extract o ps)).length = (recordsOf o (ps.filter k.has)).length := by
    rw [← k.group_extract, List.length_map]
  refine (congrArg₂ (· + ·) (hlength .circle) (hlength .rectangle)).trans ?_
  rw [Collection.length, extract_eq_recordsOf, List.length_append]
  rfl

end Groups

/-! Reports -/

/-- The report at the end of an extraction is neither about a skipped shape nor like the others. -/
theorem filter_isSkip_extractEvents (o : Options) (ps : List Primitive) :
    (extractEvents o ps).filter Event.isSkip =
      skipReports o (ps.filter Primitive.isCircle ++ ps.filter Primitive.isRect).zipIdx := by
  rw [Extraction.extractEvents_eq, List.filter_append, (Extraction.hasTaken_run o ps).reports,
    List.filter_cons_of_neg (by simp [Event.isSkip, Event.message]), List.filter_nil,
    List.append_nil, circlesFirst]

theorem level_of_mem_run {o : Options} {ps : List Primitive} {e : Event}
    (h : e ∈ (Extraction.run o ps).events) : e.level ≠ .info := by
  rw [(Extraction.hasTaken_run o ps).events] at h
  obtain ⟨x, -, he⟩ := List.mem_flatMap.1 h
  exact level_of_mem_shapeEvents he

/-- An extraction gives the records of the circles and then those of the rectangles, each in their
order. So it is the same for any list with these circles and these rectangles, also for the one with
the circles in front, and each group of a list put together is put together from the groups. Taking
in one shape after the other comes to the same: of each shape without a record there is one report,
under its index with the circles in front, and the last report counts all shapes. -/
theorem extract_grouped (o : Options) (ps : List Primitive) :
    (extract o ps).records =
      recordsOf o (ps.filter Primitive.isCircle) ++ recordsOf o (ps.filter Primitive.isRect) ∧
    (∀ qs, qs.filter Primitive.isCircle = ps.filter Primitive.isCircle →
      qs.filter Primitive.isRect = ps.filter Primitive.isRect →
      extract o qs = extract o ps) ∧
    (∀ qs, (extract o (ps ++ qs)).circles = (extract o ps).circles ++ (extract o qs).circles ∧
      (extract o (ps ++ qs)).rectangles =
        (extract o ps).rectangles ++ (extract o qs).rectangles) ∧
    (extract o (ps.filter Primitive.isCircle ++ ps.filter Primitive.isRect) = extract o ps ∧
      extractEvents o (ps.filter Primitive.isCircle ++ ps.filter Primitive.isRect) =
        extractEvents o ps) ∧
    (extractEvents o ps).filter Event.isSkip =
      (ps.filter Primitive.isCircle ++ ps.filter Primitive.isRect).zipIdx.filterMap
        (skipReport? o) ∧
    (∀ e : Event, e.isSkip = true → e.level = .debug) ∧
    (Extraction.run o ps).collection = extract o ps ∧
    extractEvents o ps =
      (Extraction.run o ps).events ++
        [.extracted (extract o ps).length (extract o ps).circles.length
          (extract o ps).rectangles.length (Extraction.run o ps).skipped] ∧
    (∀ e ∈ (Extraction.run o ps).events, e.level ≠ .info) ∧
    (Extraction.run o ps).skipped = ((extractEvents o ps).filter Event.isSkip).length ∧
    (extract o ps).length + (Extraction.run o ps).skipped = ps.length ∧
    (extract o ps).circles.length + (extract o ps).rectangles.length =
      (extract o ps).length := by
  refine ⟨?_, ?_, ?_, extract_congr (run_circlesFirst o ps), filter_isSkip_extractEvents o ps, ?_,
    Extraction.run_collection o ps, Extraction.extractEvents_eq o ps, fun e => level_of_mem_run, ?_,
    Extraction.run_total o ps, length_extract o ps⟩
  · rw [extract_eq_recordsOf]
  · intro qs hcircles hrects
    exact (extract_congr (run_congr hcircles hrects)).1
  · intro qs
    exact ⟨ShapeKind.circle.group_extract_append o ps qs,
      ShapeKind.rectangle.group_extract_append o ps qs⟩
  · intro e he
    cases e <;> simp_all [Event.isSkip, Event.message, Event.level]
  · rw [filter_isSkip_extractEvents, (Extraction.hasTaken_run o ps).skipped, circlesFirst]

/-- A rectangle without size stands in front of a circle and is reported behind it. -/
theorem extract_grouped_in_front :
    ([⟨.rect ⟨none, none, none, none⟩, none⟩,
        ⟨.circle ⟨none, none, none, none, none⟩, some "translate(1, 2)"⟩] :
      List Primitive).filter Primitive.isCircle =
      [⟨.circle ⟨none, none, none, none, none⟩, some "translate(1, 2)"⟩] ∧
    extract {} [⟨.rect ⟨none, none, none, none⟩, none⟩,
        ⟨.circle ⟨none, none, none, none, none⟩, some "translate(1, 2)"⟩] =
      extract {} [⟨.circle ⟨none, none, none, none, none⟩, some "translate(1, 2)"⟩,
        ⟨.rect ⟨none, none, none, none⟩, none⟩] ∧
    (extractEvents {} [⟨.rect ⟨none, none, none, none⟩, none⟩,
        ⟨.circle ⟨none, none, none, none, none⟩, some "translate(1, 2)"⟩]).filter Event.isSkip =
      [.skipped 1 "rect" .missingSize] := by
  refine ⟨rfl, (extract_grouped {} _).2.1 _ rfl rfl, ?_⟩
  exact (extract_grouped {} _).2.2.2.2.1.trans rfl

end ShapeCoords
