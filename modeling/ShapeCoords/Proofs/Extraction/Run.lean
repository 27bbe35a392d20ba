import ShapeCoords.Proofs.Extraction.Grouping

/-!
An extraction that takes in one shape after the other. Each record is put behind the others, each
shape without one is counted and reported under its index, and at the end of the run these are the
collection and the reports of the whole list.
-/

namespace ShapeCoords

structure Extraction where
  collection : Collection := {}
  skipped : Nat := 0
  /-- What was reported, oldest first. -/
  events : List Event := []

namespace Extraction

def take (o : Options) (e : Extraction) (x : Primitive × Nat) : Extraction :=
  let events := e.events ++ shapeEvents o x.1 x.2
  match record o x.1 with
  | .ok r => { e with collection := e.collection.push r, events := events }
  | .error _ => { e with skipped := e.skipped + 1, events := events }

def run (o : Options) (ps : List Primitive) : Extraction :=
  (circlesFirst ps).zipIdx.foldl (take o) {}

end Extraction

/-- The report about a shape that has no record. -/
def skipReport? (o : Options) (x : Primitive × Nat) : Option Event :=
  match record o x.1 with
  | .ok _ => none
  | .error reason => some (.skipped x.2 x.1.tag reason)

def skipReports (o : Options) (xs : List (Primitive × Nat)) : List Event :=
  xs.filterMap (skipReport? o)

def Event.isSkip (e : Event) : Bool :=
  e.message == "skipping primitive"

/-! One shape -/

section Step

variable {o : Options} {p : Primitive} {r : ShapeRecord} {reason : SkipReason}

theorem recordsOf_append (o : Options) (ps qs : List Primitive) :
    recordsOf o (ps ++ qs) = recordsOf o ps ++ recordsOf o qs := by
  simp [recordsOf]

@[simp] theorem recordsOf_ok (h : record o p = .ok r) : recordsOf o [p] = [r] := by
  simp [recordsOf, h, Except.toOption]

@[simp] theorem recordsOf_error (h : record o p = .error reason) : recordsOf o [p] = [] := by
  simp [recordsOf, h, Except.toOption]

@[simp] theorem skipReports_ok (h : record o p = .ok r) (i : Nat) : skipReports o [(p, i)] = [] := by
  simp [skipReports, skipReport?, h]

@[simp] theorem skipReports_error (h : record o p = .error reason) (i : Nat) :
    skipReports o [(p, i)] = [.skipped i p.tag reason] := by
  simp [skipReports, skipReport?, h]

theorem skipReports_append (o : Options) (xs ys : List (Primitive × Nat)) :
    skipReports o (xs ++ ys) = skipReports o xs ++ skipReports o ys := by
  simp [skipReports]

/-- A warning says neither that a shape was skipped nor that the run is over. -/
theorem of_mem_warning {e : Event} (h : e ∈ (warning? o p).toList) :
    e.isSkip = false ∧ e.level = .warn := by
  have hwarning : warning? o p = some e := by simpa using h
  have hkind : (∃ a, e = .incompleteCircle a) ∨ ∃ a, e = .incompleteRect a := by
    unfold warning? at hwarning
    cases hshape : p.shape with
    | circle a =>
        simp only [hshape] at hwarning
        split at hwarning
        · exact .inl ⟨a, (Option.some.inj hwarning).symm⟩
        · cases hwarning
    | rect a =>
        simp only [hshape] at hwarning
        split at hwarning
        · exact .inr ⟨a, (Option.some.inj hwarning).symm⟩
        · cases hwarning
  rcases hkind with ⟨a, rfl⟩ | ⟨a, rfl⟩
  · simp [Event.isSkip, Event.message, Event.level]
  · simp [Event.isSkip, Event.message, Event.level]

theorem shapeEvents_eq (o : Options) (p : Primitive) (i : Nat) :
    shapeEvents o p i = (warning? o p).toList ++ skipReports o [(p, i)] := by
  cases h : record o p <;> simp [shapeEvents, h]

theorem filter_shapeEvents (o : Options) (p : Primitive) (i : Nat) :
    (shapeEvents o p i).filter Event.isSkip = skipReports o [(p, i)] := by
  have hwarning : (warning? o p).toList.filter Event.isSkip = [] :=
    List.filter_eq_nil_iff.2 fun e he => by simp [(of_mem_warning he).1]
  rw [shapeEvents_eq, List.filter_append, hwarning, List.nil_append]
  cases h : record o p with
  | ok r => simp [h]
  | error reason =>
      rw [skipReports_error h]
      rfl

theorem level_of_mem_shapeEvents {i : Nat} {e : Event} (h : e ∈ shapeEvents o p i) :
    e.level ≠ .info := by
  rw [shapeEvents_eq, List.mem_append] at h
  rcases h with h | h
  · simp [(of_mem_warning h).2]
  · cases hrecord : record o p with
    | ok r => simp [skipReports_ok hrecord] at h
    | error reason =>
        rw [skipReports_error hrecord, List.mem_singleton] at h
        simp [h, Event.level]

end Step

/-! The whole run -/

namespace Extraction

/-- What is true of an extraction that has taken in some shapes with their indices. -/
structure HasTaken (o : Options) (xs : List (Primitive × Nat)) (e : Extraction) : Prop where
  records : e.collection.records = recordsOf o (xs.map Prod.fst)
  events : e.events = xs.flatMap fun x => shapeEvents o x.1 x.2
  reports : e.events.filter Event.isSkip = skipReports o xs
  skipped : e.skipped = (skipReports o xs).length
  total : e.collection.length + e.skipped = xs.length

variable {o : Options} {e : Extraction} {xs : List (Primitive × Nat)}

theorem hasTaken_nil (o : Options) : HasTaken o [] {} :=
  ⟨rfl, rfl, rfl, rfl, rfl⟩

theorem HasTaken.take (h : HasTaken o xs e) (x : Primitive × Nat) :
    HasTaken o (xs ++ [x]) (e.take o x) := by
  obtain ⟨p, i⟩ := x
  have hevents : e.events ++ shapeEvents o p i =
      (xs ++ [(p, i)]).flatMap fun x => shapeEvents o x.1 x.2 := by
    simp [h.events]
  have hreports : (e.events ++ shapeEvents o p i).filter Event.isSkip =
      skipReports o (xs ++ [(p, i)]) := by
    rw [List.filter_append, h.reports, filter_shapeEvents, skipReports_append]
  have htotal := h.total
  cases hrecord : record o p with
  | ok r =>
      have htake : e.take o (p, i) =
          { e with collection := e.collection.push r, events := e.events ++ shapeEvents o p i } := by
        simp [Extraction.take, hrecord]
      rw [htake]
      refine ⟨?_, hevents, hreports, ?_, ?_⟩
      · simp [Collection.push, h.records, recordsOf_append, hrecord]
      · simp [skipReports_append, hrecord, h.skipped]
      · simp only [Collection.length, Collection.push, List.length_append] at htotal ⊢
        simp only [List.length_singleton]
        omega
  | error reason =>
      have htake : e.take o (p, i) =
          { e with skipped := e.skipped + 1, events := e.events ++ shapeEvents o p i } := by
        simp [Extraction.take, hrecord]
      rw [htake]
      refine ⟨?_, hevents, hreports, ?_, ?_⟩
      · simp [h.records, recordsOf_append, hrecord]
      · simp [skipReports_append, hrecord, h.skipped]
      · simp only [List.length_append, List.length_singleton]
        omega

theorem HasTaken.foldl (h : HasTaken o xs e) (ys : List (Primitive × Nat)) :
    HasTaken o (xs ++ ys) (ys.foldl (Extraction.take o) e) := by
  -- the shapes taken in so far grow by one at each step
  induction ys generalizing xs e with
  | nil => simpa using h
  | cons y ys ih => simpa using ih (h.take y)

theorem hasTaken_run (o : Options) (ps : List Primitive) :
    HasTaken o (circlesFirst ps).zipIdx (run o ps) :=
  (hasTaken_nil o).foldl _

/-- The run ends with the collection of the list. -/
theorem run_collection (o : Options) (ps : List Primitive) :
    (run o ps).collection = extract o ps := by
  have hrecords := (hasTaken_run o ps).records
  rw [List.zipIdx_map_fst] at hrecords
  exact congrArg Collection.mk hrecords

theorem length_circlesFirst (ps : List Primitive) : (circlesFirst ps).length = ps.length := by
  have hcount := List.length_eq_countP_add_countP Primitive.isCircle (l := ps)
  rw [List.countP_eq_length_filter, List.countP_eq_length_filter] at hcount
  have hrects : ps.filter Primitive.isRect = ps.filter fun p => !p.isCircle := rfl
  simp [circlesFirst, hcount, hrects]

theorem run_total (o : Options) (ps : List Primitive) :
    (extract o ps).length + (run o ps).skipped = ps.length := by
  have htotal := (hasTaken_run o ps).total
  rwa [run_collection, List.length_zipIdx, length_circlesFirst] at htotal

/-- The reports of the list are those of the run and one of its totals. -/
theorem extractEvents_eq (o : Options) (ps : List Primitive) :
    extractEvents o ps =
      (run o ps).events ++
        [.extracted (extract o ps).length (extract o ps).circles.length
          (extract o ps).rectangles.length (run o ps).skipped] := by
  have hskipped : ps.length - (extract o ps).length = (run o ps).skipped := by
    have htotal := run_total o ps
    omega
  rw [extractEvents, (hasTaken_run o ps).events, hskipped]

end Extraction

end ShapeCoords
