import ShapeCoords.Proofs.Extraction.Independence
import ShapeCoords.Proofs.Extraction.Run
import ShapeCoords.Proofs.Number.Denotation

/-!
The warnings of a run. If malformed shapes stay, one is given for each record of an element that
lacks an attribute its record is computed from, in the order of the records. An attribute with the
undefined number in it is not lacking, although it makes the record undefined as well.
-/

namespace ShapeCoords

open Markup (Element)
open Number (Names nan)

/-! Undefined attributes -/

namespace Document

/-- An attribute that is missing, or does not hold the text of a number. -/
def lacks (d : Document) (e : Element) (name : String) : Bool :=
  (d.number e name).isNone

/-- An attribute that holds the undefined number. -/
def namesNaN (d : Document) (e : Element) (name : String) : Bool :=
  (d.number e name).any Number.isNaN

/-- Either of them: there is no number to compute with. -/
def isUndefined (d : Document) (e : Element) (name : String) : Bool :=
  d.lacks e name || d.namesNaN e name

/-- The warning about an element, with its attributes. -/
def warning (d : Document) (e : Element) : Event :=
  if e.name = "circle" then .incompleteCircle (d.circle e) else .incompleteRect (d.rect e)

end Document

/-- Whether one of the numbers of a record is undefined. -/
def ShapeRecord.hasNaN : ShapeRecord → Bool
  | .circle c => [c.center.x, c.center.y, c.radius].any Number.isNaN
  | .rectangle r => r.corners.any fun p => Number.isNaN p.x || Number.isNaN p.y

section Attributes

variable {d : Document} {e : Element} {name : String} {s : List Char} {v : Float}

theorem eq_nan_of_denotes (h : Number.Denotes s v) (hv : Number.isNaN v = true) :
    v = nan ∧ Names s nan := by
  have hvalue := (isNaN_eq_true_iff v).1 hv
  cases h with
  | blank => exact absurd hv (by decide +kernel)
  | name hname =>
      cases hname with
      | undefined hsign hword => exact ⟨rfl, .undefined hsign hword⟩
      | infinite hsign hword =>
          rw [Number.value_infinity] at hvalue
          cases hvalue
  | decimal _ hrounded =>
      rw [hvalue] at hrounded
      cases hrounded

theorem isNaN_nan : Number.isNaN nan = true := by decide +kernel

/-- The undefined number is in no other attribute than one that names it. -/
theorem namesNaN_iff (hd : d.blankIsMissing = false) :
    d.namesNaN e name = true ↔
      ∃ text, e.value? name = some text ∧ Names (Text.trim text.toList) nan := by
  rw [Document.namesNaN, Document.number, hd]
  cases hvalue : e.value? name with
  | none => simp
  | some text =>
      simp only [Option.bind_some, Bool.false_and, Bool.false_eq_true, if_false, Option.any_eq_true,
        Option.some.injEq, exists_eq_left', Number.parse_eq_some_iff_denotes]
      constructor
      · rintro ⟨v, hdenotes, hv⟩
        exact (eq_nan_of_denotes hdenotes hv).2
      · intro hnames
        exact ⟨nan, .name hnames, isNaN_nan⟩

theorem orNaN_of_isUndefined (h : d.isUndefined e name = true) :
    Number.orNaN (d.number e name) = nan := by
  rw [Document.isUndefined, Document.lacks, Document.namesNaN, Bool.or_eq_true] at h
  rcases h with h | h
  · rw [Option.isNone_iff_eq_none.1 h]
    rfl
  · obtain ⟨v, hnumber, hv⟩ := (Option.any_eq_true _ _).1 h
    rw [hnumber]
    rw [Document.number] at hnumber
    obtain ⟨text, -, hparse⟩ := Option.bind_eq_some_iff.1 hnumber
    split at hparse
    · cases hparse
    · exact (eq_nan_of_denotes ((Number.parse_eq_some_iff_denotes _).1 hparse) hv).1

end Attributes

/-! Records of undefined attributes -/

section Records

variable {o : Options} {d : Document} {e : Element} {r : ShapeRecord} {parent : Option String}

theorem lacks_of_size? {name : String} {v : Float} (h : size? (d.number e name) = some v) :
    d.lacks e name = false ∧ d.isUndefined e name = false := by
  obtain ⟨hnumber, hv⟩ := Option.filter_eq_some_iff.1 h
  rw [Bool.not_eq_true'] at hv
  simp [Document.isUndefined, Document.lacks, Document.namesNaN, hnumber, hv]

theorem hasNaN_circle (hname : e.name = "circle")
    (h : (usedNames o e).any (d.isUndefined e) = true) (t : Shift) :
    (ShapeRecord.circle ((d.circle e).place o.circleCenter t)).hasNaN = true := by
  rw [usedNames, if_pos hname] at h
  cases hcenter : o.circleCenter <;> rw [hcenter] at h <;>
    simp only [List.any_cons, List.any_nil, Bool.or_false, Bool.or_eq_true] at h <;>
    rcases h with h | h | h <;>
    simp [ShapeRecord.hasNaN, CircleAttributes.place, CircleAttributes.centerBy, Document.circle,
      Shift.apply, orNaN_of_isUndefined h, Number.nan_add, isNaN_nan]

theorem hasNaN_rect (h : d.isUndefined e "x" = true ∨ d.isUndefined e "y" = true)
    (corner : BottomRightY) (width height : Float) (t : Shift) :
    (ShapeRecord.rectangle ((d.rect e).place corner width height t)).hasNaN = true := by
  rcases h with h | h <;>
    simp [ShapeRecord.hasNaN, RectangleRecord.corners, RectAttributes.place, Document.rect,
      Shift.apply, orNaN_of_isUndefined h, Number.nan_add, isNaN_nan]

/-- If malformed shapes stay, the warning about a circle is given exactly for a record of it with an
attribute lacking. -/
theorem warning?_circle (hname : e.name = "circle") :
    warning? (o.treating .propagate) ⟨.circle (d.circle e), parent⟩ =
      (record (o.treating .propagate) ⟨.circle (d.circle e), parent⟩).toOption.bind fun _ =>
        if (usedNames o e).any (d.lacks e) then some (d.warning e) else none := by
  rw [toOption_circle, Document.warning, if_pos hname, usedNames, if_pos hname]
  have hshift : parentShift (o.treating .propagate) parent = parentShift o parent := rfl
  simp only [warning?, hshift]
  cases parentShift o parent with
  | error reason => rfl
  | ok t =>
      change (if (true && _) = true then _ else _) = _
      cases hcenter : o.circleCenter <;>
        simp [Options.treating, hcenter, CircleAttributes.centerBy, Document.circle,
          Document.lacks, Except.toOption, letsThrough, Option.filter, or_assoc]

theorem warning?_rect (hname : e.name = "rect") :
    warning? (o.treating .propagate) ⟨.rect (d.rect e), parent⟩ =
      (record (o.treating .propagate) ⟨.rect (d.rect e), parent⟩).toOption.bind fun _ =>
        if (usedNames o e).any (d.lacks e) then some (d.warning e) else none := by
  have hcircle : e.name ≠ "circle" := by
    rw [hname]
    decide
  rw [toOption_rect, Document.warning, if_neg hcircle, usedNames, if_neg hcircle]
  have hshift : parentShift (o.treating .propagate) parent = parentShift o parent := rfl
  simp only [warning?, hshift]
  cases hwidth : size? (d.rect e).width with
  | none => rfl
  | some width =>
      cases hheight : size? (d.rect e).height with
      | none => rfl
      | some height =>
          cases parentShift o parent with
          | error reason => rfl
          | ok t =>
              have hsized := And.intro (lacks_of_size? hwidth).1 (lacks_of_size? hheight).1
              simp only [Document.lacks] at hsized
              simp [Document.rect, Document.lacks, hsized, Except.isOk, Except.toBool,
                Except.toOption, letsThrough, Option.filter]

/-- A record with an attribute missing or undefined is undefined itself. -/
theorem hasNaN_of_record_rect (hname : e.name = "rect")
    (h : (usedNames o e).any (d.isUndefined e) = true)
    (hr : (record (o.treating .propagate) ⟨.rect (d.rect e), parent⟩).toOption = some r) :
    r.hasNaN = true := by
  rw [toOption_rect] at hr
  obtain ⟨width, hwidth, hr⟩ := Option.bind_eq_some_iff.1 hr
  obtain ⟨height, hheight, hr⟩ := Option.bind_eq_some_iff.1 hr
  obtain ⟨t, -, hr⟩ := Option.bind_eq_some_iff.1 hr
  obtain ⟨hr, -⟩ := Option.filter_eq_some_iff.1 hr
  obtain rfl := Option.some.inj hr
  have hcircle : e.name ≠ "circle" := by
    rw [hname]
    decide
  rw [usedNames, if_neg hcircle] at h
  simp only [List.any_cons, List.any_nil, Bool.or_false, Bool.or_eq_true,
    (lacks_of_size? hwidth).2, (lacks_of_size? hheight).2] at h
  exact hasNaN_rect h _ _ _ _

theorem hasNaN_of_record_circle (hname : e.name = "circle")
    (h : (usedNames o e).any (d.isUndefined e) = true)
    (hr : (record (o.treating .propagate) ⟨.circle (d.circle e), parent⟩).toOption = some r) :
    r.hasNaN = true := by
  rw [toOption_circle] at hr
  obtain ⟨t, -, hr⟩ := Option.bind_eq_some_iff.1 hr
  obtain ⟨hr, -⟩ := Option.filter_eq_some_iff.1 hr
  obtain rfl := Option.some.inj hr
  exact hasNaN_circle hname h t

end Records

/-! Shapes of a document -/

namespace Document

variable {o : Options} {d : Document} {x : Element × Primitive} {y : Element × ShapeRecord}

/-- A shape of a document is one of its circles or one of its rectangles. -/
theorem of_mem_shapes (h : x ∈ d.shapes) :
    ∃ parent, (x.1.name = "circle" ∧ x.2 = ⟨.circle (d.circle x.1), parent⟩) ∨
      (x.1.name = "rect" ∧ x.2 = ⟨.rect (d.rect x.1), parent⟩) := by
  have hname {name : String} {z : Element × Nat} (hz : z ∈ d.named name) : z.1.name = name :=
    beq_iff_eq.1 (List.mem_filter.1 hz).2
  rcases List.mem_append.1 h with h | h
  · obtain ⟨z, hz, rfl⟩ := List.mem_map.1 h
    exact ⟨_, .inl ⟨hname hz, rfl⟩⟩
  · obtain ⟨z, hz, rfl⟩ := List.mem_map.1 h
    exact ⟨_, .inr ⟨hname hz, rfl⟩⟩

theorem warning?_of_mem_shapes (h : x ∈ d.shapes) :
    warning? (o.treating .propagate) x.2 =
      (record (o.treating .propagate) x.2).toOption.bind fun _ =>
        if (usedNames o x.1).any (d.lacks x.1) then some (d.warning x.1) else none := by
  obtain ⟨parent, ⟨hname, hx⟩ | ⟨hname, hx⟩⟩ := of_mem_shapes h
  · rw [hx]
    exact warning?_circle hname
  · rw [hx]
    exact warning?_rect hname

theorem hasNaN_of_mem_records (hy : y ∈ d.records (o.treating .propagate))
    (h : (usedNames o y.1).any (d.isUndefined y.1) = true) : y.2.hasNaN = true := by
  obtain ⟨x, hx, hy⟩ := List.mem_filterMap.1 hy
  obtain ⟨r, hr, rfl⟩ := Option.map_eq_some_iff.1 hy
  obtain ⟨parent, ⟨hname, hshape⟩ | ⟨hname, hshape⟩⟩ := of_mem_shapes hx
  · rw [hshape] at hr
    exact hasNaN_of_record_circle hname h hr
  · rw [hshape] at hr
    exact hasNaN_of_record_rect hname h hr

/-- The warnings about the elements of which the record is computed from an attribute like `p`. -/
def warningsFor (o : Options) (d : Document) (p : Element → String → Bool) : List Event :=
  ((d.records o).filter fun x => (usedNames o x.1).any (p x.1)).map fun x => d.warning x.1

theorem filterMap_warning? (o : Options) (d : Document) :
    d.primitives.filterMap (warning? (o.treating .propagate)) =
      d.warningsFor (o.treating .propagate) d.lacks := by
  have hused (e : Element) : usedNames (o.treating .propagate) e = usedNames o e := rfl
  rw [primitives_eq, List.filterMap_map, warningsFor, records, List.filter_filterMap,
    List.map_filterMap]
  refine List.filterMap_congr fun x hx => ?_
  rw [Function.comp_apply, warning?_of_mem_shapes hx]
  simp only [hused]
  cases (record (o.treating .propagate) x.2).toOption with
  | none => rfl
  | some r =>
      cases hlacks : (usedNames o x.1).any (d.lacks x.1) <;> simp [Option.filter, hlacks]

end Document

/-! Events -/

section Events

variable {o : Options} {text : String} {d : Document}

theorem select_append (es fs : List Event) :
    Event.select .warn (es ++ fs) = Event.select .warn es ++ Event.select .warn fs :=
  List.filter_append _ _

theorem select_shapeEvents (o : Options) (p : Primitive) (i : Nat) :
    Event.select .warn (shapeEvents o p i) = (warning? o p).toList := by
  have hwarning : Event.select .warn (warning? o p).toList = (warning? o p).toList := by
    refine List.filter_eq_self.2 fun e he => ?_
    rw [(of_mem_warning he).2]
    rfl
  have hskipped : Event.select .warn (skipReports o [(p, i)]) = [] := by
    cases hrecord : record o p with
    | ok r => rw [skipReports_ok hrecord]; rfl
    | error reason => rw [skipReports_error hrecord]; rfl
  rw [shapeEvents_eq, select_append, hwarning, hskipped, List.append_nil]

theorem select_extractEvents (o : Options) (ps : List Primitive) :
    Event.select .warn (extractEvents o ps) = (circlesFirst ps).filterMap (warning? o) := by
  have htotals (a b c d : Nat) : Event.select .warn [.extracted a b c d] = [] := rfl
  rw [extractEvents, select_append, htotals, List.append_nil, Event.select, List.filter_flatMap]
  change ((circlesFirst ps).zipIdx.flatMap fun x => Event.select .warn (shapeEvents o x.1 x.2)) = _
  simp only [select_shapeEvents]
  calc
    _ = (((circlesFirst ps).zipIdx.map Prod.fst).flatMap fun p => (warning? o p).toList) :=
      (List.flatMap_map ..).symm
    _ = _ := by rw [List.zipIdx_map_fst, List.filterMap_eq_flatMap_toList]

theorem extractMarkup_of_parse (h : Document.parse o text = .ok d) :
    extractMarkup o text = .ok (extract o d.primitives, d.loadEvents ++
      .loaded d.svgCount d.faults.length d.primitives.length :: extractEvents o d.primitives) := by
  rw [extractMarkup, h]
  rfl

/-- Loading a document and counting its records gives no warning. -/
theorem select_run (o : Options) (d : Document) (svgs faults shapes : Nat) :
    Event.select .warn (d.loadEvents ++ .loaded svgs faults shapes :: extractEvents o d.primitives) =
      d.primitives.filterMap (warning? o) := by
  have hload : Event.select .warn d.loadEvents = [] := by
    rw [Document.loadEvents]
    split <;> rfl
  have hloaded (es : List Event) :
      Event.select .warn (.loaded svgs faults shapes :: es) = Event.select .warn es := rfl
  rw [select_append, hload, List.nil_append, hloaded, select_extractEvents,
    Document.circlesFirst_primitives]

end Events

/-- A filter lets as many through as a weaker one only if it is no stronger on the list. -/
theorem map_filter_eq_iff {α β : Type} {f : α → β} {p q : α → Bool} {xs : List α}
    (h : ∀ x, p x = true → q x = true) :
    (xs.filter p).map f = (xs.filter q).map f ↔ ∀ x ∈ xs, q x = true → p x = true := by
  constructor
  · intro heq x hx hq
    have hsub : (xs.filter p).Sublist (xs.filter q) := List.monotone_filter_right xs h
    have hsame := hsub.eq_of_length (by simpa using congrArg List.length heq)
    have hmem : x ∈ xs.filter p := hsame ▸ List.mem_filter.2 ⟨hx, hq⟩
    exact (List.mem_filter.1 hmem).2
  · intro hweaker
    have hsame : xs.filter p = xs.filter q :=
      List.filter_congr fun x hx => Bool.eq_iff_iff.2 ⟨h x, hweaker x hx⟩
    rw [hsame]

/-- If malformed shapes stay, a run warns about each record of an element that lacks an attribute it
is computed from, one time and in the order of the records, and about no other. Such a record is
undefined. It is undefined as well if such an attribute names the undefined number, and then there
is a warning only if another one is lacking. So all records that are undefined for their attributes
have a warning exactly if none of them has its undefined number from such names alone. -/
theorem run_warns (o : Options) (text : String) :
    (∃ e, extractMarkup (o.treating .propagate) text = .error e) ∨
    ∃ d events, Document.parse (o.treating .propagate) text = .ok d ∧
      extractMarkup (o.treating .propagate) text =
        .ok (⟨(d.records (o.treating .propagate)).map Prod.snd⟩, events) ∧
      Event.select .warn events = d.warningsFor (o.treating .propagate) d.lacks ∧
      (∀ x ∈ d.records (o.treating .propagate),
        (usedNames o x.1).any (d.isUndefined x.1) = true → x.2.hasNaN = true) ∧
      (∀ e name, d.namesNaN e name = true ↔
        ∃ text, e.value? name = some text ∧ Names (Text.trim text.toList) nan) ∧
      (Event.select .warn events = d.warningsFor (o.treating .propagate) d.isUndefined ↔
        ∀ x ∈ d.records (o.treating .propagate),
          (∃ name ∈ usedNames o x.1, d.namesNaN x.1 name = true) →
            ∃ name ∈ usedNames o x.1, d.lacks x.1 name = true) := by
  rcases parse_treating o text with ⟨e, herror⟩ | ⟨tree, faults, hparse⟩
  · left
    exact ⟨e, by rw [extractMarkup, herror]; rfl⟩
  · right
    generalize hd : Document.mk tree faults (Malformed.propagate == .skip) = d
    have hloaded : Document.parse (o.treating .propagate) text = .ok d := by rw [hparse, hd]
    have hrun := extractMarkup_of_parse hloaded
    rw [Document.extract_primitives] at hrun
    have hwarnings := (select_run (o.treating .propagate) d d.svgCount d.faults.length
      d.primitives.length).trans (Document.filterMap_warning? o d)
    refine ⟨d, _, hloaded, hrun, hwarnings, fun x hx => Document.hasNaN_of_mem_records hx,
      fun e name => namesNaN_iff (by rw [← hd]; rfl), ?_⟩
    rw [hwarnings, Document.warningsFor, Document.warningsFor, map_filter_eq_iff]
    · refine forall₂_congr fun x _ => ?_
      -- that something is lacking is only left to show where the undefined number was meant
      simp only [List.any_eq_true, Document.isUndefined, Bool.or_eq_true]
      constructor
      · rintro h ⟨name, hname, hnan⟩
        exact h ⟨name, hname, .inr hnan⟩
      · rintro h ⟨name, hname, hlacks | hnan⟩
        · exact ⟨name, hname, hlacks⟩
        · exact h ⟨name, hname, hnan⟩
    · intro x hlacks
      obtain ⟨name, hname, hlacks⟩ := List.any_eq_true.1 hlacks
      exact List.any_eq_true.2 ⟨name, hname, by rw [Document.isUndefined, hlacks, Bool.true_or]⟩

/-- A circle whose abscissa names the undefined number has an undefined record, and there is no
warning. -/
theorem undefined_number_passes :
    ∃ text d c events,
      text = "<g transform=\"translate(1, 2)\"><circle rx=\"NaN\" ry=\"1\" r=\"2\"></circle></g>" ∧
      Document.parse {} text = .ok d ∧ extractMarkup {} text = .ok (c, events) ∧
      (d.records {}).any (fun x => (usedNames {} x.1).any (d.isUndefined x.1) && x.2.hasNaN) =
        true ∧
      Event.select .warn events = [] := by
  refine ⟨_, _, _, _, rfl, exists_parse (.inl rfl), extractMarkup_of_parse (exists_parse (.inl rfl)),
    ?_, ?_⟩
  · decide +kernel
  · decide +kernel

end ShapeCoords
