import ShapeCoords.Proofs.Page.Frame

/-!
What rendering a page asks of a renderer: one drawing for each block in turn, up to the first that
fails. If none fails, the drawings are as many as the blocks, and take their places.
-/

namespace ShapeCoords.Page

def Renderer.answer (r : Renderer) (c : Call) : Except RenderError String :=
  r.draw c.source c.id

/-- The calls for some sources, the first under an index. -/
def callsFrom (index : Nat) (sources : List String) : List Call :=
  (sources.zipIdx index).map fun (source, i) => ⟨diagramId i, source⟩

def callsFor (sources : List String) : List Call :=
  callsFrom 0 sources

/-- Each call gives the drawing at its place. -/
def DrawsAll (r : Renderer) (calls : List Call) (drawings : List String) : Prop :=
  calls.map r.answer = drawings.map .ok

/-- Call `i` is the first one that fails, with an error. -/
structure FailsFirst (r : Renderer) (calls : List Call) (i : Nat) (e : RenderError) : Prop where
  drawn : ∃ drawings, DrawsAll r (calls.take i) drawings
  fails : ∃ c, calls[i]? = some c ∧ r.answer c = .error e

theorem callsFrom_cons (index : Nat) (source : String) (sources : List String) :
    callsFrom index (source :: sources) =
      ⟨diagramId index, source⟩ :: callsFrom (index + 1) sources := rfl

theorem length_callsFrom (index : Nat) (sources : List String) :
    (callsFrom index sources).length = sources.length := by
  simp [callsFrom]

theorem DrawsAll.length_eq {r : Renderer} {calls : List Call} {drawings : List String}
    (h : DrawsAll r calls drawings) : drawings.length = calls.length := by
  simpa using (congrArg List.length h).symm

theorem DrawsAll.cons {r : Renderer} {c : Call} {calls : List Call} {drawing : String}
    {drawings : List String} (hc : r.answer c = .ok drawing) (h : DrawsAll r calls drawings) :
    DrawsAll r (c :: calls) (drawing :: drawings) := by
  rw [DrawsAll, List.map_cons, List.map_cons, hc, h]

theorem DrawsAll.ok_of_mem {r : Renderer} {calls : List Call} {drawings : List String}
    (h : DrawsAll r calls drawings) {c : Call} (hc : c ∈ calls) :
    ∃ drawing, r.answer c = .ok drawing := by
  have hmem : r.answer c ∈ drawings.map Except.ok := h ▸ List.mem_map_of_mem hc
  obtain ⟨drawing, -, hdrawing⟩ := List.mem_map.1 hmem
  exact ⟨drawing, hdrawing.symm⟩

theorem FailsFirst.zero {r : Renderer} {c : Call} {e : RenderError} (hc : r.answer c = .error e)
    (calls : List Call) : FailsFirst r (c :: calls) 0 e :=
  ⟨⟨[], rfl⟩, c, rfl, hc⟩

theorem FailsFirst.succ {r : Renderer} {c : Call} {calls : List Call} {drawing : String} {i : Nat}
    {e : RenderError} (hc : r.answer c = .ok drawing) (h : FailsFirst r calls i e) :
    FailsFirst r (c :: calls) (i + 1) e := by
  obtain ⟨⟨drawings, hdrawn⟩, hfails⟩ := h
  refine ⟨⟨drawing :: drawings, ?_⟩, ?_⟩
  · rw [List.take_succ_cons]
    exact hdrawn.cons hc
  · rwa [List.getElem?_cons_succ]

/-! Drawing in turn -/

theorem drawFrom_error {r : Renderer} {index : Nat} {source : String} {e : RenderError}
    (h : r.answer ⟨diagramId index, source⟩ = .error e) (sources : List String) :
    drawFrom r index (source :: sources) =
      { result := .error e, calls := [⟨diagramId index, source⟩] } := by
  change r.draw source (diagramId index) = .error e at h
  simp only [drawFrom, h]

theorem drawFrom_ok {r : Renderer} {index : Nat} {source drawing : String}
    (h : r.answer ⟨diagramId index, source⟩ = .ok drawing) (sources : List String) :
    (drawFrom r index (source :: sources)).result =
        (drawFrom r (index + 1) sources).result.map (drawing :: ·) ∧
      (drawFrom r index (source :: sources)).calls =
        ⟨diagramId index, source⟩ :: (drawFrom r (index + 1) sources).calls := by
  change r.draw source (diagramId index) = .ok drawing at h
  simp only [drawFrom, h, and_self]

/-- Either all calls are made and each gives a drawing, or they end with the first that fails. -/
theorem drawFrom_cases (r : Renderer) (index : Nat) (sources : List String) :
    (∃ drawings, DrawsAll r (callsFrom index sources) drawings ∧
      (drawFrom r index sources).result = .ok drawings ∧
      (drawFrom r index sources).calls = callsFrom index sources) ∨
    ∃ i e, FailsFirst r (callsFrom index sources) i e ∧
      (drawFrom r index sources).result = .error e ∧
      (drawFrom r index sources).calls = (callsFrom index sources).take (i + 1) := by
  induction sources generalizing index with
  | nil => exact .inl ⟨[], rfl, rfl, rfl⟩
  | cons source sources ih =>
      rw [callsFrom_cons]
      cases hcall : r.answer ⟨diagramId index, source⟩ with
      | error e =>
          rw [drawFrom_error hcall]
          exact .inr ⟨0, e, .zero hcall _, rfl, rfl⟩
      | ok drawing =>
          obtain ⟨hresult, hcalls⟩ := drawFrom_ok hcall sources
          rw [hresult, hcalls]
          rcases ih (index + 1) with ⟨drawings, hall, hok, hmade⟩ | ⟨i, e, hfails, herror, hmade⟩
          · rw [hok, hmade]
            exact .inl ⟨drawing :: drawings, hall.cons hcall, rfl, rfl⟩
          · rw [herror, hmade]
            exact .inr ⟨i + 1, e, hfails.succ hcall, rfl, rfl⟩

/-- The first call that fails is the only one at which drawing can end. -/
theorem FailsFirst.unique {r : Renderer} {calls : List Call} {i j : Nat} {e f : RenderError}
    (h : FailsFirst r calls i e) (h' : FailsFirst r calls j f) : i = j ∧ e = f := by
  -- a call before the first that fails gives a drawing
  have hnot {i j : Nat} {e f : RenderError} (h : FailsFirst r calls i e)
      (h' : FailsFirst r calls j f) : ¬i < j := by
    intro hlt
    obtain ⟨c, hc, hfails⟩ := h.fails
    obtain ⟨drawings, hdrawn⟩ := h'.drawn
    have hmem : c ∈ calls.take j := by
      refine List.mem_of_getElem? (i := i) ?_
      rw [List.getElem?_take_of_lt hlt, hc]
    obtain ⟨drawing, hok⟩ := hdrawn.ok_of_mem hmem
    rw [hfails] at hok
    cases hok
  have hij : i = j := Nat.le_antisymm (Nat.not_lt.1 (hnot h' h)) (Nat.not_lt.1 (hnot h h'))
  subst hij
  obtain ⟨c, hc, hfails⟩ := h.fails
  obtain ⟨c', hc', hfails'⟩ := h'.fails
  rw [hc] at hc'
  cases hc'
  rw [hfails] at hfails'
  cases hfails'
  exact ⟨rfl, rfl⟩

theorem FailsFirst.not_drawsAll {r : Renderer} {calls : List Call} {i : Nat} {e : RenderError}
    (h : FailsFirst r calls i e) (drawings : List String) : ¬DrawsAll r calls drawings := by
  intro hall
  obtain ⟨c, hc, hfails⟩ := h.fails
  obtain ⟨drawing, hok⟩ := hall.ok_of_mem (List.mem_of_getElem? hc)
  rw [hfails] at hok
  cases hok

theorem DrawsAll.unique {r : Renderer} {calls : List Call} {drawings others : List String}
    (h : DrawsAll r calls drawings) (h' : DrawsAll r calls others) : drawings = others :=
  (List.map_inj_right fun _ _ heq => Except.ok.inj heq).1 (h.symm.trans h')

/-! Rendering -/

section Rendering

variable {page : String} {sources : List String} {r : Renderer}

/-- Collecting fails for one reason only. -/
theorem collectSources_error {e : RenderError} (h : collectSources page = .error e) :
    ∃ name, e = .page (.ambiguousTag name) := by
  unfold collectSources at h
  split at h
  · cases h
  · next name _ =>
    cases h
    exact ⟨name, rfl⟩

theorem render_of_error {e : RenderError} (h : collectSources page = .error e) (r : Renderer) :
    (render r page).result = .error e ∧ (render r page).calls = [] := by
  simp only [render, h, and_self]

theorem render_of_nil (h : collectSources page = .ok []) (r : Renderer) :
    (render r page).result = .ok page ∧ (render r page).calls = [] := by
  simp only [render, h, and_self]

theorem render_of_failsFirst (h : collectSources page = .ok sources) {i : Nat} {e : RenderError}
    (hfails : FailsFirst r (callsFor sources) i e) :
    (render r page).result = .error e ∧
      (render r page).calls = (callsFor sources).take (i + 1) := by
  have hne : sources ≠ [] := by
    rintro rfl
    obtain ⟨c, hc, -⟩ := hfails.fails
    cases hc
  rcases drawFrom_cases r 0 sources with ⟨drawings, hall, -⟩ | ⟨j, f, hfirst, hresult, hcalls⟩
  · exact absurd hall (hfails.not_drawsAll drawings)
  · obtain ⟨rfl, rfl⟩ := hfirst.unique hfails
    simp only [render, h, hresult, hcalls, callsFor, and_self]

theorem render_of_drawsAll (h : collectSources page = .ok sources) (hne : sources ≠ [])
    {drawings : List String} (hall : DrawsAll r (callsFor sources) drawings) :
    (render r page).result = inline page drawings ∧
      (render r page).calls = callsFor sources := by
  rcases drawFrom_cases r 0 sources with ⟨others, hothers, hresult, hcalls⟩ | ⟨i, e, hfirst, -⟩
  · obtain rfl := hothers.unique hall
    simp only [render, h, hresult, hcalls, callsFor, and_self]
  · exact absurd hall (hfirst.not_drawsAll drawings)

/-- With as many drawings as blocks only a refused tag at the end of the page is in the way. -/
theorem inline_of_length_eq (h : collectSources page = .ok sources) {drawings : List String}
    (hlength : drawings.length = sources.length) :
    ((¬∃ name, EndsInRefusedTag page name) →
      inline page drawings = .ok (String.ofList (fill drawings (visits page.toList)))) ∧
    ∀ name, EndsInRefusedTag page name →
      inline page drawings = .error (.page (.ambiguousTag name)) := by
  refine ⟨fun hnone => ?_, fun name hend => ?_⟩
  · have hunrefused := (unrefused_or_endsInRefusedTag h).resolve_right hnone
    rw [inline_of_unrefused hunrefused, ← (collectSources_ok h).2, hlength,
      if_neg (Nat.lt_irrefl _), if_pos rfl]
  · rw [inline_of_endsInRefusedTag h hend, hlength, if_neg (Nat.lt_irrefl _)]

/-- Where the page can be cut at its blocks, the drawings stand between the cuts. -/
theorem fill_of_cut (h : collectSources page = .ok sources) {drawings : List String}
    (hlength : drawings.length = sources.length) {ss : List Section} {last : List Part}
    (hcut : Cut [] (parts page.toList) ss last) :
    (¬∃ name, EndsInRefusedTag page name) ∧
      fill drawings (visits page.toList) = weave ss drawings last := by
  have honly := onlyCutRefused_of_collectSources h
  obtain ⟨-, hcount, hnone⟩ := hcut.fill_eq rfl honly
    (show (ss.map fun _ => "").length = ss.length by simp)
  have hdrawings : drawings.length = ss.length := by
    rw [hlength, (collectSources_ok h).2, visits, hcount]
  refine ⟨?_, (hcut.fill_eq rfl honly hdrawings).1⟩
  rintro ⟨name, hend⟩
  exact not_endsInRefusedTag hnone name hend

/-- A count that does not fit is a reason for a failure only if the renderer says so. -/
theorem exists_call_of_count_error {e : RenderError}
    (he : e = .page .tooFewDrawings ∨ ∃ blocks drawings, e = .countMismatch blocks drawings)
    (hresult : (render r page).result = .error e) :
    ∃ c ∈ (render r page).calls, r.answer c = .error e := by
  have hname {name : String} : e ≠ .page (.ambiguousTag name) := by
    rintro rfl
    rcases he with he | ⟨_, _, he⟩ <;> cases he
  cases h : collectSources page with
  | error f =>
      obtain ⟨name, rfl⟩ := collectSources_error h
      rw [(render_of_error h r).1] at hresult
      exact absurd (Except.error.inj hresult).symm hname
  | ok sources =>
      by_cases hne : sources = []
      · subst hne
        rw [(render_of_nil h r).1] at hresult
        cases hresult
      rcases drawFrom_cases r 0 sources with ⟨drawings, hall, -⟩ | ⟨i, f, hfails, -⟩
      · -- all drawings are there, so only a refused tag is left as a reason
        rw [(render_of_drawsAll h hne hall).1] at hresult
        obtain ⟨hfilled, hrefused⟩ :=
          inline_of_length_eq h (hall.length_eq.trans (length_callsFrom 0 sources))
        by_cases hend : ∃ name, EndsInRefusedTag page name
        · obtain ⟨name, hend⟩ := hend
          rw [hrefused name hend] at hresult
          exact absurd (Except.error.inj hresult).symm hname
        · rw [hfilled hend] at hresult
          cases hresult
      · obtain ⟨herror, hcalls⟩ := render_of_failsFirst h hfails
        obtain ⟨c, hc, hfailed⟩ := hfails.fails
        rw [herror] at hresult
        cases hresult
        refine ⟨c, ?_, hfailed⟩
        rw [hcalls]
        refine List.mem_of_getElem? (i := i) ?_
        rw [List.getElem?_take_of_lt (Nat.lt_succ_self i)]
        exact hc

end Rendering

/-- What rendering a page calls, and how it ends. A count of blocks and drawings that does not fit
is never the reason for a failure, unless the renderer says so; but for a page that ends inside of
a block in a refused tag, all drawings are made and then that tag is refused. -/
theorem render_outcome (r : Renderer) (page : String) :
    (∀ e, collectSources page = .error e →
      (∃ name, e = .page (.ambiguousTag name)) ∧ (render r page).result = .error e ∧
        (render r page).calls = []) ∧
    (collectSources page = .ok [] →
      (render r page).result = .ok page ∧ (render r page).calls = []) ∧
    (∀ sources, collectSources page = .ok sources → sources ≠ [] →
      (∀ i e, FailsFirst r (callsFor sources) i e →
        (render r page).result = .error e ∧
          (render r page).calls = (callsFor sources).take (i + 1)) ∧
      (∀ drawings, DrawsAll r (callsFor sources) drawings →
        (render r page).calls = callsFor sources ∧
        ((¬∃ name, EndsInRefusedTag page name) →
          (render r page).result = .ok (String.ofList (fill drawings (visits page.toList)))) ∧
        (∀ ss last, Cut [] (parts page.toList) ss last →
          (render r page).result = .ok (String.ofList (weave ss drawings last))) ∧
        (∀ name, EndsInRefusedTag page name →
          (render r page).result = .error (.page (.ambiguousTag name)))) ∧
      ((∃ i e, FailsFirst r (callsFor sources) i e) ∨
        ∃ drawings, DrawsAll r (callsFor sources) drawings)) ∧
    (∀ e, (e = .page .tooFewDrawings ∨ ∃ blocks drawings, e = .countMismatch blocks drawings) →
      (render r page).result = .error e → ∃ c ∈ (render r page).calls, r.answer c = .error e) := by
  refine ⟨fun e h => ?_, fun h => ?_, fun sources h hne => ⟨?_, ?_, ?_⟩, ?_⟩
  · exact ⟨collectSources_error h, render_of_error h r⟩
  · exact render_of_nil h r
  · exact fun i e hfails => render_of_failsFirst h hfails
  · intro drawings hall
    obtain ⟨hresult, hcalls⟩ := render_of_drawsAll h hne hall
    obtain ⟨hfilled, hrefused⟩ :=
      inline_of_length_eq h (hall.length_eq.trans (length_callsFrom 0 sources))
    refine ⟨hcalls, fun hnone => hresult.trans (hfilled hnone), fun ss last hcut => ?_,
      fun name hend => hresult.trans (hrefused name hend)⟩
    obtain ⟨hnone, hweave⟩ :=
      fill_of_cut h (hall.length_eq.trans (length_callsFrom 0 sources)) hcut
    rw [hresult, hfilled hnone, hweave]
  · rcases drawFrom_cases r 0 sources with ⟨drawings, hall, -⟩ | ⟨i, e, hfails, -⟩
    · exact .inr ⟨drawings, hall⟩
    · exact .inl ⟨i, e, hfails⟩
  · exact fun e he hresult => exists_call_of_count_error he hresult

/-- A renderer that refuses the second block of each page, and echoes the others. -/
def refusesSecond : Renderer where
  draw source id := if id = "mermaid-1" then .error (.noDiagram id) else .ok source

theorem render_outcome_second_fails :
    collectSources "<div class=mermaid>a</div><pre class=mermaid>b</pre><div class=mermaid>c" =
        .ok ["a", "b", "c"] ∧
      FailsFirst refusesSecond (callsFor ["a", "b", "c"]) 1 (.noDiagram "mermaid-1") ∧
      (render refusesSecond
        "<div class=mermaid>a</div><pre class=mermaid>b</pre><div class=mermaid>c").calls =
        [⟨"mermaid-0", "a"⟩, ⟨"mermaid-1", "b"⟩] := by
  have h : collectSources
      "<div class=mermaid>a</div><pre class=mermaid>b</pre><div class=mermaid>c" =
      .ok ["a", "b", "c"] := by
    decide +kernel
  have hfails : FailsFirst refusesSecond (callsFor ["a", "b", "c"]) 1
      (.noDiagram "mermaid-1") :=
    ⟨⟨["a"], by unfold DrawsAll; decide +kernel⟩, ⟨"mermaid-1", "b"⟩, by decide +kernel,
      by decide +kernel⟩
  refine ⟨h, hfails, ?_⟩
  rw [(((render_outcome refusesSecond _).2.2.1 _ h (by simp)).1 _ _ hfails).2]
  decide +kernel

/-- A page of which each block is drawn, and which is refused all the same. -/
theorem drawn_page_refused :
    ∃ page sources drawings r, collectSources page = .ok sources ∧ sources ≠ [] ∧
      DrawsAll r (callsFor sources) drawings ∧
      (render r page).result = .error (.page (.ambiguousTag "xmp")) := by
  refine ⟨"<select><div class=\"mermaid\"><xmp ", [""], ["<svg></svg>"],
    ⟨fun _ _ => .ok "<svg></svg>"⟩, by decide +kernel, by simp, rfl, by decide +kernel⟩

end ShapeCoords.Page
