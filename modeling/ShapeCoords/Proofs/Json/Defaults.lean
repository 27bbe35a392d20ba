import ShapeCoords.Proofs.Json.Structures

/-!
Structures that have defaults for their fields and admit no other names. A list may end before the
last field and an object may leave fields out. Exactly the texts of such values are read.
-/

namespace ShapeCoords.Json

open Reader

/-! What readers take -/

section Takes

variable {α β γ : Type} {P : List Char → α → Prop} {r : Reader β} {f : α → Option β}

/-- What the reader takes is a text of a value that stands for what it gives. -/
def TakesValues (P : List Char → α → Prop) (r : Reader β) (f : α → Option β) : Prop :=
  ∀ s b t, Took r s b t → ∃ w e x, Spaces w ∧ s = w ++ (e ++ t) ∧ P e x ∧ f x = some b

theorem TakesValues.map (h : TakesValues P r f) (g : β → γ) :
    TakesValues P (g <$> r) fun x => (f x).map g := by
  intro s c t htook
  obtain ⟨b, u, hb, hpure⟩ := Took.of_bind (f := fun b => Pure.pure (g b)) htook
  obtain ⟨rfl, rfl⟩ := hpure.of_pure
  obtain ⟨w, e, x, hw, hs, he, hx⟩ := h s b t hb
  exact ⟨w, e, x, hw, hs, he, by simp [hx]⟩

end Takes

namespace Schema

variable {σ α : Type}

/-- Sets the first fields in their order. The last ones may be left open. -/
def ofFirstItems : List (Field σ) → List Json → σ → Option σ
  | _, [], parts => some parts
  | f :: fs, v :: vs, parts => (f.ofJson v).bind fun set => ofFirstItems fs vs (set parts)
  | [], _ :: _, _ => none

/-- The parts that a value gives, if those that it does not give may be left open. -/
def partsOf (s : Schema σ α) : Json → Option σ
  | .array items => ofFirstItems s.fields items s.start
  | .object members => members.foldlM s.ofMember s.start
  | _ => none

variable (s : Schema σ α) {text t w w' e body : List Char} {d i : Nat} {a : α} {parts b : σ}

/-! The ends of structures -/

theorem reads_complete (hfinish : s.finish parts = .ok a) (t : List Char) :
    Reads (s.complete parts) t a t := by
  have hgives := s.gives_complete parts t
  rw [hfinish] at hgives
  exact hgives

theorem took_complete (h : Took (s.complete parts) text a t) : s.finish parts = .ok a ∧ t = text := by
  rw [complete] at h
  split at h
  · next b hb =>
    obtain ⟨rfl, rfl⟩ := h.of_pure
    exact ⟨hb, rfl⟩
  · exact absurd h (fails_fail _ _).not_took

/-! Lists -/

section Lists

variable {fs : List (Field σ)} {vs : List Json} {P : List Char → Json → Prop}

/-- Fields are read from the items as long as there are items. -/
theorem reads_readItems (hdefaults : s.hasDefaults = true)
    (hstart : ∀ e x, P e x → ∃ c u, e = c :: u ∧ isSpace c = false ∧ c ≠ ']')
    (hfields : ∀ f ∈ fs, Agrees P f.reader f.ofJson) {first : Bool} (hs : Items P first body vs)
    (hi : (i == 0) = first) (hw : Spaces w) (hparts : ofFirstItems fs vs parts = some b)
    (t : List Char) :
    ∃ w', Spaces w' ∧
      Reads (s.readItems fs i parts) (body ++ (w ++ ']' :: t)) b (w' ++ ']' :: t) := by
  induction fs generalizing first body vs i parts with
  | nil =>
      cases hs with
      | nil =>
          obtain rfl := Option.some.inj hparts
          exact ⟨w, hw, Reads.pure parts _⟩
      | cons => cases hparts
  | cons f fs ih =>
      rw [readItems, hi, hdefaults]
      cases hs with
      | nil =>
          obtain rfl := Option.some.inj hparts
          exact ⟨[], Spaces.nil, (Reads.nextItem_end hw t).bind (Reads.pure parts _)⟩
      | @cons _ v v' e rest x xs hv hv' he hs =>
          obtain ⟨set, hset, hparts⟩ := Option.bind_eq_some_iff.1 hparts
          have hfield := hfields f List.mem_cons_self e x [] (rest ++ (w ++ ']' :: t)) he Spaces.nil
            (hs.endsNumber (EndsNumber.spaces hw (EndsNumber.cons (by decide) t)))
          rw [hset] at hfield
          obtain ⟨w', hw', hrest⟩ := ih (fun f hf => hfields f (List.mem_cons_of_mem _ hf)) hs
            (i := i + 1) rfl hparts
          obtain ⟨c, u, rfl, hc, hend⟩ := hstart e x he
          have hitem : Reads (Reader.nextItem first) _ true _ :=
            Reads.nextItem hv hv' hc hend (u ++ (rest ++ (w ++ ']' :: t)))
          simp only [List.append_assoc, List.cons_append] at hfield hitem ⊢
          exact ⟨w', hw', hitem.bind (Reads.bind hfield hrest)⟩

theorem took_readItems (hfields : ∀ f ∈ fs, TakesValues P f.reader f.ofJson)
    (h : Took (s.readItems fs i parts) text b t) :
    ∃ body w vs, text = body ++ (w ++ t) ∧ Items P (i == 0) body vs ∧ Spaces w ∧
      ofFirstItems fs vs parts = some b := by
  induction fs generalizing text i parts with
  | nil =>
      obtain ⟨rfl, rfl⟩ := h.of_pure
      exact ⟨[], [], [], rfl, .nil _, Spaces.nil, rfl⟩
  | cons f fs ih =>
      obtain ⟨goOn, u, hnext, hrest⟩ := h.of_bind
      rcases hnext.of_nextItem with ⟨rfl, w, w', hw, hw', rfl⟩ | ⟨rfl, w, hw, rfl⟩
      · rw [if_pos rfl] at hrest
        obtain ⟨set, u, hset, hitems⟩ := hrest.of_bind
        obtain ⟨v, e, x, hv, rfl, he, hx⟩ := hfields f List.mem_cons_self _ _ _ hset
        obtain ⟨body, v', vs, rfl, hbody, hv', hparts⟩ :=
          ih (fun f hf => hfields f (List.mem_cons_of_mem _ hf)) hitems
        refine ⟨w ++ (separator (i == 0) ++ (w' ++ v ++ (e ++ body))), v', x :: vs, by simp,
          .cons hw (hw'.append hv) he hbody, hv', ?_⟩
        rw [ofFirstItems, hx]
        exact hparts
      · rw [if_neg Bool.false_ne_true] at hrest
        rcases hrest.of_ite with ⟨-, hpure⟩ | ⟨-, hfail⟩
        · obtain ⟨rfl, rfl⟩ := hpure.of_pure
          exact ⟨[], w, [], rfl, .nil _, hw, rfl⟩
        · exact absurd hfail (fails_fail _ _).not_took

end Lists

/-! Objects -/

theorem took_readMember {P : List Char → Json → Prop} (hclosed : s.isClosed = true)
    (hfields : ∀ f ∈ s.fields, TakesValues P f.reader f.ofJson) {name : String}
    (h : Took (s.readMember name parts) text b t) :
    ∃ w w' e x, Spaces w ∧ Spaces w' ∧ text = w ++ ':' :: (w' ++ (e ++ t)) ∧ P e x ∧
      s.ofMember parts (name, x) = some b := by
  rw [readMember] at h
  split at h
  · next f hfind =>
    rcases h.of_ite with ⟨-, hfail⟩ | ⟨hunset, hread⟩
    · exact absurd hfail (fails_fail _ _).not_took
    · obtain ⟨⟨⟩, _, hcolon, hrest⟩ := hread.of_bind
      obtain ⟨w, hw, rfl⟩ := hcolon.of_colon
      obtain ⟨set, u, hset, hpure⟩ := hrest.of_bind
      obtain ⟨rfl, rfl⟩ := hpure.of_pure
      obtain ⟨w', e, x, hw', rfl, he, hx⟩ :=
        hfields f (List.mem_of_find?_eq_some hfind) _ _ _ hset
      refine ⟨w, w', e, x, hw, hw', rfl, he, ?_⟩
      simp only [ofMember, hfind, if_neg hunset, hx, Option.map_some]
  · rw [hclosed, if_pos rfl] at h
    exact absurd h (fails_fail _ _).not_took

/-! Structures -/

theorem gives_reader_of_object (hfields : ∀ f ∈ s.fields, ∀ d, Agrees (IsText d) f.reader f.ofJson)
    {ms : List (String × Json)} (he : IsText d e (.object ms)) (hw : Spaces w) (t : List Char) :
    Gives s.reader (w ++ (e ++ t))
      ((s.partsOf (.object ms)).bind fun parts => (s.finish parts).toOption) t := by
  obtain ⟨d, body, w', rfl, rfl, hbody, hw'⟩ := he.of_object
  simp only [List.cons_append, List.append_assoc, List.nil_append]
  exact s.gives_reader_object (fun f hf => hfields f hf d) hw hbody hw' t

theorem reads_reader (hdefaults : s.hasDefaults = true)
    (hfields : ∀ f ∈ s.fields, ∀ d, Agrees (IsText d) f.reader f.ofJson) {v : Json}
    (he : IsText d e v) (hparts : s.partsOf v = some parts) (hfinish : s.finish parts = .ok a)
    (hw : Spaces w) (t : List Char) : Reads s.reader (w ++ (e ++ t)) a t := by
  cases v with
  | array vs =>
      obtain ⟨d, body, w', rfl, rfl, hbody, hw'⟩ := he.of_array
      simp only [List.cons_append, List.append_assoc, List.nil_append]
      obtain ⟨u, hu, hitems⟩ := s.reads_readItems hdefaults (fun e x he => he.exists_eq_cons)
        (fun f hf => hfields f hf d) hbody (i := 0) rfl hw' hparts t
      have hwhole := hitems.bind (s.reads_complete hfinish _)
      refine (Reads.valueStart hw rfl _).bind (Reads.locate ((Reads.skip '[' _).bind ?_))
      exact hwhole.closedBy (Reads.listEnd hu t)
  | object ms =>
      have hgives := s.gives_reader_of_object hfields he hw t
      rw [hparts, Option.bind_some, hfinish] at hgives
      exact hgives
  | _ => cases hparts

theorem took_reader (hclosed : s.isClosed = true)
    (hfields : ∀ f ∈ s.fields, TakesValues (IsText d) f.reader f.ofJson)
    (h : Took s.reader text a t) :
    ∃ w e v parts, Spaces w ∧ text = w ++ (e ++ t) ∧ IsText (d + 1) e v ∧
      s.partsOf v = some parts ∧ s.finish parts = .ok a := by
  obtain ⟨w, c, u, hw, rfl, -, hvalue⟩ := h.of_valueStart_bind
  replace hvalue := hvalue.of_locate
  split at hvalue
  · obtain ⟨u', hwhole, hend⟩ := hvalue.of_skip_bind.of_closedBy
    obtain ⟨v, hv, rfl⟩ := hend.of_listEnd
    obtain ⟨parts, _, hitems, hcomplete⟩ := hwhole.of_bind
    obtain ⟨hfinish, rfl⟩ := s.took_complete hcomplete
    obtain ⟨body, w', vs, rfl, hbody, hw', hparts⟩ := s.took_readItems hfields hitems
    exact ⟨w, '[' :: (body ++ ((w' ++ v) ++ [']'])), .array vs, parts, hw, by simp,
      .array rfl hbody (hw'.append hv), hparts, hfinish⟩
  · obtain ⟨u', hwhole, hend⟩ := hvalue.of_skip_bind.of_closedBy
    obtain ⟨v, hv, rfl⟩ := hend.of_objectEnd
    obtain ⟨parts, _, hmembers, hcomplete⟩ := hwhole.of_bind
    obtain ⟨hfinish, rfl⟩ := s.took_complete hcomplete
    obtain ⟨body, w', ms, rfl, hbody, hw', hparts⟩ := hmembers.of_eachMember (f := s.ofMember)
      fun name parts text b t h => s.took_readMember hclosed hfields h
    exact ⟨w, '\x7b' :: (body ++ ((w' ++ v) ++ ['\x7d'])), .object ms, parts, hw, by simp,
      .object rfl hbody (hw'.append hv), hparts, hfinish⟩
  · exact absurd hvalue (fails_wrongType _ _).not_took

/-- Exactly the texts of values that give the parts of the structure, with white space around them,
are read. -/
theorem run_eq_ok_iff (hdefaults : s.hasDefaults = true) (hclosed : s.isClosed = true)
    (hagrees : ∀ f ∈ s.fields, ∀ d, Agrees (IsText d) f.reader f.ofJson)
    (htakes : ∀ f ∈ s.fields, TakesValues (IsText d) f.reader f.ofJson) {text : String} :
    s.reader.run text = .ok a ↔
      ∃ v, (∃ d w e w', text.toList = w ++ (e ++ w') ∧ Spaces w ∧ Spaces w' ∧ IsText d e v) ∧
        ∃ parts, s.partsOf v = some parts ∧ s.finish parts = .ok a := by
  constructor
  · intro h
    obtain ⟨w', hw', htook⟩ := took_of_run h
    obtain ⟨w, e, v, parts, hw, htext, he, hparts, hfinish⟩ := s.took_reader hclosed htakes htook
    exact ⟨v, ⟨d + 1, w, e, w', htext, hw, hw', he⟩, parts, hparts, hfinish⟩
  · rintro ⟨v, ⟨d, w, e, w', htext, hw, hw', he⟩, parts, hparts, hfinish⟩
    have hrun := run_of_reads_spaces (s.reads_reader hdefaults hagrees he hparts hfinish hw w') hw'
    rwa [← htext, String.ofList_toList] at hrun

end Schema

end ShapeCoords.Json
