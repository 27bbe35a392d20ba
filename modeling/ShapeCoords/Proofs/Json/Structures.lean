import ShapeCoords.Json.Reader.Fields
import ShapeCoords.Proofs.Json.Skipping

/-!
Reading a structure from the text of a value gives what the value stands for, if that is so for its
fields.
-/

namespace ShapeCoords.Json

open Reader
open Text (isAsciiDigit)

/-! Values of another type -/

/-- Whether a sign is passed over first or not, what comes next fails. -/
theorem fails_skipIf {α : Type} (p : Prop) [Decidable p] {r : Reader α} (h : ∀ s, Fails r s)
    (s : List Char) : Fails (if p then skip >>= fun _ => r else r) s := by
  split
  · exact fails_bind _ fun _ => h
  · exact h s

theorem fails_wrongType {α : Type} (expected : String) (s : List Char) :
    Fails (wrongType expected : Reader α) s := by
  refine Fails.locate (fails_bind _ fun next s => ?_)
  -- whatever stands there is read first, but it is a fault in any case
  split
  · exact fails_bind _ fun _ _ => fails_bind _ fun _ _ => fails_fail _ _
  · exact fails_bind _ fun _ _ => fails_bind _ fun _ _ => fails_fail _ _
  · exact fails_bind _ fun _ _ => fails_bind _ fun _ _ => fails_fail _ _
  · exact fails_bind _ fun _ _ => fails_bind _ fun _ _ => fails_fail _ _
  · exact fails_fail _ s
  · exact fails_fail _ s
  · next c _ _ _ _ _ _ =>
    split
    · refine fails_skipIf _ (fun s => fails_bind _ fun j s => ?_) s
      split
      · exact fails_fail _ s
      · exact fails_fail _ s
      · exact fails_failNext _ s
    · exact fails_failNext _ s
  · exact fails_failNext _ s

theorem fails_listEnd {w : List Char} {c : Char} (hw : Spaces w) (hc : isSpace c = false)
    (hend : c ≠ ']') (s : List Char) : Fails listEnd (w ++ c :: s) := by
  refine (Reads.peekToken hw hc s).fails ?_
  split
  · next h => exact absurd (Option.some.inj h) hend
  · refine fails_bind _ fun _ _ => fails_bind _ fun next s => ?_
    split <;> exact fails_failNext _ s
  · exact fails_failNext _ _
  · exact fails_failNext _ _

namespace Schema

variable {σ α : Type} (s : Schema σ α)

theorem gives_complete (parts : σ) (t : List Char) :
    Gives (s.complete parts) t (s.finish parts).toOption t := by
  rw [complete]
  cases s.finish parts with
  | ok a => exact Reads.pure a t
  | error name => exact fails_fail _ t

/-! Lists of fields -/

section Items

variable {P : List Char → Json → Prop} {first : Bool} {text w : List Char} {vs : List Json}

theorem fails_listEnd_items
    (hstart : ∀ e x, P e x → ∃ c u, e = c :: u ∧ isSpace c = false ∧ c ≠ ']') {v : Json}
    (hs : Items P first text (v :: vs)) (t : List Char) : Fails listEnd (text ++ t) := by
  cases hs with
  | @cons _ w w' e s _ _ hw hw' he _ =>
      obtain ⟨c, u, rfl, hc, hend⟩ := hstart e v he
      cases first with
      | true =>
          have hfails := fails_listEnd (hw.append hw') hc hend (u ++ (s ++ t))
          simpa [separator] using hfails
      | false =>
          have hfails := fails_listEnd (c := ',') hw rfl (by decide) (w' ++ (c :: u ++ (s ++ t)))
          simpa [separator] using hfails

/-- The fields of a structure, read one after the other, leave the end of the list exactly if each
item is for one of them and there are enough. -/
theorem exists_gives_readItems (hdefaults : s.hasDefaults = false)
    (hstart : ∀ e x, P e x → ∃ c u, e = c :: u ∧ isSpace c = false ∧ c ≠ ']')
    {fs : List (Field σ)} (hfields : ∀ f ∈ fs, Agrees P f.reader f.ofJson)
    (hs : Items P first text vs) {i : Nat} (hi : (i == 0) = first) (hw : Spaces w) (t : List Char)
    (parts : σ) :
    ∃ x rest, Gives (s.readItems fs i parts) (text ++ (w ++ ']' :: t)) x rest ∧
      (ofItems fs vs parts = x ∧ (∃ w, Spaces w ∧ rest = w ++ ']' :: t) ∨
        ofItems fs vs parts = none ∧ Fails listEnd rest) := by
  induction fs generalizing first text vs i parts with
  | nil =>
      refine ⟨some parts, _, Reads.pure parts _, ?_⟩
      cases hs with
      | nil => exact .inl ⟨rfl, w, hw, rfl⟩
      | cons hv hv' he hs =>
          exact .inr ⟨rfl, fails_listEnd_items hstart (.cons hv hv' he hs) _⟩
  | cons f fs ih =>
      rw [readItems, hi, hdefaults]
      cases hs with
      | nil =>
          refine ⟨none, _, ?_, .inl ⟨rfl, w, hw, rfl⟩⟩
          exact Gives.of_reads (y := none) (Reads.nextItem_end hw t) (fails_fail _ _)
      | @cons _ v v' e rest x xs hv hv' he hs =>
          have hfield := hfields f List.mem_cons_self e x [] (rest ++ (w ++ ']' :: t)) he Spaces.nil
            (hs.endsNumber (EndsNumber.spaces hw (EndsNumber.cons (by decide) t)))
          obtain ⟨c, u, rfl, hc, hend⟩ := hstart e x he
          have hitem : Reads (Reader.nextItem first) _ true _ :=
            Reads.nextItem hv hv' hc hend (u ++ (rest ++ (w ++ ']' :: t)))
          simp only [List.append_assoc, List.cons_append, ofItems] at hfield hitem ⊢
          cases hset : f.ofJson x with
          | none =>
              rw [hset] at hfield
              exact ⟨none, w ++ ']' :: t, Gives.of_reads (y := none) hitem (Fails.bind hfield),
                .inl ⟨rfl, w, hw, rfl⟩⟩
          | some set =>
              rw [hset] at hfield
              obtain ⟨y, end', hy, hends⟩ := ih (fun f hf => hfields f (List.mem_cons_of_mem _ hf))
                hs (i := i + 1) rfl (set parts)
              exact ⟨y, end', Gives.of_reads hitem (Gives.of_reads hfield hy), hends⟩

end Items

/-! Members for fields -/

variable {d : Nat}

theorem gives_readMember (hfields : ∀ f ∈ s.fields, Agrees (IsText d) f.reader f.ofJson)
    (parts : σ) (name : String) {w w' e t : List Char} {x : Json} (hw : Spaces w)
    (hw' : Spaces w') (he : IsText d e x) (ht : EndsNumber t) :
    Gives (s.readMember name parts) (w ++ ':' :: (w' ++ (e ++ t))) (s.ofMember parts (name, x))
      t := by
  rw [readMember, ofMember]
  cases hfind : s.fields.find? fun f => f.name == name with
  | none =>
      dsimp only
      cases s.isClosed with
      | true => exact fails_fail _ _
      | false =>
          have hskip := agrees_skipValue d e x w' t he hw' ht
          exact Gives.of_reads (Reads.colon hw _) (Gives.of_reads hskip (Reads.pure parts t))
  | some f =>
      dsimp only
      split
      · exact fails_fail _ _
      · have hfield := hfields f (List.mem_of_find?_eq_some hfind) e x w' t he hw' ht
        exact Gives.of_reads (Reads.colon hw _) (hfield.map fun set => set parts)

/-! Structures -/

theorem fails_reader {w : List Char} {c : Char} (hw : Spaces w) (hc : isSpace c = false)
    (hlist : c ≠ '[') (hobject : c ≠ '\x7b') (text : List Char) :
    Fails s.reader (w ++ c :: text) := by
  refine (Reads.valueStart hw hc text).fails (Fails.locate ?_)
  split
  · exact absurd rfl hlist
  · exact absurd rfl hobject
  · exact fails_wrongType _ _

/-- Only where a list or an object starts, a structure can stand. -/
theorem exists_of_took {a : α} {text t : List Char} (h : Took s.reader text a t) :
    ∃ w c u, text = w ++ c :: u ∧ Spaces w ∧ (c = '[' ∨ c = '\x7b') := by
  obtain ⟨w, c, u, hw, rfl, hc, -⟩ := h.of_valueStart_bind
  refine ⟨w, c, u, rfl, hw, ?_⟩
  by_contra hno
  rw [not_or] at hno
  exact (s.fails_reader hw hc hno.1 hno.2 u).not_took h

section Structures

variable {w w' body : List Char}

theorem gives_reader_array (hdefaults : s.hasDefaults = false)
    (hfields : ∀ f ∈ s.fields, Agrees (IsText d) f.reader f.ofJson) {vs : List Json}
    (hw : Spaces w) (hbody : Items (IsText d) true body vs) (hw' : Spaces w') (t : List Char) :
    Gives s.reader (w ++ '[' :: (body ++ (w' ++ ']' :: t))) (s.ofJson (.array vs)) t := by
  obtain ⟨x, rest, hgives, hrest⟩ := s.exists_gives_readItems hdefaults
    (fun e x he => he.exists_eq_cons) hfields hbody (i := 0) rfl hw' t s.start
  have hwhole : Gives (do let parts ← s.readItems s.fields 0 s.start; s.complete parts)
      (body ++ (w' ++ ']' :: t)) (x.bind fun parts => (s.finish parts).toOption) rest :=
    hgives.bind fun parts _ => s.gives_complete parts rest
  refine Gives.of_reads (Reads.valueStart hw rfl _) (Gives.locate ?_)
  refine Gives.of_reads (Reads.skip '[' _) ?_
  rcases hrest with ⟨hx, w'', hw'', rfl⟩ | ⟨hx, hfails⟩
  · rw [← hx] at hwhole
    exact hwhole.closedBy (Reads.listEnd hw'' t)
  · rw [ofJson, hx]
    exact hwhole.fails_closedBy hfails

theorem gives_reader_object (hfields : ∀ f ∈ s.fields, Agrees (IsText d) f.reader f.ofJson)
    {ms : List (String × Json)} (hw : Spaces w) (hbody : Items (IsMember (IsText d)) true body ms)
    (hw' : Spaces w') (t : List Char) :
    Gives s.reader (w ++ '\x7b' :: (body ++ (w' ++ '\x7d' :: t))) (s.ofJson (.object ms)) t := by
  have hmembers := gives_eachMember (f := s.ofMember)
    (fun parts name _ _ _ _ _ hw hw' he ht => s.gives_readMember hfields parts name hw hw' he ht)
    hbody hw' t s.start
  have hwhole : Gives (do let parts ← eachMember s.readMember s.start; s.complete parts)
      (body ++ (w' ++ '\x7d' :: t)) (s.ofJson (.object ms)) ('\x7d' :: t) :=
    hmembers.bind fun parts _ => s.gives_complete parts _
  refine Gives.of_reads (Reads.valueStart hw rfl _) (Gives.locate ?_)
  refine Gives.of_reads (Reads.skip '\x7b' _) ?_
  exact hwhole.closedBy (Reads.objectEnd t)

/-- A structure without defaults is read as what the value stands for. -/
theorem agrees (hdefaults : s.hasDefaults = false)
    (hfields : ∀ f ∈ s.fields, ∀ d, Agrees (IsText d) f.reader f.ofJson) (d : Nat) :
    Agrees (IsText d) s.reader s.ofJson := by
  intro e v w t he hw ht
  cases v with
  | array vs =>
      obtain ⟨d, body, w', rfl, rfl, hbody, hw'⟩ := he.of_array
      simp only [List.cons_append, List.append_assoc, List.nil_append]
      exact s.gives_reader_array hdefaults (fun f hf => hfields f hf d) hw hbody hw' t
  | object ms =>
      obtain ⟨d, body, w', rfl, rfl, hbody, hw'⟩ := he.of_object
      simp only [List.cons_append, List.append_assoc, List.nil_append]
      exact s.gives_reader_object (fun f hf => hfields f hf d) hw hbody hw' t
  | _ =>
      obtain ⟨c, u, rfl, hc, hlist, hobject⟩ := he.of_scalar rfl
      exact s.fails_reader hw hc hlist hobject (u ++ t)

end Structures

end Schema

end ShapeCoords.Json
