import ShapeCoords.Proofs.Json.Objects
import ShapeCoords.Proofs.Options.Given

/-!
The options that an object gives: any of the fields in any order, each with a value of its own.
-/

namespace ShapeCoords

namespace Json

variable {α β : Type} {w t : List Char}

theorem Reads.map {r : Reader α} {s : List Char} {a : α} (h : Reads r s a t) (f : α → β) :
    Reads (f <$> r) s (f a) t :=
  h.bind (Reads.pure (f a) t)

/-- A variant is read from its name. -/
theorem Reads.variant {variants : List (String × α)} {name : String} {v : String × α}
    (hfind : variants.find? (fun v => v.1 == name) = some v) (hw : Spaces w) (t : List Char) :
    Reads (Reader.variant variants) (w ++ (quoted name ++ t)) v.2 t := by
  rw [quoted, List.cons_append, List.cons_append, List.append_assoc, List.singleton_append]
  refine (Reads.valueStart hw rfl _).bind ?_
  refine (Reads.valueStart Spaces.nil rfl _).bind (Reads.locate ((Reads.skip '"' _).bind ?_))
  refine (Reads.string name t).bind ?_
  rw [hfind]
  exact Reads.pure v.2 t

theorem Reads.bool (b : Bool) (hw : Spaces w) (t : List Char) :
    Reads Reader.bool (w ++ ((Json.bool b).compact ++ t)) b t := by
  cases b with
  | true =>
      refine (Reads.valueStart (c := 't') hw rfl _).bind ?_
      exact Reads.skip_word 't' ['r', 'u', 'e'] t (Reads.pure true t)
  | false =>
      refine (Reads.valueStart (c := 'f') hw rfl _).bind ?_
      exact Reads.skip_word 'f' ['a', 'l', 's', 'e'] t (Reads.pure false t)

end Json

namespace Options

open Json (EndsNumber Reads Repeats Schema Spaces Spacing)

inductive Setting where
  | missingTransform (v : MissingTransform)
  | bottomRightY (v : BottomRightY)
  | malformed (v : Malformed)
  | circleCenter (v : CircleCenter)
  | strictMarkup (b : Bool)

namespace Setting

def field : Setting → Schema.Field Partial
  | missingTransform _ => missingTransformField
  | bottomRightY _ => bottomRightYField
  | malformed _ => malformedField
  | circleCenter _ => circleCenterField
  | strictMarkup _ => strictMarkupField

/-- The member of an object that gives the value. -/
def member (s : Setting) : String × Json :=
  (s.field.name,
    match s with
    | missingTransform v => .string v.name
    | bottomRightY v => .string v.name
    | malformed v => .string v.name
    | circleCenter v => .string v.name
    | strictMarkup b => .bool b)

def put : Setting → Partial → Partial
  | missingTransform v, p => { p with missingTransform := some v }
  | bottomRightY v, p => { p with bottomRightY := some v }
  | malformed v, p => { p with malformed := some v }
  | circleCenter v, p => { p with circleCenter := some v }
  | strictMarkup b, p => { p with strictMarkup := some b }

variable {s s' : Setting} {p : Partial} {sp : Spacing} {depth : Nat} {w t : List Char}

theorem find?_field (s : Setting) :
    (schema.opened.fields.find? fun f => f.name == s.member.1) = some s.field := by
  cases s <;> rfl

/-- To set a field leaves the others as they were. -/
theorem isSet_put (hne : s.member.1 ≠ s'.member.1) :
    s.field.isSet (s'.put p) = s.field.isSet p := by
  cases s <;> cases s' <;> first | rfl | exact absurd rfl hne

theorem reads_value (s : Setting) (hw : Spaces w) (t : List Char) :
    Reads s.field.reader (w ++ (s.member.2.spaced sp depth ++ t)) s.put t := by
  cases s with
  | missingTransform v => exact (Reads.variant (v := (v.name, v)) (by cases v <;> rfl) hw t).map _
  | bottomRightY v => exact (Reads.variant (v := (v.name, v)) (by cases v <;> rfl) hw t).map _
  | malformed v => exact (Reads.variant (v := (v.name, v)) (by cases v <;> rfl) hw t).map _
  | circleCenter v => exact (Reads.variant (v := (v.name, v)) (by cases v <;> rfl) hw t).map _
  | strictMarkup b => exact (Reads.bool b hw t).map _

/-- One step reads one member. -/
theorem reads_memberStep (hunset : s.field.isSet p = false) (first : Bool) (t : List Char) :
    Reads (Json.memberStep schema.opened.readMember (first, p))
      (Json.separator first ++ (sp.lineBreak depth ++ (Json.quoted s.member.1 ++
        ':' :: (sp.colonSpace ++ (s.member.2.spaced sp depth ++ t)))))
      ((false, s.put p), true) t := by
  rw [Json.quoted, List.cons_append, List.cons_append, List.append_assoc, List.singleton_append]
  refine (Reads.nextMember Spaces.nil (sp.lineBreak_spaces depth) _).bind ?_
  refine (Reads.string s.member.1 _).bind ?_
  have hmember : Reads (schema.opened.readMember s.member.1 p)
      (':' :: (sp.colonSpace ++ (s.member.2.spaced sp depth ++ t))) (s.put p) t := by
    rw [Schema.readMember, find?_field]
    dsimp only
    rw [hunset, if_neg Bool.false_ne_true]
    exact (Reads.colon Spaces.nil _).bind ((s.reads_value sp.colonSpace_spaces t).bind (Reads.pure _ t))
  exact hmember.bind (Reads.pure _ t)

/-- All steps together read all members, if each field is given once. -/
theorem repeats_memberStep {settings : List Setting}
    (hnodup : (settings.map fun s => s.member.1).Nodup)
    (hunset : ∀ s ∈ settings, s.field.isSet p = false) (first : Bool) (hw : Spaces w)
    (t : List Char) :
    ∃ first', Repeats (Json.memberStep schema.opened.readMember) (first, p)
      (Json.spacedMembers sp depth first (settings.map member) ++ (w ++ '\x7d' :: t))
      (first', settings.foldl (fun p s => s.put p) p) ('\x7d' :: t) := by
  induction settings generalizing p first with
  | nil => exact ⟨first, .stop ((Reads.nextMember_end hw t).bind (Reads.pure _ _))⟩
  | cons s settings ih =>
      rw [List.map_cons, List.nodup_cons] at hnodup
      -- the fields of the members behind stay open, since none is given twice
      have hrest : ∀ s' ∈ settings, s'.field.isSet (s.put p) = false := by
        intro s' hs'
        rw [isSet_put, hunset s' (List.mem_cons_of_mem s hs')]
        intro heq
        exact hnodup.1 (heq ▸ List.mem_map_of_mem hs')
      obtain ⟨first', hsteps⟩ := ih hnodup.2 hrest false
      refine ⟨first', ?_⟩
      rw [List.map_cons, List.foldl_cons, Json.spacedMembers]
      simp only [List.append_assoc, List.cons_append]
      refine .next (reads_memberStep (hunset s List.mem_cons_self) first _) ?_ hsteps
      simp only [List.length_append, List.length_cons]
      omega

end Setting

/-- An object with any of the fields, each given once, gives these options, however it is spaced. -/
theorem givenJson_members {settings : List Setting}
    (hnodup : (settings.map fun s => s.member.1).Nodup) (sp : Spacing) {w w' : List Char}
    (hw : Spaces w) (hw' : Spaces w') :
    givenJson (String.ofList (w ++ ((Json.object (settings.map Setting.member)).spaced sp 0 ++
      w'))) = .ok (settings.foldl (fun p s => s.put p) {}) := by
  have hunset : ∀ s ∈ settings, s.field.isSet {} = false := by
    intro s _
    cases s <;> rfl
  obtain ⟨first, hmembers⟩ := Setting.repeats_memberStep hnodup hunset true
    (sp.closing_spaces 0 (settings.map Setting.member)) w'
  have hread : Reads schema.opened.reader
      (w ++ ((Json.object (settings.map Setting.member)).spaced sp 0 ++ w'))
      (settings.foldl (fun p s => s.put p) {}) w' := by
    rw [Json.spaced, List.cons_append, List.append_assoc, List.append_assoc, List.singleton_append]
    refine (Reads.valueStart hw rfl _).bind (Reads.locate ((Reads.skip '\x7b' _).bind ?_))
    refine Reads.closedBy (hmembers.reads_eachMember.bind ?_) (Reads.objectEnd w')
    exact Reads.pure _ _
  rw [givenJson, Json.run_of_reads_spaces hread hw']
  rfl

end Options

end ShapeCoords
