import ShapeCoords.Proofs.Options.Variants

/-!
The documents of options: an object with any of the fields in any order, or a list of the first
fields. Exactly their texts are read, as the options with these values and defaults for the rest.
-/

namespace ShapeCoords

open Json (IsText Schema Spaces)

/-- `text` is a text of the value, with white space around it. -/
def Json.IsTextOf (text : String) (v : Json) : Prop :=
  ∃ d w e w', text.toList = w ++ (e ++ w') ∧ Spaces w ∧ Spaces w' ∧ IsText d e v

namespace Options

variable {p q : Partial} {o o' : Options} {settings : List Setting} {v : Json}

/-! Values of settings -/

namespace Setting

/-- The values that stand for a setting: a truth value, or the name of a variant, which may also
stand in an object. -/
def forms (s : Setting) : List Json :=
  match s.member.2 with
  | .string name => [.string name, .object [(name, .null)]]
  | v => [v]

def HoldsIn : Setting → Options → Prop
  | missingTransform v, o => o.missingTransform = v
  | bottomRightY v, o => o.bottomRightY = v
  | malformed v, o => o.malformed = v
  | circleCenter v, o => o.circleCenter = v
  | strictMarkup b, o => o.strictMarkup = b

end Setting

/-- A document with values for some fields. In an object each of them is given once, by its name; in
a list they are the first ones. -/
inductive IsDocument : Json → List Setting → Prop where
  | object {ms : List (String × Json)} {settings : List Setting}
      (hms : List.Forall₂ (fun m s => m.1 = s.member.1 ∧ m.2 ∈ s.forms) ms settings)
      (hnodup : (settings.map fun s => s.member.1).Nodup) : IsDocument (.object ms) settings
  | array {vs : List Json} {settings : List Setting}
      (hvs : List.Forall₂ (fun v s => v ∈ s.forms) vs settings)
      (horder : (settings.map fun s => s.member.1) <+:
        ["missingTransform", "bottomRightY", "malformed", "circleCenter", "strictMarkup"]) :
      IsDocument (.array vs) settings

/-- The options with the given values. Every field that is not given has its default. -/
structure IsWith (o : Options) (settings : List Setting) : Prop where
  given : ∀ s ∈ settings, s.HoldsIn o
  default : ∀ s : Setting, s.HoldsIn {} → (∀ s' ∈ settings, s'.member.1 ≠ s.member.1) → s.HoldsIn o

/-! Values for fields -/

section Variants

variable {α : Type} {all : List α} {name : α → String}

/-- All variants are listed, by different names. -/
class Listed (all : List α) (name : α → String) : Prop where
  mem_all (a : α) : a ∈ all
  nodup : (all.map name).Nodup

instance : Listed [MissingTransform.skip, .identity] MissingTransform.name where
  mem_all a := by cases a <;> decide
  nodup := by decide

instance : Listed [BottomRightY.unadjusted, .adjusted] BottomRightY.name where
  mem_all a := by cases a <;> decide
  nodup := by decide

instance : Listed [Malformed.propagate, .skip] Malformed.name where
  mem_all a := by cases a <;> decide
  nodup := by decide

instance : Listed [CircleCenter.radii, .center] CircleCenter.name where
  mem_all a := by cases a <;> decide
  nodup := by decide

theorem namedVariant_eq_some_iff [h : Listed all name] (n : String) (a : α) :
    namedVariant (all.map fun a => (name a, a)) n = some a ↔ name a = n := by
  rw [namedVariant, List.find?_map, Option.map_map]
  constructor
  · intro hfind
    obtain ⟨b, hb, rfl⟩ := Option.map_eq_some_iff.1 hfind
    simpa using List.find?_some hb
  · rintro rfl
    cases hfind : all.find? ((fun v : String × α => v.1 == name a) ∘ fun a => (name a, a)) with
    | none =>
        exact absurd (beq_self_eq_true (name a)) (List.find?_eq_none.1 hfind a (h.mem_all a))
    | some b =>
        have hname : name b = name a := by simpa using List.find?_some hfind
        exact congrArg some
          (List.inj_on_of_nodup_map h.nodup (h.mem_all b) (h.mem_all a) hname)

theorem variantOf_eq_some_iff [Listed all name] (v : Json) (a : α) :
    variantOf (all.map fun a => (name a, a)) v = some a ↔
      v ∈ [.string (name a), .object [(name a, .null)]] := by
  have hnamed (n : String) :
      ((all.map fun a => (name a, a)).find? fun v => v.1 == n).map Prod.snd = some a ↔
        name a = n :=
    namedVariant_eq_some_iff n a
  unfold variantOf
  split
  · rw [hnamed]
    simp [eq_comm]
  · rw [hnamed]
    simp [eq_comm]
  · next hstring hobject =>
    simp only [reduceCtorEq, List.mem_cons, List.not_mem_nil, or_false, false_iff, not_or]
    exact ⟨fun h => hstring _ h, fun h => hobject _ h⟩

end Variants

theorem boolOf_eq_some_iff (v : Json) (b : Bool) :
    boolOf v = some b ↔ v ∈ (Setting.strictMarkup b).forms := by
  cases v <;> simp [boolOf, Setting.forms, Setting.member]

namespace Setting

theorem ofJson_field {s : Setting} (h : v ∈ s.forms) : s.field.ofJson v = some s.put := by
  cases s with
  | missingTransform a =>
      exact Option.map_eq_some_iff.2 ⟨a, (variantOf_eq_some_iff v a).2 h, rfl⟩
  | bottomRightY a => exact Option.map_eq_some_iff.2 ⟨a, (variantOf_eq_some_iff v a).2 h, rfl⟩
  | malformed a => exact Option.map_eq_some_iff.2 ⟨a, (variantOf_eq_some_iff v a).2 h, rfl⟩
  | circleCenter a => exact Option.map_eq_some_iff.2 ⟨a, (variantOf_eq_some_iff v a).2 h, rfl⟩
  | strictMarkup b => exact Option.map_eq_some_iff.2 ⟨b, (boolOf_eq_some_iff v b).2 h, rfl⟩

theorem exists_of_ofJson {f : Schema.Field Partial} (hf : f ∈ schema.fields)
    {set : Partial → Partial} (h : f.ofJson v = some set) :
    ∃ s : Setting, s.field = f ∧ v ∈ s.forms ∧ s.put = set := by
  simp only [schema, List.mem_cons, List.not_mem_nil, or_false] at hf
  rcases hf with rfl | rfl | rfl | rfl | rfl <;> obtain ⟨a, ha, rfl⟩ := Option.map_eq_some_iff.1 h
  · exact ⟨.missingTransform a, rfl, (variantOf_eq_some_iff v a).1 ha, rfl⟩
  · exact ⟨.bottomRightY a, rfl, (variantOf_eq_some_iff v a).1 ha, rfl⟩
  · exact ⟨.malformed a, rfl, (variantOf_eq_some_iff v a).1 ha, rfl⟩
  · exact ⟨.circleCenter a, rfl, (variantOf_eq_some_iff v a).1 ha, rfl⟩
  · exact ⟨.strictMarkup a, rfl, (boolOf_eq_some_iff v a).1 ha, rfl⟩

theorem member_fst (s : Setting) : s.member.1 =
    match s with
    | missingTransform _ => "missingTransform"
    | bottomRightY _ => "bottomRightY"
    | malformed _ => "malformed"
    | circleCenter _ => "circleCenter"
    | strictMarkup _ => "strictMarkup" := by
  cases s <;> rfl

theorem field_mem (s : Setting) : s.field ∈ schema.fields := by
  cases s <;> simp [schema, field]

/-- A field is known by its name. -/
theorem field_eq_of_name {s : Setting} {f : Schema.Field Partial} (hf : f ∈ schema.fields)
    (h : s.member.1 = f.name) : s.field = f := by
  simp only [schema, List.mem_cons, List.not_mem_nil, or_false] at hf
  rcases hf with rfl | rfl | rfl | rfl | rfl <;> cases s <;>
    simp [member_fst, field, missingTransformField, bottomRightYField, malformedField,
      circleCenterField, strictMarkupField] at h ⊢

theorem isSet_put_self (s : Setting) (p : Partial) : s.field.isSet (s.put p) = true := by
  cases s <;> rfl

end Setting

/-! Objects -/

theorem ofMember_eq_some_iff {m : String × Json} :
    schema.ofMember p m = some q ↔
      ∃ s : Setting, (m.1 = s.member.1 ∧ m.2 ∈ s.forms) ∧ s.field.isSet p = false ∧
        s.put p = q := by
  rw [Schema.ofMember]
  constructor
  · intro h
    split at h
    · next f hfind =>
      have hname : f.name = m.1 := by simpa using List.find?_some hfind
      split at h
      · cases h
      · next hunset =>
        obtain ⟨set, hset, rfl⟩ := Option.map_eq_some_iff.1 h
        obtain ⟨s, rfl, hforms, rfl⟩ :=
          Setting.exists_of_ofJson (List.mem_of_find?_eq_some hfind) hset
        exact ⟨s, ⟨hname.symm, hforms⟩, Bool.eq_false_iff.2 hunset, rfl⟩
    · exact absurd h (by simp [schema])
  · rintro ⟨s, ⟨hname, hforms⟩, hunset, rfl⟩
    have hfind : (schema.fields.find? fun f => f.name == m.1) = some s.field := by
      rw [hname]
      exact s.find?_field
    rw [hfind]
    simp [hunset, Setting.ofJson_field hforms]

/-- The members of an object give their settings if each is for a field of its own that was open. -/
theorem foldlM_ofMember_eq_some_iff {ms : List (String × Json)} :
    ms.foldlM schema.ofMember p = some q ↔
      ∃ settings : List Setting,
        List.Forall₂ (fun m s => m.1 = s.member.1 ∧ m.2 ∈ s.forms) ms settings ∧
        (settings.map fun s => s.member.1).Nodup ∧ (∀ s ∈ settings, s.field.isSet p = false) ∧
        settings.foldl (fun p s => s.put p) p = q := by
  induction ms generalizing p with
  | nil => simp
  | cons m ms ih =>
      rw [List.foldlM_cons]
      constructor
      · intro h
        obtain ⟨p', hmember, hrest⟩ := Option.bind_eq_some_iff.1 h
        obtain ⟨s, hm, hunset, rfl⟩ := ofMember_eq_some_iff.1 hmember
        obtain ⟨settings, hms, hnodup, hopen, rfl⟩ := ih.1 hrest
        -- the field of the first member is set from then on, so no other member can be for it
        have hother : ∀ s' ∈ settings, s'.member.1 ≠ s.member.1 := by
          intro s' hs' hname
          have hset := hopen s' hs'
          rw [Setting.field_eq_of_name s.field_mem hname, s.isSet_put_self] at hset
          cases hset
        refine ⟨s :: settings, .cons hm hms, ?_, ?_, rfl⟩
        · rw [List.map_cons, List.nodup_cons, List.mem_map]
          exact ⟨fun ⟨s', hs', hname⟩ => hother s' hs' hname, hnodup⟩
        · rw [List.forall_mem_cons]
          refine ⟨hunset, fun s' hs' => ?_⟩
          rw [← Setting.isSet_put (hother s' hs')]
          exact hopen s' hs'
      · rintro ⟨all, hms, hnodup, hopen, rfl⟩
        obtain ⟨s, settings, hm, hrest, rfl⟩ := List.forall₂_cons_left_iff.1 hms
        rw [List.map_cons, List.nodup_cons, List.mem_map] at hnodup
        rw [List.forall_mem_cons] at hopen
        refine Option.bind_eq_some_iff.2 ⟨s.put p, ofMember_eq_some_iff.2 ⟨s, hm, hopen.1, rfl⟩, ?_⟩
        refine ih.2 ⟨settings, hrest, hnodup.2, fun s' hs' => ?_, rfl⟩
        rw [Setting.isSet_put fun hname => hnodup.1 ⟨s', hs', hname⟩]
        exact hopen.2 s' hs'

/-! Lists -/

theorem ofFirstItems_eq_some_iff {fs : List (Schema.Field Partial)} (hfs : ∀ f ∈ fs, f ∈ schema.fields)
    {vs : List Json} :
    Schema.ofFirstItems fs vs p = some q ↔
      ∃ settings, List.Forall₂ (fun v (s : Setting) => v ∈ s.forms) vs settings ∧
        (settings.map fun s => s.member.1) <+: fs.map Schema.Field.name ∧
        settings.foldl (fun p s => s.put p) p = q := by
  induction fs generalizing vs p with
  | nil =>
      cases vs with
      | nil => simp [Schema.ofFirstItems]
      | cons v vs => simp [Schema.ofFirstItems]
  | cons f fs ih =>
      cases vs with
      | nil => simp [Schema.ofFirstItems]
      | cons v vs =>
          have hrest := fun f hf => hfs f (List.mem_cons_of_mem _ hf)
          rw [Schema.ofFirstItems]
          constructor
          · intro h
            obtain ⟨set, hset, hitems⟩ := Option.bind_eq_some_iff.1 h
            obtain ⟨s, rfl, hforms, rfl⟩ := Setting.exists_of_ofJson (hfs _ List.mem_cons_self) hset
            obtain ⟨settings, hvs, horder, rfl⟩ := (ih hrest).1 hitems
            exact ⟨s :: settings, .cons hforms hvs, (List.prefix_cons_inj _).2 horder, rfl⟩
          · rintro ⟨all, hvs, horder, rfl⟩
            obtain ⟨s, settings, hforms, hrestForms, rfl⟩ := List.forall₂_cons_left_iff.1 hvs
            rw [List.map_cons, List.map_cons, List.cons_prefix_cons] at horder
            obtain rfl := Setting.field_eq_of_name (hfs _ List.mem_cons_self) horder.1
            exact Option.bind_eq_some_iff.2 ⟨s.put, Setting.ofJson_field hforms,
              (ih hrest).2 ⟨settings, hrestForms, horder.2, rfl⟩⟩

/-! Documents -/

theorem partsOf_eq_some_iff :
    schema.partsOf v = some p ↔
      ∃ settings, IsDocument v settings ∧ settings.foldl (fun p s => s.put p) {} = p := by
  constructor
  · intro h
    cases v with
    | object ms =>
        obtain ⟨settings, hms, hnodup, -, hp⟩ := foldlM_ofMember_eq_some_iff.1 h
        exact ⟨settings, .object hms hnodup, hp⟩
    | array vs =>
        obtain ⟨settings, hvs, horder, hp⟩ := (ofFirstItems_eq_some_iff fun _ hf => hf).1 h
        exact ⟨settings, .array hvs horder, hp⟩
    | _ => cases h
  · rintro ⟨settings, hdocument, hp⟩
    cases hdocument with
    | object hms hnodup =>
        refine foldlM_ofMember_eq_some_iff.2 ⟨settings, hms, hnodup, fun s _ => ?_, hp⟩
        cases s <;> rfl
    | array hvs horder =>
        exact (ofFirstItems_eq_some_iff fun _ hf => hf).2 ⟨settings, hvs, horder, hp⟩

theorem IsDocument.nodup (h : IsDocument v settings) :
    (settings.map fun s => s.member.1).Nodup := by
  cases h with
  | object hms hnodup => exact hnodup
  | array hvs horder => exact horder.sublist.nodup (by decide)

/-! Values and defaults -/

namespace Setting

variable {s s' : Setting}

theorem holdsIn_put_self (s : Setting) (p : Partial) (o : Options) :
    s.HoldsIn ((s.put p).over o) := by
  cases s <;> rfl

theorem holdsIn_put (hne : s.member.1 ≠ s'.member.1) :
    s.HoldsIn ((s'.put p).over o) ↔ s.HoldsIn (p.over o) := by
  cases s <;> cases s' <;> first | rfl | exact absurd rfl hne

theorem holdsIn_foldl_put (hne : ∀ s' ∈ settings, s'.member.1 ≠ s.member.1) :
    s.HoldsIn ((settings.foldl (fun p s => s.put p) p).over o) ↔ s.HoldsIn (p.over o) := by
  induction settings generalizing p with
  | nil => rfl
  | cons s' settings ih =>
      rw [List.forall_mem_cons] at hne
      exact (ih hne.2).trans (holdsIn_put hne.1.symm)

theorem holdsIn_of_mem (hnodup : (settings.map fun s => s.member.1).Nodup) (hs : s ∈ settings) :
    s.HoldsIn ((settings.foldl (fun p s => s.put p) p).over o) := by
  induction settings generalizing p with
  | nil => cases hs
  | cons s' settings ih =>
      rw [List.map_cons, List.nodup_cons, List.mem_map] at hnodup
      rcases List.mem_cons.1 hs with rfl | hs
      · exact (holdsIn_foldl_put fun s' hs' hname => hnodup.1 ⟨s', hs', hname⟩).2
          (s.holdsIn_put_self p o)
      · exact ih hnodup.2 hs

/-- A field has one value. -/
theorem eq_of_holdsIn (hname : s.member.1 = s'.member.1) (h : s.HoldsIn o) (h' : s'.HoldsIn o) :
    s = s' := by
  cases s <;> cases s' <;> cases h <;> cases h' <;> simp [member_fst] at hname ⊢

theorem exists_default (s : Setting) : ∃ s' : Setting, s'.member.1 = s.member.1 ∧ s'.HoldsIn {} := by
  cases s with
  | missingTransform => exact ⟨.missingTransform .skip, rfl, rfl⟩
  | bottomRightY => exact ⟨.bottomRightY .unadjusted, rfl, rfl⟩
  | malformed => exact ⟨.malformed .propagate, rfl, rfl⟩
  | circleCenter => exact ⟨.circleCenter .radii, rfl, rfl⟩
  | strictMarkup => exact ⟨.strictMarkup false, rfl, rfl⟩

end Setting

theorem eq_of_forall_holdsIn (h : ∀ s : Setting, s.HoldsIn o → s.HoldsIn o') : o = o' := by
  have hmissing : o'.missingTransform = o.missingTransform := h (.missingTransform _) rfl
  have hcorner : o'.bottomRightY = o.bottomRightY := h (.bottomRightY _) rfl
  have hmalformed : o'.malformed = o.malformed := h (.malformed _) rfl
  have hcenter : o'.circleCenter = o.circleCenter := h (.circleCenter _) rfl
  have hstrict : o'.strictMarkup = o.strictMarkup := h (.strictMarkup _) rfl
  cases o
  cases o'
  simp_all

/-- Of the options with the given values and defaults for the rest there is one. -/
theorem isWith_iff (hnodup : (settings.map fun s => s.member.1).Nodup) :
    o.IsWith settings ↔ (settings.foldl (fun p (s : Setting) => s.put p) {}).over {} = o := by
  have hwith : ((settings.foldl (fun p (s : Setting) => s.put p) {}).over {}).IsWith settings :=
    ⟨fun s hs => Setting.holdsIn_of_mem hnodup hs,
      fun s hs hne => (Setting.holdsIn_foldl_put hne).2 hs⟩
  constructor
  · intro h
    refine eq_of_forall_holdsIn fun s hs => ?_
    by_cases hgiven : ∃ s' ∈ settings, s'.member.1 = s.member.1
    · obtain ⟨s', hs', hname⟩ := hgiven
      rw [← Setting.eq_of_holdsIn hname (hwith.given s' hs') hs]
      exact h.given s' hs'
    · obtain ⟨s', hname, hs'⟩ := s.exists_default
      have hne : ∀ t ∈ settings, t.member.1 ≠ s'.member.1 :=
        fun t ht heq => hgiven ⟨t, ht, heq.trans hname⟩
      rw [← Setting.eq_of_holdsIn hname (hwith.default s' hs' hne) hs]
      exact h.default s' hs' hne
  · rintro rfl
    exact hwith

/-- The order of members does not count. -/
theorem IsDocument.perm {ms ms' : List (String × Json)} (hperm : ms.Perm ms')
    (h : IsDocument (.object ms) settings) :
    ∃ settings', settings.Perm settings' ∧ IsDocument (.object ms') settings' := by
  cases h with
  | object hms hnodup =>
      obtain ⟨settings', hms', hsettings⟩ := List.perm_comp_forall₂ hperm.symm hms
      exact ⟨settings', hsettings.symm, .object hms' ((hsettings.map _).nodup_iff.2 hnodup)⟩

theorem IsWith.perm {settings' : List Setting} (hperm : settings.Perm settings')
    (h : o.IsWith settings) : o.IsWith settings' :=
  ⟨fun s hs => h.given s (hperm.mem_iff.2 hs),
    fun s hs hne => h.default s hs fun s' hs' => hne s' (hperm.mem_iff.1 hs')⟩

/-! Texts -/

theorem agrees_field {f : Schema.Field Partial} (hf : f ∈ schema.fields) (d : Nat) :
    Json.Agrees (IsText d) f.reader f.ofJson := by
  simp only [schema, List.mem_cons, List.not_mem_nil, or_false] at hf
  rcases hf with rfl | rfl | rfl | rfl | rfl
  · exact (agrees_variant MissingTransform.variants d).map _
  · exact (agrees_variant BottomRightY.variants d).map _
  · exact (agrees_variant Malformed.variants d).map _
  · exact (agrees_variant CircleCenter.variants d).map _
  · exact (agrees_bool d).map _

theorem takesValues_field {f : Schema.Field Partial} (hf : f ∈ schema.fields) :
    Json.TakesValues (IsText 1) f.reader f.ofJson := by
  simp only [schema, List.mem_cons, List.not_mem_nil, or_false] at hf
  rcases hf with rfl | rfl | rfl | rfl | rfl
  · exact (takesValues_variant MissingTransform.variants).map _
  · exact (takesValues_variant BottomRightY.variants).map _
  · exact (takesValues_variant Malformed.variants).map _
  · exact (takesValues_variant CircleCenter.variants).map _
  · exact takesValues_bool.map _

theorem parse_eq_ok_iff_run {text : String} :
    parse text = .ok o ↔ schema.reader.run text = .ok o := by
  rw [parse]
  cases schema.reader.run text <;> simp [Except.mapError]

theorem parse_eq_ok_iff {text : String} :
    parse text = .ok o ↔
      ∃ v settings, Json.IsTextOf text v ∧ IsDocument v settings ∧ o.IsWith settings := by
  rw [parse_eq_ok_iff_run, schema.run_eq_ok_iff rfl rfl (fun f hf d => agrees_field hf d)
    (fun f hf => takesValues_field hf)]
  constructor
  · rintro ⟨v, htext, p, hparts, hfinish⟩
    obtain ⟨settings, hdocument, rfl⟩ := partsOf_eq_some_iff.1 hparts
    exact ⟨v, settings, htext, hdocument, (isWith_iff hdocument.nodup).2 (Except.ok.inj hfinish)⟩
  · rintro ⟨v, settings, htext, hdocument, hwith⟩
    exact ⟨v, htext, _, partsOf_eq_some_iff.2 ⟨settings, hdocument, rfl⟩,
      congrArg Except.ok ((isWith_iff hdocument.nodup).1 hwith)⟩

/-- Of an object only its members count, and not which of its texts it is. -/
theorem parse_eq_ok_iff_of_object {text : String} {ms : List (String × Json)}
    (htext : Json.IsTextOf text (.object ms)) :
    parse text = .ok o ↔ ∃ settings, IsDocument (.object ms) settings ∧ o.IsWith settings := by
  constructor
  · intro h
    obtain ⟨d, w, e, w', htext, hw, hw', he⟩ := htext
    have hgives := schema.gives_reader_of_object (fun f hf d => agrees_field hf d) he hw w'
    rw [← htext] at hgives
    have hobject := (Json.run_eq_ok_iff hgives hw').1 (parse_eq_ok_iff_run.1 h)
    obtain ⟨p, hparts, hfinish⟩ := Option.bind_eq_some_iff.1 hobject
    obtain ⟨settings, hdocument, rfl⟩ := partsOf_eq_some_iff.1 hparts
    exact ⟨settings, hdocument, (isWith_iff hdocument.nodup).2 (Option.some.inj hfinish)⟩
  · rintro ⟨settings, hdocument, hwith⟩
    exact parse_eq_ok_iff.2 ⟨_, settings, htext, hdocument, hwith⟩

theorem parse_of_perm {text text' : String} {ms ms' : List (String × Json)}
    (htext : Json.IsTextOf text (.object ms)) (htext' : Json.IsTextOf text' (.object ms'))
    (hperm : ms.Perm ms') (h : parse text = .ok o) : parse text' = .ok o := by
  obtain ⟨settings, hdocument, hwith⟩ := (parse_eq_ok_iff_of_object htext).1 h
  obtain ⟨settings', hsettings, hdocument'⟩ := hdocument.perm hperm
  exact (parse_eq_ok_iff_of_object htext').2 ⟨settings', hdocument', hwith.perm hsettings⟩

theorem exists_parse_eq_error {text : String} (h : ∀ o, parse text ≠ .ok o) :
    ∃ message, parse text = .error ("Invalid extract options: " ++ message) := by
  cases hrun : schema.reader.run text with
  | ok o => exact absurd (parse_eq_ok_iff_run.2 hrun) (h o)
  | error message => exact ⟨message, by rw [parse, hrun]; rfl⟩

/-- Exactly the texts of documents give options: with the given values and defaults for the rest.
The order of the members of an object does not count, and every other text is refused. -/
theorem parse_outcome :
    (∀ text o, parse text = .ok o ↔
      ∃ v settings, Json.IsTextOf text v ∧ IsDocument v settings ∧ o.IsWith settings) ∧
    (∀ text text' ms ms', Json.IsTextOf text (.object ms) → Json.IsTextOf text' (.object ms') →
      ms.Perm ms' → ∀ o, parse text = .ok o ↔ parse text' = .ok o) ∧
    ∀ text, (¬∃ v settings, Json.IsTextOf text v ∧ IsDocument v settings) →
      ∃ message, parse text = .error ("Invalid extract options: " ++ message) := by
  refine ⟨fun text o => parse_eq_ok_iff, fun text text' ms ms' htext htext' hperm o => ?_,
    fun text hno => exists_parse_eq_error fun o ho => ?_⟩
  · exact ⟨parse_of_perm htext htext' hperm, parse_of_perm htext' htext hperm.symm⟩
  · obtain ⟨v, settings, htext, hdocument, -⟩ := parse_eq_ok_iff.1 ho
    exact hno ⟨v, settings, htext, hdocument⟩

end Options

end ShapeCoords
