import ShapeCoords.CommandLine.Run
import ShapeCoords.Proofs.CommandLine.Settings
import ShapeCoords.Proofs.Options.Members

/-!
Which source an option comes from. The arguments come before the file, the file before the defaults,
and each option is decided on its own. Of several files only the last one is read.
-/

namespace ShapeCoords.CommandLine

open Arguments (ofItems)

variable {a : Arguments} {items items' : List Item}

/-- The options of a run that has items on its command line and a file that gives some options. -/
def governed (items : List Item) (given : Options.Partial) : Options where
  missingTransform :=
    ((lastSet Item.missingTransform? items).or given.missingTransform).getD .skip
  bottomRightY := ((lastSet Item.bottomRightY? items).or given.bottomRightY).getD .unadjusted
  malformed := ((lastSet Item.malformed? items).or given.malformed).getD .propagate
  circleCenter := ((lastSet Item.circleCenter? items).or given.circleCenter).getD .radii
  strictMarkup := ((lastSet Item.strictMarkup? items).or given.strictMarkup).getD false

/-- What the content of a file gives, in YAML or in JSON as the name of the file tells. -/
def givenIn (path : String) (content : ByteArray) : Except String Options.Partial := do
  let text ← (decodeText content).mapError SystemFault.message
  if isYamlPath path then Options.givenYaml text else Options.givenJson text

/-- The bytes of a text are read as the text. -/
theorem givenIn_toUTF8 (path text : String) : givenIn path text.toUTF8 =
    if isYamlPath path then Options.givenYaml text else Options.givenJson text := by
  have hdecode : decodeText text.toUTF8 = .ok text := by
    have hvalid : text.toUTF8.IsValidUTF8 := text.isValidUTF8
    rw [decodeText, String.fromUTF8?, dif_pos hvalid]
    rfl
  rw [givenIn, hdecode]
  rfl

theorem parseConfig_eq (path : String) (content : ByteArray) :
    parseConfig path content = (givenIn path content).map (·.over {}) := by
  rw [parseConfig, givenIn]
  cases decodeText content with
  | error f => rfl
  | ok text =>
      change (if isYamlPath path = true then Options.parseYaml text else Options.parse text) =
        Except.map _ (if isYamlPath path = true then _ else _)
      split
      · exact Options.parseYaml_eq text
      · exact Options.parse_eq text

theorem overrides_over (h : ofItems items = some a) (given : Options.Partial) :
    a.overrides.over (given.over {}) = governed items given := by
  have hor {α : Type} (x y : Option α) (v : α) : x.getD (y.getD v) = (x.or y).getD v := by
    cases x <;> rfl
  rw [Arguments.overrides_ofItems h, governed, ← hor, ← hor, ← hor, ← hor, ← hor]
  rfl

def givenAt (s : Surroundings) (path : String) : Except CommandError Options.Partial :=
  match s.read path with
  | .ok content => (givenIn path content).mapError (.config path)
  | .error f => .error (.config path f.message)

theorem loadConfig_eq (s : Surroundings) (path : String) :
    loadConfig s path = (givenAt s path).map (·.over {}) := by
  rw [loadConfig, givenAt]
  cases s.read path with
  | error f => rfl
  | ok content =>
      dsimp only
      rw [parseConfig_eq]
      cases givenIn path content <;> rfl

/-- The options of a run, from its items and the file that the last of them names. -/
theorem loadOptions_eq_governed (h : ofItems items = some a) (s : Surroundings) :
    loadOptions s a =
      match lastSet Item.config? items with
      | none => .ok (governed items {})
      | some path => (givenAt s path).map (governed items) := by
  rw [loadOptions, Arguments.config_ofItems h]
  cases lastSet Item.config? items with
  | none => exact congrArg Except.ok (overrides_over h {})
  | some path =>
      dsimp only
      rw [loadConfig_eq]
      cases givenAt s path with
      | error e => rfl
      | ok given => exact congrArg Except.ok (overrides_over h given)

/-! Items in another order -/

/-- The same items in another order. Files among each other and choices of the centre of circles
among each other are in the same order, as different ones may have been named. -/
structure Rearranged (items items' : List Item) : Prop where
  perm : items.Perm items'
  config : items.filterMap Item.config? = items'.filterMap Item.config?
  circleCenter : items.filterMap Item.circleCenter? = items'.filterMap Item.circleCenter?

namespace Rearranged

theorem lastSet_config (h : Rearranged items items') :
    lastSet Item.config? items' = lastSet Item.config? items := by
  rw [lastSet, lastSet, h.config]

theorem governed_eq (h : Rearranged items items') : governed items' = governed items := by
  -- a flag without a value always sets the same
  have hmissing : lastSet Item.missingTransform? items' = lastSet Item.missingTransform? items :=
    (lastSet_perm_of_eq (v := .identity) (fun i _ hi => by cases i <;> cases hi; rfl) h.perm).symm
  have hcorner : lastSet Item.bottomRightY? items' = lastSet Item.bottomRightY? items :=
    (lastSet_perm_of_eq (v := .adjusted) (fun i _ hi => by cases i <;> cases hi; rfl) h.perm).symm
  have hmalformed : lastSet Item.malformed? items' = lastSet Item.malformed? items :=
    (lastSet_perm_of_eq (v := .skip) (fun i _ hi => by cases i <;> cases hi; rfl) h.perm).symm
  have hcenter : lastSet Item.circleCenter? items' = lastSet Item.circleCenter? items := by
    rw [lastSet, lastSet, h.circleCenter]
  have hstrict : lastSet Item.strictMarkup? items' = lastSet Item.strictMarkup? items :=
    (lastSet_perm_of_eq (v := true) (fun i _ hi => by cases i <;> cases hi; rfl) h.perm).symm
  funext given
  rw [governed, governed, hmissing, hcorner, hmalformed, hcenter, hstrict]

theorem exists_ofItems (h : Rearranged items items') (hitems : ofItems items = some a) :
    ∃ a', ofItems items' = some a' := by
  have haccepted : (ofItems items).isSome := by rw [hitems]; rfl
  rw [Arguments.isSome_ofItems_iff, (h.perm.filterMap _).length_eq,
    ← Arguments.isSome_ofItems_iff] at haccepted
  exact Option.isSome_iff_exists.1 haccepted

end Rearranged

/-- A run that is given arguments takes each option from the last of its flags, else from the last
file that is named, else from the defaults. Any fault of that file is reported whatever the flags,
and no other file counts. The order of the arguments does not count beyond that. -/
theorem loadOptions_precedence (s : Surroundings) {words : List String}
    (h : Arguments.parse words = some a) :
    ∃ items, Writes words items ∧
      (lastSet Item.config? items = none → loadOptions s a = .ok (governed items {})) ∧
      (∀ path, lastSet Item.config? items = some path →
        (∀ f, s.read path = .error f → loadOptions s a = .error (.config path f.message)) ∧
        (∀ content, s.read path = .ok content →
          (∀ message, givenIn path content = .error message →
            loadOptions s a = .error (.config path message)) ∧
          (∀ given, givenIn path content = .ok given →
            loadOptions s a = .ok (governed items given))) ∧
        (∀ s', s'.read path = s.read path → loadOptions s' a = loadOptions s a)) ∧
      ∀ words' items', Writes words' items' → Rearranged items items' →
        ∃ a', Arguments.parse words' = some a' ∧ loadOptions s a' = loadOptions s a := by
  obtain ⟨items, hsplit, hitems⟩ := Option.bind_eq_some_iff.1 h
  have hload := loadOptions_eq_governed hitems
  refine ⟨items, Item.split_eq_some_iff.1 hsplit, fun hnone => ?_, fun path hpath => ?_,
    fun words' items' hwrites hrearranged => ?_⟩
  · rw [hload, hnone]
  -- the file is looked at only where the last path leads, so each of its faults ends the run
  · simp only [hload, hpath]
    refine ⟨fun f hread => ?_, fun content hread => ⟨fun message hgiven => ?_, fun given hgiven => ?_⟩,
      fun s' hread => ?_⟩
    · rw [givenAt, hread]
      rfl
    · rw [givenAt, hread]
      dsimp only
      rw [hgiven]
      rfl
    · rw [givenAt, hread]
      dsimp only
      rw [hgiven]
      rfl
    · rw [givenAt, givenAt, hread]
  · obtain ⟨a', hitems'⟩ := hrearranged.exists_ofItems hitems
    refine ⟨a', ?_, ?_⟩
    · rw [Arguments.parse, Item.split_eq_some_iff.2 hwrites]
      exact hitems'
    · rw [loadOptions_eq_governed hitems', hload, hrearranged.lastSet_config,
        hrearranged.governed_eq]

/-- A flag counts more than the last file, and the first file is not even there. -/
theorem loadOptions_precedence_flag_before_file :
    ∃ a, Arguments.parse ["--config", "a.json", "--skip-malformed", "--config", "b.json"] = some a ∧
      loadOptions (FileTree.surroundings ⟨[(["b.json"], .file
        "\x7b\"malformed\":\"propagate\",\"circleCenter\":\"center\"\x7d".toUTF8)]⟩ .empty) a =
          .ok { malformed := .skip, circleCenter := .center } := by
  let words := ["--config", "a.json", "--skip-malformed", "--config", "b.json"]
  let text := "\x7b\"malformed\":\"propagate\",\"circleCenter\":\"center\"\x7d"
  let s := FileTree.surroundings ⟨[(["b.json"], .file text.toUTF8)]⟩ .empty
  change ∃ a, Arguments.parse words = some a ∧ loadOptions s a = _
  obtain ⟨a, ha⟩ : ∃ a, Arguments.parse words = some a := ⟨_, rfl⟩
  refine ⟨a, ha, ?_⟩
  obtain ⟨items, hwrites, -, hfile, -⟩ := loadOptions_precedence s ha
  have hitems : items = [.config "a.json", .skipMalformed, .config "b.json"] :=
    Option.some.inj ((Item.split_eq_some_iff.2 hwrites).symm.trans rfl)
  obtain ⟨-, hread, -⟩ := hfile "b.json" (by rw [hitems]; rfl)
  have hgiven : givenIn "b.json" text.toUTF8 =
      .ok { malformed := some .propagate, circleCenter := some .center } := by
    let settings : List Options.Setting := [.malformed .propagate, .circleCenter .center]
    have htext : text = String.ofList
        ([] ++ ((Json.object (settings.map Options.Setting.member)).spaced Json.dense 0 ++ [])) := by
      decide +kernel
    rw [givenIn_toUTF8, if_neg (by decide), htext]
    exact Options.givenJson_members (by decide) Json.dense Json.Spaces.nil Json.Spaces.nil
  rw [(hread text.toUTF8 rfl).2 _ hgiven, hitems]
  rfl

end ShapeCoords.CommandLine
