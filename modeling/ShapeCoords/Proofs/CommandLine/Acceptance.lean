import Mathlib.Data.List.Nodup
import ShapeCoords.CommandLine.Run
import ShapeCoords.Proofs.CommandLine.Settings

/-!
Which argument lists the command accepts, and what it takes from them: those that spell items of
which at most one is a page, and of the items of a kind the last one.
-/

namespace ShapeCoords.CommandLine

open Text (lowerAscii trim)

/-! Names of renderers -/

/-- In a table that lists no key twice, an entry is found by its key. -/
theorem find?_key_eq_some_iff {α κ : Type} [BEq κ] [LawfulBEq κ] {table : List α} (key : α → κ)
    (hnodup : (table.map key).Nodup) {k : κ} {a : α} :
    (table.find? fun b => key b == k) = some a ↔ a ∈ table ∧ key a = k := by
  constructor
  · intro h
    exact ⟨List.mem_of_find?_eq_some h, by simpa using List.find?_some h⟩
  · rintro ⟨ha, rfl⟩
    have hsome : (table.find? fun b => key b == key a).isSome :=
      List.find?_isSome.2 ⟨a, ha, beq_self_eq_true (key a)⟩
    obtain ⟨b, hb⟩ := Option.isSome_iff_exists.1 hsome
    have hkey : key b = key a := by simpa using List.find?_some hb
    rw [hb, List.inj_on_of_nodup_map hnodup (List.mem_of_find?_eq_some hb) ha hkey]

/-- A name counts without the white space around it and in any case. -/
theorem Drawing.ofName_eq_some_iff {name : String} {d : Drawing} :
    Drawing.ofName name = some d ↔
      ((trim name.toList).map lowerAscii, d) ∈
        [("merman".toList, Drawing.headless), ("headless".toList, .headless),
          ("mmdc".toList, .program), ("none".toList, .off)] := by
  have hnodup : (names.map fun n => n.1.toList).Nodup := by decide
  change _ ↔ _ ∈ names.map fun n => (n.1.toList, n.2)
  rw [ofName, Option.map_eq_some_iff, List.mem_map]
  refine exists_congr fun n => ?_
  rw [find?_key_eq_some_iff (fun n : String × Drawing => n.1.toList) hnodup,
    Prod.mk.injEq, and_assoc]

/-! Items -/

namespace Arguments

variable {a : Arguments} {items : List Item}

/-- What items come to if of those of a kind the last one counts. -/
def ofLast (items : List Item) : Arguments where
  page := lastSet Item.page? items
  drawing := (lastSet Item.drawing? items).getD .headless
  program := lastSet Item.program? items
  config := lastSet Item.config? items
  overrides :=
    { missingTransform := lastSet Item.missingTransform? items
      bottomRightY := lastSet Item.bottomRightY? items
      malformed := lastSet Item.malformed? items
      circleCenter := lastSet Item.circleCenter? items
      strictMarkup := lastSet Item.strictMarkup? items }

theorem page_ofItems (h : ofItems items = some a) : a.page = lastSet Item.page? items := by
  have htracks : Tracks page Item.page? := fun h => by rw [(add_eq_some_iff.1 h).2]
  exact htracks.ofItems rfl h

theorem program_ofItems (h : ofItems items = some a) :
    a.program = lastSet Item.program? items := by
  have htracks : Tracks program Item.program? := fun h => by rw [(add_eq_some_iff.1 h).2]
  exact htracks.ofItems rfl h

/-- Without an item that says how to draw, no program is needed. -/
theorem drawing_ofItems (h : ofItems items = some a) :
    a.drawing = (lastSet Item.drawing? items).getD .headless := by
  have htracks : Tracks (fun a => some a.drawing) Item.drawing? := by
    intro a i b h
    rw [(add_eq_some_iff.1 h).2]
    cases i.drawing? <;> rfl
  have hrun := htracks.run h
  cases hlast : lastSet Item.drawing? items with
  | none =>
      rw [hlast] at hrun
      exact Option.some.inj hrun
  | some d =>
      rw [hlast] at hrun
      exact Option.some.inj hrun

theorem eq_ofLast_of_ofItems (h : ofItems items = some a) : a = ofLast items := by
  obtain ⟨page, drawing, program, config, overrides⟩ := a
  rw [ofLast, ← page_ofItems h, ← drawing_ofItems h, ← program_ofItems h, ← config_ofItems h,
    ← overrides_ofItems h]

theorem ofItems_eq_some_iff : ofItems items = some a ↔
    (items.filterMap Item.page?).length ≤ 1 ∧ a = ofLast items := by
  rw [← isSome_ofItems_iff]
  constructor
  · intro h
    exact ⟨by rw [h]; rfl, eq_ofLast_of_ofItems h⟩
  · rintro ⟨hsome, rfl⟩
    obtain ⟨b, hb⟩ := Option.isSome_iff_exists.1 hsome
    rw [hb, eq_ofLast_of_ofItems hb]

theorem parse_eq_some_iff {words : List String} : parse words = some a ↔
    ∃ items, Writes words items ∧ (items.filterMap Item.page?).length ≤ 1 ∧ a = ofLast items := by
  rw [parse, Option.bind_eq_some_iff]
  exact exists_congr fun items => and_congr Item.split_eq_some_iff ofItems_eq_some_iff

end Arguments

/-! Argument lists -/

/-- The arguments that the command accepts are those that spell items, at most one of them a page;
then the last item of a kind counts. With any others the use of the command is explained. -/
theorem parseArguments_outcome (words : List String) :
    (∀ a, parseArguments words = .ok a ↔
      ∃ items, Writes words items ∧ (items.filterMap Item.page?).length ≤ 1 ∧
        a = Arguments.ofLast items) ∧
    (parseArguments words = .error .usage ↔
      ¬∃ items, Writes words items ∧ (items.filterMap Item.page?).length ≤ 1) ∧
    (∀ name d, Drawing.ofName name = some d ↔
      ((trim name.toList).map lowerAscii, d) ∈
        [("merman".toList, Drawing.headless), ("headless".toList, .headless),
          ("mmdc".toList, .program), ("none".toList, .off)]) := by
  have hok (a : Arguments) : parseArguments words = .ok a ↔ Arguments.parse words = some a := by
    rw [parseArguments]
    cases Arguments.parse words <;> simp
  have herror : parseArguments words = .error .usage ↔ Arguments.parse words = none := by
    rw [parseArguments]
    cases Arguments.parse words <;> simp
  refine ⟨fun a => (hok a).trans Arguments.parse_eq_some_iff, herror.trans ?_,
    fun _ _ => Drawing.ofName_eq_some_iff⟩
  rw [Option.eq_none_iff_forall_ne_some]
  constructor
  · rintro h ⟨items, hwrites, hle⟩
    exact h _ (Arguments.parse_eq_some_iff.2 ⟨items, hwrites, hle, rfl⟩)
  · intro h a ha
    obtain ⟨items, hwrites, hle, -⟩ := Arguments.parse_eq_some_iff.1 ha
    exact h ⟨items, hwrites, hle⟩

end ShapeCoords.CommandLine
