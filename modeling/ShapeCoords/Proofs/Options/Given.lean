import ShapeCoords.Options.Configuration

/-!
What a text of options gives, apart from the defaults that fill in the rest.
-/

namespace ShapeCoords

namespace Json

open Reader

variable {α β γ : Type} {f : α → β} {r : Reader α} {r' : Reader β}

/-- Two readers differ in nothing but what they make of the value that is read. -/
def Through (f : α → β) (r : Reader α) (r' : Reader β) : Prop :=
  ∀ c, r' c = ((r c).1.map f, (r c).2)

namespace Through

theorem pure (a : α) : Through f (Pure.pure a) (Pure.pure (f a)) :=
  fun _ => rfl

theorem fail (cause : Cause) : Through f (Reader.fail cause) (Reader.fail cause) :=
  fun _ => rfl

theorem failNext (cause : Cause) : Through f (Reader.failNext cause) (Reader.failNext cause) :=
  fun _ => rfl

theorem bind {q : Reader γ} {k : γ → Reader α} {k' : γ → Reader β}
    (h : ∀ a, Through f (k a) (k' a)) : Through f (q >>= k) (q >>= k') := by
  intro c
  change Reader.bind q k' c = ((Reader.bind q k c).1.map f, (Reader.bind q k c).2)
  rw [Reader.bind, Reader.bind]
  split
  · exact h _ _
  · rfl

theorem locate (h : Through f r r') : Through f (Reader.locate r) (Reader.locate r') := by
  intro c
  rw [Reader.locate, Reader.locate, h c]
  obtain ⟨result, c'⟩ := r c
  cases result with
  | ok a => rfl
  | error fault =>
      obtain ⟨cause, place⟩ := fault
      cases place <;> rfl

theorem closedBy (h : Through f r r') (close : Reader Unit) :
    Through f (r.closedBy close) (r'.closedBy close) := by
  intro c
  rw [Reader.closedBy, Reader.closedBy, h c]
  obtain ⟨result, c'⟩ := r c
  cases result with
  | error fault => rfl
  | ok a =>
      dsimp only [Except.map]
      obtain ⟨end_, c''⟩ := close c'
      cases end_ <;> rfl

/-- What is found in place of a value is a fault whatever was to be made of the value. -/
theorem wrongType (expected : String) :
    Through f (Reader.wrongType expected) (Reader.wrongType expected) := by
  refine locate (bind fun next => ?_)
  -- whatever stands there is read the same way, and what is made of it is always the same fault
  split
  · exact bind fun _ => bind fun _ => fail _
  · exact bind fun _ => bind fun _ => fail _
  · exact bind fun _ => bind fun _ => fail _
  · exact bind fun _ => bind fun _ => fail _
  · exact fail _
  · exact fail _
  · split
    · dsimp only
      split
      · refine bind fun _ => bind fun v => ?_
        cases v <;> exact fun _ => rfl
      · refine bind fun v => ?_
        cases v <;> exact fun _ => rfl
    · exact failNext _
  · exact failNext _

/-- What is read behind the value does not count for it. -/
theorem followedBy (h : Through f r r') (q : Reader Unit) :
    Through f (r >>= fun a => q >>= fun _ => Pure.pure a)
      (r' >>= fun b => q >>= fun _ => Pure.pure b) := by
  intro c
  change Reader.bind r' _ c = ((Reader.bind r _ c).1.map f, (Reader.bind r _ c).2)
  rw [Reader.bind, Reader.bind, h c]
  obtain ⟨result, c'⟩ := r c
  cases result with
  | error fault => rfl
  | ok a => exact (bind fun _ => pure a) c'

theorem run (h : Through f r r') (text : String) : r'.run text = (r.run text).map f := by
  have hwhole := h.followedBy textEnd ⟨text.toList, 0⟩
  rw [Reader.run, Reader.run]
  rw [hwhole]
  cases ((r >>= fun a => textEnd >>= fun _ => Pure.pure a) ⟨text.toList, 0⟩).1 <;> rfl

end Through

/-! Structures without their defaults -/

namespace Schema

variable {σ : Type}

/-- The same structure with its parts as they were read. -/
def opened (s : Schema σ α) : Schema σ σ where
  name := s.name
  fields := s.fields
  start := s.start
  finish := .ok
  hasDefaults := s.hasDefaults
  isClosed := s.isClosed

theorem readItems_opened (s : Schema σ α) (fs : List (Field σ)) (i : Nat) (parts : σ) :
    s.opened.readItems fs i parts = s.readItems fs i parts := by
  induction fs generalizing i parts with
  | nil => rfl
  | cons f fs ih =>
      rw [readItems, readItems]
      simp only [ih]
      rfl

theorem through_complete {s : Schema σ α} {f : σ → α} (h : ∀ parts, s.finish parts = .ok (f parts))
    (parts : σ) : Through f (s.opened.complete parts) (s.complete parts) := by
  rw [complete, complete, h]
  exact .pure parts

/-- If nothing can be missing, a structure is made of the parts that are read. -/
theorem through_reader {s : Schema σ α} {f : σ → α}
    (h : ∀ parts, s.finish parts = .ok (f parts)) : Through f s.opened.reader s.reader := by
  refine .bind fun c => .locate ?_
  split
  · refine .bind fun _ => .closedBy ?_ _
    simp only [readItems_opened]
    exact .bind (through_complete h)
  · exact .bind fun _ => .closedBy (.bind (through_complete h)) _
  · exact .wrongType _

end Schema

end Json

/-! Options -/

namespace Options

/-- The options that a JSON text gives. -/
def givenJson (text : String) : Except String Partial :=
  (schema.opened.reader.run text).mapError fun message => "Invalid extract options: " ++ message

/-- The options that a YAML text gives. -/
def givenYaml (text : String) : Except String Partial :=
  ((Yaml.Document.ofText text.toList).readFields schema.name entries {}).mapError
    Yaml.ReadFault.message

theorem parse_eq (text : String) : parse text = (givenJson text).map (·.over {}) := by
  have hrun := (Json.Schema.through_reader (s := schema) fun _ => rfl).run text
  rw [parse, givenJson, hrun]
  cases schema.opened.reader.run text <;> rfl

theorem parseYaml_eq (text : String) : parseYaml text = (givenYaml text).map (·.over {}) := by
  rw [parseYaml, givenYaml]
  cases (Yaml.Document.ofText text.toList).readFields schema.name entries {} <;> rfl

end Options

end ShapeCoords
