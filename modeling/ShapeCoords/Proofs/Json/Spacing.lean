import ShapeCoords.Proofs.Json.Reading
import ShapeCoords.Json.Printer

/-!
The compact and the indented text of a value as one text with different white space in it.
-/

namespace ShapeCoords.Json

open Reader

/-- The white space between the tokens of a text: in front of an item, a member or a closing bracket
of a depth, and behind a colon. -/
structure Spacing where
  lineBreak : Nat → List Char
  colonSpace : List Char
  lineBreak_spaces : ∀ depth, Spaces (lineBreak depth)
  colonSpace_spaces : Spaces colonSpace

/-- White space in front of the closing bracket, which an empty list or object does not have. -/
def Spacing.closing {α : Type} (sp : Spacing) (depth : Nat) : List α → List Char
  | [] => []
  | _ :: _ => sp.lineBreak depth

theorem Spacing.closing_spaces {α : Type} (sp : Spacing) (depth : Nat) (s : List α) :
    Spaces (sp.closing depth s) := by
  cases s with
  | nil => exact Spaces.nil
  | cons => exact sp.lineBreak_spaces depth

def dense : Spacing where
  lineBreak _ := []
  colonSpace := []
  lineBreak_spaces _ := Spaces.nil
  colonSpace_spaces := Spaces.nil

def indented : Spacing where
  lineBreak := lineBreak
  colonSpace := [' ']
  lineBreak_spaces depth := by
    intro c hc
    rcases List.mem_cons.1 hc with rfl | hc
    · rfl
    · rw [List.eq_of_mem_replicate hc]
      rfl
  colonSpace_spaces := by
    intro c hc
    rw [List.mem_singleton.1 hc]
    rfl

mutual

/-- The text of a value that starts at a depth. -/
def spaced (sp : Spacing) (depth : Nat) : Json → List Char
  | array items =>
    '[' :: (spacedItems sp (depth + 1) true items ++ (sp.closing depth items ++ [']']))
  | object members =>
    '\x7b' :: (spacedMembers sp (depth + 1) true members ++ (sp.closing depth members ++ ['\x7d']))
  | v => v.compact

def spacedItems (sp : Spacing) (depth : Nat) (first : Bool) : List Json → List Char
  | [] => []
  | v :: vs =>
    separator first ++ (sp.lineBreak depth ++ (v.spaced sp depth ++ spacedItems sp depth false vs))

def spacedMembers (sp : Spacing) (depth : Nat) (first : Bool) : List (String × Json) → List Char
  | [] => []
  | (name, v) :: ms =>
    separator first ++ (sp.lineBreak depth ++ (quoted name ++ ':' :: (sp.colonSpace ++
      (v.spaced sp depth ++ spacedMembers sp depth false ms))))

end

theorem spacedItems_false_cons (sp : Spacing) (depth : Nat) (v : Json) (vs : List Json) :
    spacedItems sp depth false (v :: vs) = ',' :: spacedItems sp depth true (v :: vs) := by
  simp only [spacedItems, separator, if_true, if_neg Bool.false_ne_true, List.nil_append,
    List.singleton_append]

theorem spacedMembers_false_cons (sp : Spacing) (depth : Nat) (m : String × Json)
    (ms : List (String × Json)) :
    spacedMembers sp depth false (m :: ms) = ',' :: spacedMembers sp depth true (m :: ms) := by
  simp only [spacedMembers, separator, if_true, if_neg Bool.false_ne_true, List.nil_append,
    List.singleton_append]

/-! The compact text -/

mutual

theorem compact_eq_spaced (depth : Nat) : (v : Json) → v.compact = v.spaced dense depth
  | null => rfl
  | bool _ => rfl
  | int _ => rfl
  | float _ => rfl
  | string _ => rfl
  | array [] => rfl
  | array (v :: vs) => by
    rw [compact, spaced, compactItems_eq_spaced (depth + 1) (v :: vs)]
    rfl
  | object [] => rfl
  | object (m :: ms) => by
    rw [compact, spaced, compactMembers_eq_spaced (depth + 1) (m :: ms)]
    rfl

theorem compactItems_eq_spaced (depth : Nat) :
    (vs : List Json) → compactItems vs = spacedItems dense depth true vs
  | [] => rfl
  | [v] => by
    rw [compactItems, compact_eq_spaced depth v]
    exact (List.append_nil _).symm
  | v :: w :: vs => by
    rw [compactItems, compact_eq_spaced depth v, compactItems_eq_spaced depth (w :: vs),
      ← spacedItems_false_cons]
    rfl

theorem compactMembers_eq_spaced (depth : Nat) :
    (ms : List (String × Json)) → compactMembers ms = spacedMembers dense depth true ms
  | [] => rfl
  | [(name, v)] => by
    rw [compactMembers, compact_eq_spaced depth v]
    simp [spacedMembers, separator, dense]
  | (name, v) :: m :: ms => by
    rw [compactMembers, compact_eq_spaced depth v, compactMembers_eq_spaced depth (m :: ms),
      ← spacedMembers_false_cons]
    simp [spacedMembers, separator, dense]

end

/-! The indented text -/

mutual

theorem prettyAt_eq_spaced (depth : Nat) : (v : Json) → v.prettyAt depth = v.spaced indented depth
  | null => rfl
  | bool _ => rfl
  | int _ => rfl
  | float _ => rfl
  | string _ => rfl
  | array [] => rfl
  | array (v :: vs) => by
    rw [prettyAt, spaced, ← prettyItems_eq_spaced (depth + 1) (v :: vs)]
    simp [Spacing.closing, indented]
  | object [] => rfl
  | object (m :: ms) => by
    rw [prettyAt, spaced, ← prettyMembers_eq_spaced (depth + 1) (m :: ms)]
    simp [Spacing.closing, indented]

theorem prettyItems_eq_spaced (depth : Nat) : (vs : List Json) →
    indented.closing depth vs ++ prettyItems depth vs = spacedItems indented depth true vs
  | [] => rfl
  | [v] => by
    rw [prettyItems, prettyAt_eq_spaced depth v]
    simp [spacedItems, separator, Spacing.closing]
  | v :: w :: vs => by
    have hitems := prettyItems_eq_spaced depth (w :: vs)
    rw [prettyItems, prettyAt_eq_spaced depth v, spacedItems, spacedItems_false_cons, ← hitems]
    simp [separator, Spacing.closing, indented]

theorem prettyMembers_eq_spaced (depth : Nat) : (ms : List (String × Json)) →
    indented.closing depth ms ++ prettyMembers depth ms = spacedMembers indented depth true ms
  | [] => rfl
  | [(name, v)] => by
    rw [prettyMembers, prettyAt_eq_spaced depth v]
    simp [spacedMembers, separator, Spacing.closing, indented]
  | (name, v) :: m :: ms => by
    have hmembers := prettyMembers_eq_spaced depth (m :: ms)
    rw [prettyMembers, prettyAt_eq_spaced depth v, spacedMembers, spacedMembers_false_cons,
      ← hmembers]
    simp [separator, Spacing.closing, indented]

end

end ShapeCoords.Json
