import ShapeCoords.Number.Reading
import ShapeCoords.Text.DecimalDigit
import ShapeCoords.Text.Description

/-!
Shifts, and the `translate(tx, ty)` term in a transform attribute. The first place where such
a term stands decides; text before and after it does not count.
-/

namespace ShapeCoords

open Text

structure Shift where
  dx : Float
  dy : Float
  deriving BEq

namespace Shift

def identity : Shift :=
  ⟨Number.ofMagnitude false 0, Number.ofMagnitude false 0⟩

def apply (t : Shift) (x y : Float) : Float × Float :=
  (x + t.dx, y + t.dy)

def describe (t : Shift) : String :=
  Description.text {
    name := "Translation"
    fields := [("tx", describeNumber t.dx), ("ty", describeNumber t.dy)]
    elided := false }

def takeSignText : List Char → List Char × List Char
  | '+' :: s => (['+'], s)
  | '-' :: s => (['-'], s)
  | s => ([], s)

/-- Splits off digits with an optional point and further digits, or a point followed by digits. -/
def takeMantissaText (s : List Char) : Option (List Char × List Char) :=
  let whole := s.takeWhile isDecimalDigit
  match whole, s.dropWhile isDecimalDigit with
  | [], '.' :: r =>
    let fraction := r.takeWhile isDecimalDigit
    if fraction.isEmpty then none else some ('.' :: fraction, r.dropWhile isDecimalDigit)
  | [], _ => none
  | whole, '.' :: r => some (whole ++ '.' :: r.takeWhile isDecimalDigit, r.dropWhile isDecimalDigit)
  | whole, r => some (whole, r)

/-- Splits off an exponent, nothing if the text does not start with a complete one. -/
def takeExponentText : List Char → List Char × List Char
  | [] => ([], [])
  | c :: s =>
    if c = 'e' ∨ c = 'E' then
      let (sign, r) := takeSignText s
      let digits := r.takeWhile isDecimalDigit
      if digits.isEmpty then ([], c :: s)
      else (c :: sign ++ digits, r.dropWhile isDecimalDigit)
    else ([], c :: s)

/-- Splits off a number text. Its digits may be of any script. -/
def takeNumberText (s : List Char) : Option (List Char × List Char) :=
  let (sign, r) := takeSignText s
  (takeMantissaText r).map fun (mantissa, r) =>
    let (exponent, r) := takeExponentText r
    (sign ++ mantissa ++ exponent, r)

/-- The rest of the text after white space, the character `c` and nothing else. -/
def takeMark (c : Char) (s : List Char) : Option (List Char) :=
  match trimStart s with
  | d :: r => if d = c then some r else none
  | [] => none

/-- The two number texts of a term at the start of `s`. -/
def matchHere (s : List Char) : Option (List Char × List Char) := do
  let s ← dropWord "translate(".toList s
  let (dx, s) ← takeNumberText (trimStart s)
  let s ← takeMark ',' s
  let (dy, s) ← takeNumberText (trimStart s)
  let _ ← takeMark ')' s
  return (dx, dy)

/-- The two number texts of the leftmost term in `s`. -/
def firstMatch : List Char → Option (List Char × List Char)
  | [] => none
  | c :: s =>
    match matchHere (c :: s) with
    | some m => some m
    | none => firstMatch s

/-- The shift in a transform attribute. The leftmost term decides also if a number in it is not
written in ASCII digits, which have no value here. -/
def parse (text : String) : Option Shift := do
  let (dx, dy) ← firstMatch text.toList
  return ⟨← Number.readExact dx, ← Number.readExact dy⟩

end Shift

end ShapeCoords
