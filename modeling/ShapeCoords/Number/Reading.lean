import ShapeCoords.Number.Decimal
import ShapeCoords.Text.Blank

/-!
Numbers as they stand in attributes: a decimal with optional sign, point and exponent, or a name of
infinity or of the undefined number. A blank text is zero.
-/

namespace ShapeCoords.Number

open Text

def takeSign : List Char → Bool × List Char
  | '-' :: s => (true, s)
  | '+' :: s => (false, s)
  | s => (false, s)

/-- Reads an exponent, which must fill the text: `e` or `E`, a sign if any, at least one digit. -/
def readExponent : List Char → Option Int
  | [] => some 0
  | c :: s =>
    if c = 'e' ∨ c = 'E' then
      let (negative, ds) := takeSign s
      if ds.isEmpty || !ds.all isAsciiDigit then none
      else some (if negative then -digitsValue ds else digitsValue ds)
    else none

/-- Splits digits with at most one point between them from what follows: the digits before the
point, those after it, and the rest. -/
def takeMantissa (s : List Char) : List Char × List Char × List Char :=
  let whole := s.takeWhile isAsciiDigit
  match s.dropWhile isAsciiDigit with
  | '.' :: r => (whole, r.takeWhile isAsciiDigit, r.dropWhile isAsciiDigit)
  | r => (whole, [], r)

def readDecimal (s : List Char) : Option Decimal :=
  let (negative, s) := takeSign s
  let (whole, fraction, rest) := takeMantissa s
  if whole.isEmpty && fraction.isEmpty then none
  else (readExponent rest).map fun e =>
    ⟨negative, digitsValue (whole ++ fraction), e - fraction.length⟩

/-- Reads one of the names `inf`, `infinity` and `nan`, in any case and with any sign. -/
def readName (s : List Char) : Option Float :=
  let (negative, s) := takeSign s
  let s := s.map lowerAscii
  if s = ['i', 'n', 'f'] ∨ s = ['i', 'n', 'f', 'i', 'n', 'i', 't', 'y'] then
    some (infinity negative)
  else if s = ['n', 'a', 'n'] then some nan
  else none

def readExact (s : List Char) : Option Float :=
  match readDecimal s with
  | some d => some d.toFloat
  | none => readName s

/-- The number in an attribute text: white space around it does not count, and a blank text is zero.
-/
def parse (s : List Char) : Option Float :=
  match trim s with
  | [] => some (ofMagnitude false 0)
  | t => readExact t

/-- The number that arithmetic runs on: an absent one is undefined. -/
def orNaN (v : Option Float) : Float :=
  v.getD nan

end ShapeCoords.Number
