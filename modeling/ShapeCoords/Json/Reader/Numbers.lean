import ShapeCoords.Json.Reader
import ShapeCoords.Number.Reading

/-!
Numbers of a JSON text. One that has a point or an exponent is a float, as are integers beyond 64
bits; a float that would be infinite is refused.
-/

namespace ShapeCoords.Json.Reader

open Text (isAsciiDigit)

def digits : Reader (List Char) :=
  fun c =>
    let ds := c.rest.takeWhile isAsciiDigit
    (.ok ds, ⟨c.rest.dropWhile isAsciiDigit, c.offset + ds.length⟩)

/-- Reads the digits of the whole part: a zero alone, or digits that start with another one. -/
def wholePart : Reader (List Char) := do
  match ← peek with
  | none => failHere .endInValue
  | some '0' =>
    skip
    match ← peek with
    | some c => if isAsciiDigit c then failNext .invalidNumber else return ['0']
    | none => return ['0']
  | some c =>
    if isAsciiDigit c then digits
    else
      let at_ ← here
      fun _ => (.error ⟨.invalidNumber, some (at_.offset + 1)⟩, at_.advance)

/-- Reads the digits behind a point, at least one. -/
def fractionPart (atEnd : Cause) : Reader (List Char) := do
  let ds ← digits
  if ds.isEmpty then
    match ← peek with
    | some _ => failNext .invalidNumber
    | none => failNext atEnd
  else return ds

/-- Reads sign and first digit of an exponent. -/
def exponentStart (atEnd : Cause) : Reader Bool := do
  let negative ←
    match ← peek with
    | some '+' => do skip; Pure.pure false
    | some '-' => do skip; Pure.pure true
    | _ => Pure.pure false
  match ← peek with
  | none => failHere atEnd
  | some c =>
    if isAsciiDigit c then return negative
    else
      let at_ ← here
      fun _ => (.error ⟨.invalidNumber, some (at_.offset + 1)⟩, at_.advance)

/-- How many digits of an exponent are read until it exceeds every 32-bit integer. -/
def overflowLength : Nat → List Char → Option Nat
  | _, [] => none
  | e, d :: ds =>
    let e := 10 * e + (d.toNat - 48)
    if 2147483647 < e then some 1 else (overflowLength e ds).map (· + 1)

/-- Reads the digits of an exponent. One that exceeds every 32-bit integer is refused, unless the
number is zero or the exponent negative. -/
def exponentDigits (zero negative : Bool) : Reader Nat := do
  let start ← here
  let ds ← digits
  match overflowLength 0 ds with
  | some n =>
    if zero || negative then return Number.digitsValue ds
    else fun c => (.error ⟨.numberOutOfRange, some (start.offset + n)⟩, c)
  | none => return Number.digitsValue ds

def finite (d : Number.Decimal) : Reader Json := do
  let v := d.toFloat
  if Number.isFinite v then return .float v else failHere .numberOutOfRange

/-- An integer if it fits 64 bits, with the sign or without one; a float otherwise. Minus zero is a
float. -/
def integer (negative : Bool) (n : Nat) : Reader Json :=
  if negative then
    if 0 < n ∧ n ≤ Number.twoTo 63 then return .int (-n) else finite ⟨true, n, 0⟩
  else
    if n < Number.twoTo 64 then return .int n else finite ⟨false, n, 0⟩

/-- Reads a number behind its sign. -/
def number (negative : Bool) : Reader Json := do
  let whole ← wholePart
  let fraction ←
    match ← peek with
    | some '.' => do
      skip
      let ds ← fractionPart .endInValue
      Pure.pure (some ds)
    | _ => Pure.pure none
  let all := Number.digitsValue (whole ++ fraction.getD [])
  let shift : Int := -(fraction.getD []).length
  let c ← peek
  if c = some 'e' ∨ c = some 'E' then
    skip
    let negativeExponent ← exponentStart .endInValue
    let e ← exponentDigits (all == 0) negativeExponent
    finite ⟨negative, all, shift + (if negativeExponent then -(e : Int) else e)⟩
  else if fraction.isSome then finite ⟨negative, all, shift⟩
  else integer negative all

/-- Passes over a number behind its sign; any size will do. -/
def skipNumber : Reader Unit := do
  let c ← peek
  if c = none then
    failHere .invalidNumber
  let _ ← wholePart
  if (← peek) = some '.' then
    skip
    let _ ← fractionPart .invalidNumber
  let c ← peek
  if c = some 'e' ∨ c = some 'E' then
    skip
    let _ ← exponentStart .invalidNumber
    let _ ← digits

end ShapeCoords.Json.Reader
