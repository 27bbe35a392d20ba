import ShapeCoords.Number.Binary64

/-!
Decimal numbers: digit strings, and the binary64 number nearest to a decimal.
-/

namespace ShapeCoords.Number

/-- The number `digits * 10 ^ exponent`, negated if `negative`. -/
structure Decimal where
  negative : Bool
  digits : Nat
  exponent : Int
  deriving DecidableEq, Repr

def digitChar (d : Nat) : Char :=
  Char.ofNat (48 + d)

/-- The decimal digits of `n`, without leading zeros. -/
def digitsOf (n : Nat) : List Char :=
  if n < 10 then [digitChar n] else digitsOf (n / 10) ++ [digitChar (n % 10)]

def digitsValue (s : List Char) : Nat :=
  s.foldl (fun n c => 10 * n + (c.toNat - 48)) 0

def intDigits (i : Int) : List Char :=
  if i < 0 then '-' :: digitsOf i.natAbs else digitsOf i.natAbs

/-- The binary64 number nearest to a decimal, ties to even. Exponents far outside the range are
answered without computing the power of ten: `digits` is below `2 ^ (log2 digits + 1)`. -/
def Decimal.toFloat (d : Decimal) : Float :=
  if d.digits = 0 then ofMagnitude d.negative 0
  else if 400 < d.exponent then infinity d.negative
  else if d.exponent < -1100 - d.digits.log2 then ofMagnitude d.negative 0
  else if 0 ≤ d.exponent then
    ofMagnitude d.negative (nearestBits (d.digits * tenTo d.exponent.toNat) 1)
  else
    ofMagnitude d.negative (nearestBits d.digits (tenTo (-d.exponent).toNat))

end ShapeCoords.Number
