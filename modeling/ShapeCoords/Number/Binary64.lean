/-!
Binary64 numbers as exact dyadic values, and the binary64 number nearest to a quotient.
-/

namespace ShapeCoords.Number

/-- What a binary64 number stands for: a finite one is `m * 2 ^ q`, negated if `negative`. -/
inductive Value where
  | nan
  | infinite (negative : Bool)
  | finite (negative : Bool) (m : Nat) (q : Int)
  deriving DecidableEq, Repr

def twoTo (k : Nat) : Nat :=
  Nat.pow 2 k

def tenTo (k : Nat) : Nat :=
  Nat.pow 10 k

def valueOfBits (bits : Nat) : Value :=
  let negative := bits / twoTo 63 % 2 == 1
  let exponent : Nat := bits / twoTo 52 % 2048
  let fraction := bits % twoTo 52
  if exponent = 2047 then
    if fraction = 0 then .infinite negative else .nan
  else if exponent = 0 then .finite negative fraction (-1074)
  else .finite negative (fraction + twoTo 52) ((exponent : Int) - 1075)

def value (v : Float) : Value :=
  valueOfBits v.toBits.toNat

/-- The quotient rounded to the nearest integer; a half goes to the even neighbour. -/
def roundHalfEven (num den : Nat) : Nat :=
  let k := num / den
  let r := num % den
  if 2 * r < den then k
  else if den < 2 * r then k + 1
  else if k % 2 = 0 then k
  else k + 1

/-- The greatest `k` with `2 ^ k ≤ num / den`, for positive `num` and `den`. -/
def floorLog2 (num den : Nat) : Int :=
  let k : Int := num.log2 - den.log2
  let reached := if 0 ≤ k then den * twoTo k.toNat ≤ num else den ≤ num * twoTo (-k).toNat
  if reached then k else k - 1

/-- The bit pattern, without sign, of the binary64 number nearest to `num / den`. The patterns are
ordered as the numbers are, so a mantissa that rounds up to `2 ^ 53` carries into the exponent, and
everything beyond the largest finite number becomes the pattern of infinity. -/
def nearestBits (num den : Nat) : Nat :=
  if num = 0 then 0
  else
    let q := max (floorLog2 num den - 52) (-1074)
    let m :=
      if 0 ≤ q then roundHalfEven num (den * twoTo q.toNat)
      else roundHalfEven (num * twoTo (-q).toNat) den
    min ((q + 1074).toNat * twoTo 52 + m) (2047 * twoTo 52)

def ofMagnitude (negative : Bool) (bits : Nat) : Float :=
  Float.ofBits (UInt64.ofNat (if negative then bits + twoTo 63 else bits))

def nan : Float :=
  Float.ofBits 0x7FF8000000000000

def infinity (negative : Bool) : Float :=
  ofMagnitude negative (2047 * twoTo 52)

def isNaN (v : Float) : Bool :=
  match value v with
  | .nan => true
  | _ => false

def isFinite (v : Float) : Bool :=
  match value v with
  | .finite .. => true
  | _ => false

def isZero (v : Float) : Bool :=
  match value v with
  | .finite _ 0 _ => true
  | _ => false

end ShapeCoords.Number
