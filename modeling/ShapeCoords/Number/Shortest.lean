import ShapeCoords.Number.Decimal

/-!
The shortest decimal that reads back as a given binary64 number, and of the shortest ones the
nearest.
-/

namespace ShapeCoords.Number

inductive Tie where
  | even
  | up
  deriving DecidableEq, Repr

/-- How `d * 10 ^ g` compares with `x * 2 ^ p`. -/
def compareScaled (d : Nat) (g : Int) (x : Nat) (p : Int) : Ordering :=
  compare (d * tenTo g.toNat * twoTo (-p).toNat) (x * twoTo p.toNat * tenTo (-g).toNat)

/-- The greatest `d` with `d * 10 ^ g ≤ x * 2 ^ p`. -/
def floorScaled (g : Int) (x : Nat) (p : Int) : Nat :=
  (x * twoTo p.toNat * tenTo (-g).toNat) / (tenTo g.toNat * twoTo (-p).toNat)

/-- The numbers that round to `m * 2 ^ q`, in units of `2 ^ (q - 2)`: from `low` to `high`, both
ends included exactly if `m` is even. Below a power of two the next number is only half as far. -/
structure RoundingInterval where
  low : Nat
  high : Nat
  closed : Bool

def roundingInterval (m : Nat) (q : Int) : RoundingInterval where
  low := if m = twoTo 52 ∧ -1074 < q then 4 * m - 1 else 4 * m - 2
  high := 4 * m + 2
  closed := m % 2 == 0

def roundsTo (m : Nat) (q : Int) (d : Nat) (g : Int) : Bool :=
  let i := roundingInterval m q
  let low := compareScaled d g i.low (q - 2)
  let high := compareScaled d g i.high (q - 2)
  (low == .gt || (i.closed && low == .eq)) && (high == .lt || (i.closed && high == .eq))

/-- The decimal on the grid of spacing `10 ^ g` that rounds to `m * 2 ^ q`, the nearest if there are
two. Only the two neighbours of the number on the grid need to be tried. -/
def onGrid (tie : Tie) (m : Nat) (q : Int) (g : Int) : Option Nat :=
  let d := floorScaled g m q
  match roundsTo m q d g, roundsTo m q (d + 1) g with
  | false, false => none
  | true, false => some d
  | false, true => some (d + 1)
  | true, true =>
    match compareScaled (2 * d + 1) g (2 * m) q with
    | .gt => some d
    | .lt => some (d + 1)
    | .eq =>
      match tie with
      | .up => some (d + 1)
      | .even => if d % 2 = 0 then some d else some (d + 1)

def searchGrids (tie : Tie) (m : Nat) (q : Int) : Nat → Int → Nat × Int
  | 0, g => (floorScaled g m q, g)
  | fuel + 1, g =>
    match onGrid tie m q g with
    | some d => (d, g)
    | none => searchGrids tie m q fuel (g - 1)

/-- A grid too coarse for any number below `2 ^ a`: its spacing is `2 ^ a` or more. -/
def coarseGrid (a : Int) : Int :=
  if 0 ≤ a then 4 * (a / 13 + 1) else -(3 * (-a / 10))

/-- Digits and exponent of the shortest decimal that rounds to `m * 2 ^ q`, for positive `m`. A grid
with seventeen digits always has one. -/
def shortest (tie : Tie) (m : Nat) (q : Int) : Nat × Int :=
  searchGrids tie m q 48 (coarseGrid (m.log2 + 2 + q))

end ShapeCoords.Number
