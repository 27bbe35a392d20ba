import ShapeCoords.Number.Shortest

/-!
How a number is laid out: positional notation or an exponent, and the texts of the special values.
-/

namespace ShapeCoords.Number

/-- The decisions of a number format. With `k` digits `s` and the value `s * 10 ^ (n - k)`, the
notation is positional for `least < n ≤ most`. -/
structure Layout where
  least : Int
  most : Int
  tie : Tie
  /-- Whole numbers in positional notation end in `.0`. -/
  keepsPoint : Bool
  /-- A positive exponent has a plus sign. -/
  marksPlus : Bool
  nan : List Char
  infinity : List Char

/-- Numbers as ECMAScript writes them, with the sign of zero kept. -/
def ecmaScript : Layout where
  least := -6
  most := 21
  tie := .even
  keepsPoint := false
  marksPlus := true
  nan := "NaN".toList
  infinity := "Infinity".toList

/-- Numbers in the text of log events: a whole number shows its point. -/
def diagnostic : Layout where
  least := -4
  most := 16
  tie := .up
  keepsPoint := true
  marksPlus := false
  nan := "NaN".toList
  infinity := "inf".toList

def zeros (n : Int) : List Char :=
  List.replicate n.toNat '0'

/-- Lays out the digits `s` of a number in which the point stands after digit `n`. -/
def Layout.digits (l : Layout) (s : List Char) (n : Int) : List Char :=
  let k : Int := s.length
  if l.least < n ∧ n ≤ l.most then
    if k ≤ n then s ++ zeros (n - k) ++ (if l.keepsPoint then ['.', '0'] else [])
    else if 0 < n then s.take n.toNat ++ '.' :: s.drop n.toNat
    else '0' :: '.' :: zeros (-n) ++ s
  else
    let e := n - 1
    let mark := if l.marksPlus ∧ 0 ≤ e then ['e', '+'] else ['e']
    s.take 1 ++ (if 1 < k then '.' :: s.drop 1 else []) ++ mark ++ intDigits e

def Layout.magnitude (l : Layout) (m : Nat) (q : Int) : List Char :=
  if m = 0 then '0' :: (if l.keepsPoint then ['.', '0'] else [])
  else
    let (d, g) := shortest l.tie m q
    let s := digitsOf d
    l.digits s (s.length + g)

def Layout.text (l : Layout) (v : Float) : List Char :=
  match value v with
  | .nan => l.nan
  | .infinite negative => (if negative then ['-'] else []) ++ l.infinity
  | .finite negative m q => (if negative then ['-'] else []) ++ l.magnitude m q

end ShapeCoords.Number
