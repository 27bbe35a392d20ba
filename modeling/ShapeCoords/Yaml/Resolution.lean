import ShapeCoords.Number.Layout
import ShapeCoords.Number.Reading
import ShapeCoords.Text.Quoted
import ShapeCoords.Yaml.Event
import ShapeCoords.Yaml.Token.Tag

/-!
What a scalar stands for: nothing, a truth value, a number or a text. A plain scalar tells by its
form, unless a tag does.
-/

namespace ShapeCoords.Yaml

open Number (infinity twoTo)

inductive Found where
  | null
  | bool (b : Bool)
  | int (i : Int)
  /-- An integer beyond 64 bits. -/
  | wideInt (i : Int)
  | float (v : Float)
  | string (s : String)
  | list
  | map

/-- Numbers in messages about YAML: an exponent is never used. -/
def messageNumber : Number.Layout :=
  { Number.diagnostic with least := -400, most := 400 }

def Found.describe : Found → String
  | .null => "unit value"
  | .bool b => "boolean `" ++ (if b then "true" else "false") ++ "`"
  | .int i => "integer `" ++ String.ofList (Number.intDigits i) ++ "`"
  | .wideInt i =>
    "integer `" ++ String.ofList (Number.intDigits i) ++ "` as " ++ if i < 0 then "i128" else "u128"
  | .float v => "floating point `" ++ String.ofList (messageNumber.text v) ++ "`"
  | .string s => "string " ++ Text.quote s
  | .list => "sequence"
  | .map => "map"

def isNull (s : List Char) : Bool :=
  ["null", "Null", "NULL", "~"].any fun w => w.toList == s

def bool? (s : List Char) : Option Bool :=
  if ["true", "True", "TRUE"].any fun w => w.toList == s then some true
  else if ["false", "False", "FALSE"].any fun w => w.toList == s then some false
  else none

/-! Numbers -/

def dropPlus : List Char → List Char
  | '+' :: s => s
  | s => s

def startsWithSign (s : List Char) : Bool :=
  s.head?.any fun c => c == '+' || c == '-'

/-- Whether a text has only digits behind a sign, the first of several being zero. Such a text is no
number. -/
def hasLeadingZero (s : List Char) : Bool :=
  let digits := if startsWithSign s then s.tail else s
  1 < digits.length && digits.head? == some '0' && digits.all Text.isAsciiDigit

def digitsValue? (base : Nat) (s : List Char) : Option Nat :=
  if s.isEmpty then none
  else
    s.foldlM
      (fun n c => (hexValue? c).bind fun d => if d < base then some (base * n + d) else none) 0

/-- The value of digits, with the mark of another base than ten in front of them. -/
def magnitude? : List Char → Option Nat
  | '0' :: 'x' :: s => digitsValue? 16 s
  | '0' :: 'o' :: s => digitsValue? 8 s
  | '0' :: 'b' :: s => digitsValue? 2 s
  | s => digitsValue? 10 s

def int? (s : List Char) : Option Int :=
  if hasLeadingZero s then none
  else
    match s with
    | '-' :: s => (magnitude? s).map fun n => -(n : Int)
    | s => (magnitude? (dropPlus s)).map Int.ofNat

def float? (s : List Char) : Option Float :=
  let positive := dropPlus s
  let isOne (names : List String) (s : List Char) : Bool := names.any fun w => w.toList == s
  if s.head? = some '+' ∧ startsWithSign positive then none
  else if isOne [".inf", ".Inf", ".INF"] positive then some (infinity false)
  else if isOne ["-.inf", "-.Inf", "-.INF"] s then some (infinity true)
  else if isOne [".nan", ".NaN", ".NAN"] s then some Number.nan
  else ((Number.readDecimal positive).map Number.Decimal.toFloat).filter Number.isFinite

/-- An integer, unless it is beyond 128 bits. -/
def foundInt? (i : Int) : Option Found :=
  let least (bits : Nat) : Int := -twoTo (bits - 1)
  if least 64 ≤ i ∧ i < twoTo 64 then some (.int i)
  else if least 128 ≤ i ∧ i < twoTo 128 then some (.wideInt i)
  else none

def resolve (s : List Char) : Found :=
  if s.isEmpty || isNull s then .null
  else
    let fraction := if hasLeadingZero s then none else float? s
    match bool? s, (int? s).bind foundInt?, fraction with
    | some b, _, _ => .bool b
    | none, some i, _ => i
    | none, none, some v => .float v
    | none, none, none => .string (String.ofList s)

/-! Tags -/

def boolTag : Tag := asciiBytes "tag:yaml.org,2002:bool".toList
def intTag : Tag := asciiBytes "tag:yaml.org,2002:int".toList
def floatTag : Tag := asciiBytes "tag:yaml.org,2002:float".toList
def nullTag : Tag := asciiBytes "tag:yaml.org,2002:null".toList

/-- What a scalar stands for, or what its tag asks of it. -/
def Scalar.found (s : Scalar) : Except String Found :=
  let asked (found : Option Found) (expected : String) : Except String Found :=
    match found with
    | some f => .ok f
    | none => .error expected
  let plain : Found :=
    if s.style = .plain then resolve s.text else .string (String.ofList s.text)
  match s.tag with
  | none => .ok plain
  | some tag =>
    if tag = boolTag then asked ((bool? s.text).map .bool) "a boolean"
    else if tag = intTag then asked ((int? s.text).bind foundInt?) "an integer"
    else if tag = floatTag then asked ((float? s.text).map .float) "a float"
    else if tag = nullTag then asked (if isNull s.text then some .null else none) "null"
    else if tag.head? = some 0x21 then .ok plain
    else .ok (.string (String.ofList s.text))

/-- The name in a tag that starts with an exclamation mark, without that mark unless nothing else is
there. -/
def tagName? : Tag → Option String
  | [] => none
  | byte :: bytes =>
    if byte = 0x21 then String.fromUTF8? ⟨(if bytes.isEmpty then [byte] else bytes).toArray⟩
    else none

end ShapeCoords.Yaml
