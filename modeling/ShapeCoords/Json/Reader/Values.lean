import ShapeCoords.Json.Reader.Numbers
import ShapeCoords.Json.Reader.Strings

/-!
Reading values: scalars of a known type, the parts of lists and objects, values of any type, and
values that are passed over.
-/

namespace ShapeCoords.Json

namespace Reader

open Text (isAsciiDigit)

/-- The fault of a value that is not what was expected. Scalars are read first, and a fault in one
counts more. -/
def wrongType {α : Type} (expected : String) : Reader α := do
  let fault (found : Found) : Reader α := fail (.wrongType found expected)
  locate do
    match ← peek with
    | some 'n' => skip; word ['u', 'l', 'l']; fault .null
    | some 't' => skip; word ['r', 'u', 'e']; fault (.bool true)
    | some 'f' => skip; word ['a', 'l', 's', 'e']; fault (.bool false)
    | some '"' => skip; fault (.string (← string))
    | some '[' => fault .array
    | some '\x7b' => fault .object
    | some c =>
      if c = '-' ∨ isAsciiDigit c then
        if c = '-' then skip
        match ← number (c == '-') with
        | .int i => fault (.int i)
        | .float v => fault (.float v)
        | _ => failNext .expectedValue
      else failNext .expectedValue
    | none => failNext .expectedValue

def valueStart : Reader Char := do
  match ← peekToken with
  | some c => return c
  | none => failNext .endInValue

def bool : Reader Bool := do
  match ← valueStart with
  | 't' => skip; word ['r', 'u', 'e']; return true
  | 'f' => skip; word ['a', 'l', 's', 'e']; return false
  | _ => wrongType "a boolean"

def float : Reader Float := do
  let c ← valueStart
  if c = '-' ∨ isAsciiDigit c then
    if c = '-' then skip
    match ← number (c == '-') with
    | .int i => return Number.Decimal.toFloat ⟨decide (i < 0), i.natAbs, 0⟩
    | .float v => return v
    | _ => failNext .expectedValue
  else wrongType "f64"

/-- Reads a number as a float, and `null` as the undefined one. -/
def floatOrNull : Reader Float := do
  match ← peekToken with
  | some 'n' => skip; word ['u', 'l', 'l']; return Number.nan
  | _ => float

/-- Whether a list goes on, up to its next item. -/
def nextItem (first : Bool) : Reader Bool := do
  match ← peekToken with
  | none => failNext .endInList
  | some ']' => return false
  | some c =>
    if first then return true
    else if c = ',' then
      skip
      match ← peekToken with
      | some ']' => failNext .trailingComma
      | some _ => return true
      | none => failNext .endInValue
    else failNext .expectedCommaOrListEnd

def listEnd : Reader Unit := do
  match ← peekToken with
  | some ']' => skip
  | some ',' =>
    skip
    match ← peekToken with
    | some ']' => failNext .trailingComma
    | _ => failNext .trailingCharacters
  | some _ => failNext .trailingCharacters
  | none => failNext .endInList

/-- Whether an object goes on, up to its next name, behind the opening quote. -/
def nextMember (first : Bool) : Reader Bool := do
  let name : Option Char → Reader Bool
    | some '"' => do skip; return true
    | some '\x7d' => failNext .trailingComma
    | some _ => failNext .nameNotString
    | none => failNext .endInValue
  match ← peekToken with
  | some '\x7d' => return false
  | some c =>
    if first then name (some c)
    else if c = ',' then
      skip
      name (← peekToken)
    else failNext .expectedCommaOrObjectEnd
  | none => failNext .endInObject

def objectEnd : Reader Unit := do
  match ← peekToken with
  | some '\x7d' => skip
  | some ',' => failNext .trailingComma
  | some _ => failNext .trailingCharacters
  | none => failNext .endInObject

def colon : Reader Unit := do
  match ← peekToken with
  | some ':' => skip
  | some _ => failNext .expectedColon
  | none => failNext .endInObject

def eachItem {σ : Type} (item : σ → Reader σ) (s : σ) : Reader σ := do
  let step (state : Bool × σ) : Reader ((Bool × σ) × Bool) := do
    let (first, s) := state
    if ← nextItem first then return ((false, ← item s), true) else return ((first, s), false)
  return (← repeating step (true, s)).2

/-- Reads the members of an object behind its brace, up to the closing one. The reader of a member
starts behind the name. -/
def eachMember {σ : Type} (member : String → σ → Reader σ) (s : σ) : Reader σ := do
  let step (state : Bool × σ) : Reader ((Bool × σ) × Bool) := do
    let (first, s) := state
    if ← nextMember first then
      let name ← string
      return ((false, ← member name s), true)
    else return ((first, s), false)
  return (← repeating step (true, s)).2

/-- Reads any value. Items and members are read by `inner`; where that is missing, lists and objects
lie too deep. -/
def anyWith (inner : Option (Reader Json)) : Reader Json := do
  let c ← valueStart
  locate <|
    match c, inner with
    | 'n', _ => do skip; word ['u', 'l', 'l']; return .null
    | 't', _ => do skip; word ['r', 'u', 'e']; return .bool true
    | 'f', _ => do skip; word ['a', 'l', 's', 'e']; return .bool false
    | '"', _ => do skip; return .string (← string)
    | '[', none => failNext .tooDeep
    | '\x7b', none => failNext .tooDeep
    | '[', some inner => do
      skip
      let items := eachItem (fun read => do return (← inner) :: read) []
      return .array (← items.closedBy listEnd).reverse
    | '\x7b', some inner => do
      skip
      let member (name : String) (read : List (String × Json)) : Reader (List (String × Json)) := do
        colon
        return (name, ← inner) :: read
      return .object (← (eachMember member []).closedBy objectEnd).reverse
    | '-', _ => do skip; number true
    | c, _ => if isAsciiDigit c then number false else failNext .expectedValue

def any : Nat → Reader Json
  | 0 => anyWith none
  | depth + 1 => anyWith (some (any depth))

def maxDepth : Nat := 127

inductive Enclosing where
  | list
  | object

def skipName : Reader Unit := do
  match ← peekToken with
  | some '"' => skip
  | some _ => failNext .nameNotString
  | none => failNext .endInObject
  skipString
  colon

/-- Passes over the ends of enclosing values up to the next value, if there is one. `after` tells
whether a value was just passed. -/
def skipEnds : List Enclosing → Bool → Reader (List Enclosing × Bool)
  | [], _ => return ([], false)
  | e :: enclosing, after => do
    let closing := match e with
      | .list => ']'
      | .object => '\x7d'
    let goOn : Reader (List Enclosing × Bool) := do
      if let .object := e then skipName
      return (e :: enclosing, true)
    match ← peekToken with
    | none =>
      match e with
      | .list => failNext .endInList
      | .object => failNext .endInObject
    | some c =>
      if c = ',' && after then do skip; goOn
      else if c = closing then do skip; skipEnds enclosing true
      else if after then
        match e with
        | .list => failNext .expectedCommaOrListEnd
        | .object => failNext .expectedCommaOrObjectEnd
      else goOn

/-- Passes over one value, or over the start of a list or object. -/
def skipStep (enclosing : List Enclosing) : Reader (List Enclosing × Bool) := do
  match ← valueStart with
  | 'n' => skip; word ['u', 'l', 'l']; skipEnds enclosing true
  | 't' => skip; word ['r', 'u', 'e']; skipEnds enclosing true
  | 'f' => skip; word ['a', 'l', 's', 'e']; skipEnds enclosing true
  | '"' => skip; skipString; skipEnds enclosing true
  | '[' => skip; skipEnds (.list :: enclosing) false
  | '\x7b' => skip; skipEnds (.object :: enclosing) false
  | c =>
    if c = '-' then do skip; skipNumber; skipEnds enclosing true
    else if isAsciiDigit c then do skipNumber; skipEnds enclosing true
    else failNext .expectedValue

/-- Passes over any value, nested as deep as it may be. -/
def skipValue : Reader Unit := do
  let _ ← repeating skipStep []

end Reader

def parse (text : String) : Except String Json :=
  (Reader.any Reader.maxDepth).run text

end ShapeCoords.Json
