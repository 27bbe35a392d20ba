import ShapeCoords.Json.Reader.Values

/-!
Reading structures: an object whose members are the fields, or a list of the fields in their order;
and variants, which are given by name.
-/

namespace ShapeCoords.Json

structure Schema.Field (σ : Type) where
  name : String
  isSet : σ → Bool
  /-- Reads a value for the field from a text. -/
  reader : Reader (σ → σ)
  /-- Takes a value for the field from a value of any type. -/
  ofJson : Json → Option (σ → σ)

structure Schema (σ α : Type) where
  /-- What messages call the structure. -/
  name : String
  fields : List (Schema.Field σ)
  start : σ
  /-- The structure of its parts, or the first field that is missing. -/
  finish : σ → Except String α
  /-- A field that is not given has a default. -/
  hasDefaults : Bool
  /-- A name that is no field's is refused; otherwise its value is passed over. -/
  isClosed : Bool

namespace Schema

open Reader

variable {σ α : Type}

def expectedLength (s : Schema σ α) : String :=
  let n := s.fields.length
  s.name ++ " with " ++ String.ofList (Number.digitsOf n) ++
    if n = 1 then " element" else " elements"

/-- Reads fields from the items of a list; `i` of them were read before. -/
def readItems (s : Schema σ α) : List (Field σ) → Nat → σ → Reader σ
  | [], _, parts => return parts
  | f :: fs, i, parts => do
    if ← nextItem (i == 0) then
      let set ← f.reader
      readItems s fs (i + 1) (set parts)
    else if s.hasDefaults then return parts
    else fail (.wrongLength i s.expectedLength)

def readMember (s : Schema σ α) (name : String) (parts : σ) : Reader σ :=
  match s.fields.find? fun f => f.name == name with
  | some f =>
    if f.isSet parts then fail (.duplicateField name)
    else do
      colon
      let set ← f.reader
      return set parts
  | none =>
    if s.isClosed then fail (.unknownField name (s.fields.map Field.name))
    else do
      colon
      skipValue
      return parts

def complete (s : Schema σ α) (parts : σ) : Reader α :=
  match s.finish parts with
  | .ok a => return a
  | .error name => fail (.missingField name)

def reader (s : Schema σ α) : Reader α := do
  let c ← valueStart
  locate <|
    match c with
    | '[' => do
      skip
      let whole : Reader α := do
        let parts ← s.readItems s.fields 0 s.start
        s.complete parts
      whole.closedBy listEnd
    | '\x7b' => do
      skip
      let whole : Reader α := do
        let parts ← eachMember s.readMember s.start
        s.complete parts
      whole.closedBy objectEnd
    | _ => wrongType s.name

/-- Sets fields in their order. There must be a value for each, and none may be left. -/
def ofItems : List (Field σ) → List Json → σ → Option σ
  | [], [], parts => some parts
  | f :: fs, v :: vs, parts => do
    let set ← f.ofJson v
    ofItems fs vs (set parts)
  | _, _, _ => none

def ofMember (s : Schema σ α) (parts : σ) (m : String × Json) : Option σ :=
  match s.fields.find? fun f => f.name == m.1 with
  | some f => if f.isSet parts then none else (f.ofJson m.2).map fun set => set parts
  | none => if s.isClosed then none else some parts

def ofJson (s : Schema σ α) : Json → Option α
  | .array items => do
    let parts ← ofItems s.fields items s.start
    (s.finish parts).toOption
  | .object members => do
    let parts ← members.foldlM s.ofMember s.start
    (s.finish parts).toOption
  | _ => none

end Schema

namespace Reader

/-- Reads the name of a variant, where a string must stand. -/
def variantName {α : Type} (variants : List (String × α)) : Reader α := do
  let c ← valueStart
  locate <|
    match c with
    | '"' => do
      skip
      let name ← string
      match variants.find? fun v => v.1 == name with
      | some v => return v.2
      | none => fail (.unknownVariant name (variants.map Prod.fst))
    | _ => wrongType "variant identifier"

def unit : Reader Unit := do
  match ← valueStart with
  | 'n' => skip; word ['u', 'l', 'l']
  | _ => wrongType "unit"

/-- Reads a variant: its name, or an object with the name alone and the value `null`. -/
def variant {α : Type} (variants : List (String × α)) : Reader α := do
  match ← valueStart with
  | '"' => variantName variants
  | '\x7b' =>
    skip
    let a ← variantName variants
    colon
    unit
    match ← peekToken with
    | some '\x7d' => skip; return a
    | some _ => failHere .expectedValue
    | none => failHere .endInObject
  | _ => failNext .expectedValue

end Reader

end ShapeCoords.Json
