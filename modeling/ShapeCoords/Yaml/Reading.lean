import ShapeCoords.Yaml.Document
import ShapeCoords.Yaml.Resolution

/-!
Structures from a YAML document: a map whose keys are the fields. A value that does not fit is
reported with its key and its place, or with the place of the map if it has none of its own.
-/

namespace ShapeCoords.Yaml

inductive Cause where
  | wrongType (found : Found) (expected : String)
  | wrongValue (text : String) (expected : String)
  | unknownVariant (name : String) (variants : List String)
  | unknownField (name : String) (fields : List String)
  | duplicateField (name : String)

def Cause.message : Cause → String
  | .wrongType found expected => "invalid type: " ++ found.describe ++ ", expected " ++ expected
  | .wrongValue text expected =>
    "invalid value: string " ++ Text.quote text ++ ", expected " ++ expected
  | .unknownVariant name variants =>
    "unknown variant `" ++ name ++ "`, expected " ++ Text.oneOf variants
  | .unknownField name fields => "unknown field `" ++ name ++ "`, expected " ++ Text.oneOf fields
  | .duplicateField name => "duplicate field `" ++ name ++ "`"

structure Place where
  mark : Mark
  key : Option String := none

/-- What is wrong with a document. A cause gets its place when the value around it is left. -/
inductive ReadFault where
  | form (f : Fault)
  | misfit (cause : Cause) (place : Option Place)
  | endOfDocument
  | severalDocuments

namespace ReadFault

def message : ReadFault → String
  | .form f => f.message
  | .misfit cause none => cause.message
  | .misfit cause (some p) =>
    (match p.key with
      | some key => key ++ ": "
      | none => "") ++ cause.message ++ p.mark.suffix
  | .endOfDocument => "EOF while parsing a value"
  | .severalDocuments =>
    "deserializing from YAML containing more than one document is not supported"

/-- Gives a cause its place, unless it has one. -/
def locate (p : Place) : ReadFault → ReadFault
  | .misfit cause none => .misfit cause (some p)
  | f => f

end ReadFault

abbrev Reading := Except ReadFault

namespace Reading

def fail {α : Type} (cause : Cause) : Reading α :=
  .error (.misfit cause none)

def inPlace {α : Type} (p : Place) (r : Reading α) : Reading α :=
  r.mapError (ReadFault.locate p)

end Reading

def wrongType {α : Type} (n : Node Nat) (expected : String) : Reading α :=
  match n.event with
  | .scalar s =>
    match s.found with
    | .ok found => Reading.fail (.wrongType found expected)
    | .error asked => Reading.fail (.wrongValue (String.ofList s.text) asked)
  | .listStart _ => Reading.fail (.wrongType .list expected)
  | .mapStart _ => Reading.fail (.wrongType .map expected)
  | .alias _ | .listEnd | .mapEnd => .error .endOfDocument

/-- Reads a node, or the one that it is an alias of. -/
def Document.follow {α : Type} (d : Document) (read : Place → Node Nat → Reading α)
    (key : Option String)
    (n : Node Nat) : Reading α :=
  match n.event with
  | .alias number =>
    Reading.inPlace ⟨n.mark, key⟩ <|
      match d.target? number with
      | some m => read ⟨m.mark, key⟩ m
      | none => .error .endOfDocument
  | _ => read ⟨n.mark, key⟩ n

/-- A truth value, which is a plain scalar, or a literal block with the tag of truth values. -/
def readBool (p : Place) (n : Node Nat) : Reading Bool :=
  Reading.inPlace p <|
    match n.event with
    | .scalar s =>
      let counts := s.style = .plain ∨ s.style = .literal ∧ s.tag = some boolTag
      match if counts then bool? s.text else none with
      | some b => .ok b
      | none => wrongType n "a boolean"
    | _ => wrongType n "a boolean"

def readText (expected : String) (p : Place) (n : Node Nat) : Reading String :=
  Reading.inPlace p <|
    match n.event with
    | .scalar s => .ok (String.ofList s.text)
    | _ => wrongType n expected

/-- A scalar that stands for nothing. A tag of its own does not count. -/
def readNull (p : Place) (n : Node Nat) : Reading Unit :=
  Reading.inPlace p <|
    match n.event with
    | .scalar s =>
      if s.style = .plain ∧ (s.text.isEmpty ∨ isNull s.text) then .ok () else wrongType n "unit"
    | _ => wrongType n "unit"

def variant? {α : Type} (variants : List (String × α)) (name : String) : Reading α :=
  match variants.find? fun v => v.1 == name with
  | some v => .ok v.2
  | none => Reading.fail (.unknownVariant name (variants.map Prod.fst))

def Node.tag? (n : Node Nat) : Option Tag :=
  match n.event with
  | .scalar s => s.tag
  | .listStart tag | .mapStart tag => tag
  | .alias _ | .listEnd | .mapEnd => none

/-- A variant: its name as a tag of nothing, or as a scalar. -/
def readVariant {α : Type} (variants : List (String × α)) (p : Place) (n : Node Nat) :
    Reading α := do
  match n.tag?.bind tagName? with
  | some name =>
    let a ← variant? variants name
    readNull p n
    return a
  | none =>
    match n.event with
    | .scalar s => Reading.inPlace p (variant? variants (String.ofList s.text))
    | _ => Reading.inPlace p (wrongType n "a YAML tag starting with '!'")

structure Entry (σ : Type) where
  name : String
  isSet : σ → Bool
  /-- Reads a value, which is a single node. -/
  read : Place → Node Nat → Reading (σ → σ)

namespace Document

variable {σ : Type}

/-- What a document ends with where it should go on. -/
def endFault (d : Document) : ReadFault :=
  match d.fault with
  | some f => .form f
  | none => .endOfDocument

def readKey (fields : List (Entry σ)) (p : Place) (n : Node Nat) : Reading (Entry σ) := do
  let name ← readText "field identifier" p n
  match fields.find? fun f => f.name == name with
  | some f => return f
  | none =>
    Reading.inPlace p (Reading.fail (.unknownField name (fields.map Entry.name)))

def readPairs (d : Document) (fields : List (Entry σ)) : List (Node Nat) → σ → Reading σ
  | [], _ => .error d.endFault
  | [key], parts =>
    if key.event = .mapEnd then .ok parts
    else do
      let f ← d.follow (readKey fields) none key
      if f.isSet parts then Reading.fail (.duplicateField f.name)
      else .error d.endFault
  | key :: value :: rest, parts =>
    if key.event = .mapEnd then .ok parts
    else do
      let f ← d.follow (readKey fields) none key
      if f.isSet parts then Reading.fail (.duplicateField f.name)
      let name :=
        match key.event with
        | .scalar _ => f.name
        | _ => "?"
      let set ← d.follow f.read (some name) value
      d.readPairs fields rest (set parts)

/-- Reads a structure that fills the document. An empty document leaves every field open. -/
def readFields (d : Document) (type : String) (fields : List (Entry σ)) (start : σ) :
    Reading σ := do
  let parts ←
    match d.nodes with
    | [] =>
      match d.fault with
      | some f => .error (.form f)
      | none => .ok start
    | n :: rest =>
      Reading.inPlace ⟨n.mark, none⟩ <|
        match n.event with
        | .mapStart _ => d.readPairs fields rest start
        | .scalar s =>
          if s.text.isEmpty ∧ s.style = .plain then .ok start else wrongType n type
        | _ => wrongType n type
  if let some f := d.fault then throw (.form f)
  if d.isFollowed then throw .severalDocuments
  return parts

end Document

end ShapeCoords.Yaml
