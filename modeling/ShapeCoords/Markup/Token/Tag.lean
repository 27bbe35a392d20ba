import ShapeCoords.Markup.CharacterReference
import ShapeCoords.Markup.Token

/-!
Reading a tag, one character after the other, up to its `>`. A text that ends before it has no tag.
-/

namespace ShapeCoords.Markup

open Text (lowerAscii)

inductive TagPlace where
  | name
  | beforeAttribute
  | attributeName
  | afterAttributeName
  | beforeValue
  | quoted (mark : Char)
  | unquoted
  | afterValue
  | afterSlash
  deriving DecidableEq, Repr

/-- A tag of which some characters are still to come. Texts are held last character first. -/
structure TagDraft where
  kind : TagKind
  /-- Values are kept as they stand, references in them too. -/
  keepsValues : Bool := false
  name : List Char := []
  attributes : List Attribute := []
  /-- The name of the attribute that is not among the others yet. -/
  attributeName : List Char := []
  value : List Char := []
  faults : List Fault := []
  deriving Repr

namespace TagDraft

def report (f : Fault) (d : TagDraft) : TagDraft :=
  { d with faults := f :: d.faults }

/-- Puts the last attribute to the others, unless there is one with its name. -/
def closeAttribute (d : TagDraft) : TagDraft :=
  if d.attributeName.isEmpty then d
  else
    let a : Attribute := ⟨String.ofList d.attributeName.reverse, String.ofList d.value.reverse⟩
    let d := { d with attributeName := [], value := [] }
    if d.attributes.any fun b => b.name == a.name then d.report .duplicateAttribute
    else { d with attributes := a :: d.attributes }

def nameFault? (odd : List Char) (c : Char) : Option Fault :=
  if c = '\x00' ∨ c ∈ odd then some .badCharacter else none

def nameCharacter (c : Char) : Char :=
  if c = '\x00' then '\ufffd' else lowerAscii c

def extendName (c : Char) (d : TagDraft) : TagDraft :=
  { d with
    name := nameCharacter c :: d.name
    faults := (nameFault? [] c).toList ++ d.faults }

def extendAttributeName (c : Char) (d : TagDraft) : TagDraft :=
  { d with
    attributeName := nameCharacter c :: d.attributeName
    faults := (nameFault? ['"', '\'', '<'] c).toList ++ d.faults }

def openAttribute (c : Char) (d : TagDraft) : TagDraft :=
  let faults := (nameFault? ['"', '\'', '<', '='] c).toList ++ d.faults
  let d := { d with faults := faults }.closeAttribute
  { d with attributeName := [nameCharacter c] }

/-- Ends the value that was read character by character. What references in it mean hangs on the
character behind it too; `mark` stands for that one. -/
def closeValue (mark : Char) (d : TagDraft) : TagDraft :=
  if d.keepsValues then d
  else
    let (faults, value) := decodeValue 0 (d.value.reverse ++ [mark])
    { d with value := value.dropLast.reverse, faults := faults.reverse ++ d.faults }

def abandon (place : TagPlace) (d : TagDraft) : List Fault :=
  let inValue :=
    match place with
    | .quoted _ | .unquoted => (decodeValue 0 d.value.reverse).1
    | _ => []
  d.faults.reverse ++ inValue ++ [.endOfText]

def extendValue (c : Char) (d : TagDraft) : TagDraft :=
  { d with value := c :: d.value }

def close (selfClosing : Bool) (d : TagDraft) : Tag × List Fault :=
  let d := d.closeAttribute
  let onEnd :=
    match d.kind with
    | .opening => []
    | .closing =>
      (if d.attributes.isEmpty then [] else [Fault.attributesOnEndTag]) ++
        (if selfClosing then [Fault.selfClosingEndTag] else [])
  (⟨d.kind, String.ofList d.name.reverse, d.attributes.reverse, selfClosing⟩,
    d.faults.reverse ++ onEnd)

end TagDraft

inductive TagStep where
  | goOn (place : TagPlace) (d : TagDraft)
  | complete (selfClosing : Bool) (d : TagDraft)

/-- A character where an attribute may start. -/
def TagDraft.stepBefore (d : TagDraft) (c : Char) : TagStep :=
  if isSpace c then .goOn .beforeAttribute d
  else if c = '/' then .goOn .afterSlash d
  else if c = '>' then .complete false d
  else .goOn .attributeName (d.openAttribute c)

/-- A character where an attribute's name may have ended. -/
def TagDraft.stepAfterName (d : TagDraft) (c : Char) : TagStep :=
  if isSpace c then .goOn .afterAttributeName d
  else if c = '=' then .goOn .beforeValue d
  else d.stepBefore c

def TagDraft.step (d : TagDraft) (c : Char) : TagPlace → TagStep
  | .name =>
    if isSpace c || c = '/' || c = '>' then d.stepBefore c else .goOn .name (d.extendName c)
  | .beforeAttribute => d.stepBefore c
  | .attributeName =>
    if isSpace c || c = '/' || c = '>' || c = '=' then d.stepAfterName c
    else .goOn .attributeName (d.extendAttributeName c)
  | .afterAttributeName => d.stepAfterName c
  | .beforeValue =>
    if isSpace c then .goOn .beforeValue d
    else if c = '"' ∨ c = '\'' then .goOn (.quoted c) d
    else if c = '>' then .complete false (d.report .badCharacter)
    else .goOn .unquoted (d.extendValue c)
  | .quoted mark =>
    if c = mark then .goOn .afterValue (d.closeValue mark)
    else .goOn (.quoted mark) (d.extendValue c)
  | .unquoted =>
    if c = '\r' ∧ !d.keepsValues ∧ lastIsLost 0 (c :: d.value).reverse then
      .goOn .unquoted (d.extendValue c)
    else if isSpace c || c = '>' then (d.closeValue '>').stepBefore c
    else .goOn .unquoted (d.extendValue c)
  | .afterValue =>
    if isSpace c || c = '/' || c = '>' then d.stepBefore c
    else (d.report .badCharacter).stepBefore c
  | .afterSlash =>
    if c = '>' then .complete true d else (d.report .badCharacter).stepBefore c

inductive TagReading where
  /-- A tag, the faults in it, and how many characters of the text belong to it. -/
  | complete (t : Tag) (faults : List Fault) (length : Nat)
  /-- The text ended first. The name of the tag is known if it was complete. -/
  | cut (name : Option String) (faults : List Fault)

/-- Reads the rest of a tag, `n` characters of which were read before. -/
def readTag (place : TagPlace) (d : TagDraft) (n : Nat) : List Char → TagReading
  | [] =>
    let name := match place with
      | .name => none
      | _ => some (String.ofList d.name.reverse)
    .cut name (d.abandon place)
  | c :: s =>
    match d.step c place with
    | .goOn place d => readTag place d (n + 1) s
    | .complete selfClosing d =>
      let (tag, faults) := d.close selfClosing
      .complete tag faults (n + 1)

end ShapeCoords.Markup
