import ShapeCoords.Markup.Token.Comment
import ShapeCoords.Markup.Token.Doctype
import ShapeCoords.Markup.Token.RawText
import ShapeCoords.Markup.Token.Tag

/-!
The tokens of a text from left to right. What kind of content the text has at a place is not up to
the tokens alone: the elements around that place decide it.
-/

namespace ShapeCoords.Markup

open Text (dropWord dropWordIgnoringCase isAsciiLetter lowerAscii)

inductive Content where
  | markup
  /-- No tags but the end tag of the element with a name, but references. -/
  | escapable (name : String)
  /-- No tags but the end tag of the element with a name, and no references. -/
  | raw (name : String)
  | script
  /-- No tags at all. -/
  | plain
  deriving DecidableEq, Repr

structure Source where
  rest : List Char
  /-- A run of characters ends behind so many of them, as they were looked at before. -/
  runLimit : Option Nat := none
  deriving Repr

abbrev Reading := List Item × Source

def textItem (s : List Char) : Item :=
  .token (.text s)

def readingOf (r : List Item × List Char) : Reading :=
  (r.1, ⟨r.2, none⟩)

def readingOfTag (r : TagReading) (s : List Char) : Reading :=
  match r with
  | .complete t faults length => (faults.map .fault ++ [.token (.tag t)], ⟨s.drop length, none⟩)
  | .cut _ faults => (faults.map .fault, ⟨[], none⟩)

/-- Reads a newline behind a carriage return, which together with `\n` is one. -/
def afterReturn (s : List Char) : Reading :=
  match s with
  | '\n' :: s => ([textItem ['\n']], ⟨s, some 1⟩)
  | s => ([textItem ['\n']], ⟨s, some 1⟩)

def readRun (p : Char → Bool) (src : Source) : Reading :=
  let run := src.rest.takeWhile p
  let run := match src.runLimit with
    | some n => run.take (max n 1)
    | none => run
  ([textItem run], ⟨src.rest.drop run.length, none⟩)

def readDeclaration (foreign : Bool) (s : List Char) : Reading :=
  match dropWord "--".toList s, dropWordIgnoringCase "doctype".toList s with
  | some s, _ => readingOf (readComment .start s)
  | none, some s => readingOf (readDoctype .start {} 0 s)
  | none, none =>
    match foreign, dropWord "[CDATA[".toList s with
    | true, some s => readingOf (readLiteral [] s)
    | _, _ =>
      let (items, rest) := readBogusComment s
      (.fault .badCharacter :: items, ⟨rest, none⟩)

def readEndTag (s : List Char) : Reading :=
  match s with
  | [] => ([.fault .endOfText, textItem ['<'], textItem ['/']], ⟨[], none⟩)
  | '>' :: s => ([.fault .badCharacter], ⟨s, none⟩)
  | c :: s =>
    if isAsciiLetter c then
      readingOfTag (readTag .name { kind := .closing, name := [lowerAscii c] } 0 s) s
    else
      let (items, rest) := readBogusComment s
      (.fault .badCharacter :: items, ⟨rest, none⟩)

def readAngle (foreign : Bool) (s : List Char) : Reading :=
  match s with
  | [] => ([.fault .endOfText, textItem ['<']], ⟨[], none⟩)
  | '!' :: s => readDeclaration foreign s
  | '/' :: s => readEndTag s
  | '?' :: s =>
    let (items, rest) := readBogusComment s
    (.fault .badCharacter :: items, ⟨rest, none⟩)
  | c :: s =>
    if isAsciiLetter c then
      readingOfTag (readTag .name { kind := .opening, name := [lowerAscii c] } 0 s) s
    else ([.fault .badCharacter, textItem ['<']], ⟨c :: s, some 1⟩)

def readReference (s : List Char) : Reading :=
  let reference := CharacterReference.read false s
  (reference.faults.map .fault ++ reference.characters.map (fun c => textItem [c]),
    ⟨s.drop (reference.extent s), reference.looked⟩)

/-- A character that starts something other than a run of text. -/
def isMarkupStart (c : Char) : Bool :=
  c == '\x00' || c == '&' || c == '<' || c == '\n' || c == '\r'

def nextInMarkup (foreign : Bool) (src : Source) : Reading :=
  match src.rest with
  | [] => ([], src)
  | c :: s =>
    if c = '<' then readAngle foreign s
    else if c = '&' then readReference s
    else if c = '\n' then ([textItem ['\n']], ⟨s, none⟩)
    else if c = '\r' then afterReturn s
    else if c = '\x00' then ([.fault .badCharacter, .token .null], ⟨s, none⟩)
    else readRun (fun c => !isMarkupStart c) src

def nextInPlain (src : Source) : Reading :=
  match src.rest with
  | [] => ([], src)
  | c :: s =>
    if c = '\n' then ([textItem ['\n']], ⟨s, none⟩)
    else if c = '\r' then afterReturn s
    else if c = '\x00' then ([.fault .badCharacter, textItem ['\ufffd']], ⟨s, none⟩)
    else readRun (fun c => !(c == '\x00' || c == '\n' || c == '\r')) src

def nextInRaw (name : List Char) (r : RawText) (s : List Char) : Reading :=
  let faults := r.faults.map Item.fault
  if r.isClosed then
    let s := s.drop (r.length + 2 + name.length)
    let (items, src) :=
      readingOfTag (readTag .name { kind := .closing, name := name.reverse } 0 s) s
    (faults ++ items, src)
  else (faults, ⟨[], none⟩)

def Source.next (src : Source) (foreign : Bool) : Content → Reading
  | .markup => nextInMarkup foreign src
  | .plain => nextInPlain src
  | .escapable name => nextInRaw name.toList (readRawText name.toList true 0 src.rest) src.rest
  | .raw name => nextInRaw name.toList (readRawText name.toList false 0 src.rest) src.rest
  | .script => nextInRaw "script".toList (readScript .plain src.rest) src.rest

end ShapeCoords.Markup
