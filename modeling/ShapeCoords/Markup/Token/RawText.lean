import ShapeCoords.Markup.CharacterReference
import ShapeCoords.Markup.Token

/-!
Text in which tags do not count, except the one that ends it. The text itself is not kept.
-/

namespace ShapeCoords.Markup

open Text (isAsciiLetter lowerAscii dropWordIgnoringCase)

/-- Whether a text starts with `</name`, and the name ends there. -/
def startsEndTag (name s : List Char) : Bool :=
  match dropWordIgnoringCase ('<' :: '/' :: name) s with
  | some (c :: _) => isSpace c || c = '/' || c = '>'
  | _ => false

structure RawText where
  faults : List Fault
  /-- How many characters stand before the end tag. -/
  length : Nat
  isClosed : Bool

def RawText.extend (faults : List Fault) (r : RawText) : RawText :=
  ⟨faults ++ r.faults, r.length + 1, r.isClosed⟩

/-- Reads up to the end tag of an element. References count only in `escapable` text. The first
`skip` characters are passed over. -/
def readRawText (name : List Char) (escapable : Bool) : Nat → List Char → RawText
  | _, [] => ⟨[], 0, false⟩
  | skip + 1, _ :: s => (readRawText name escapable skip s).extend []
  | 0, c :: s =>
    if startsEndTag name (c :: s) then ⟨[], 0, true⟩
    else if c = '\x00' then (readRawText name escapable 0 s).extend [.badCharacter]
    else if c = '&' && escapable then
      let reference := CharacterReference.read false s
      (readRawText name escapable (reference.extent s) s).extend reference.faults
    else (readRawText name escapable 0 s).extend []

/-- Where in a script the next character stands. Between `<!--` and `-->` a script may hold further
ones, whose end tags do not end it. -/
inductive ScriptPlace where
  | plain
  | lessThan
  | escapeStart
  | escapeStartDash
  | escaped (dashes : Nat)
  | escapedLessThan
  | openingName (read : List Char)
  | inner (dashes : Nat)
  | innerLessThan
  | closingName (read : List Char)
  deriving DecidableEq, Repr

namespace ScriptPlace

def plainStep (c : Char) : ScriptPlace :=
  if c = '<' then .lessThan else .plain

def escapedStep (dashes : Nat) (c : Char) : ScriptPlace :=
  if c = '-' then .escaped (dashes + 1)
  else if c = '<' then .escapedLessThan
  else if c = '>' ∧ 2 ≤ dashes then .plain
  else .escaped 0

def innerStep (dashes : Nat) (c : Char) : ScriptPlace :=
  if c = '-' then .inner (dashes + 1)
  else if c = '<' then .innerLessThan
  else if c = '>' ∧ 2 ≤ dashes then .plain
  else .inner 0

def isScriptName (read : List Char) : Bool :=
  read.reverse == "script".toList

def step (c : Char) : ScriptPlace → ScriptPlace
  | .plain => plainStep c
  | .lessThan => if c = '!' then .escapeStart else plainStep c
  | .escapeStart => if c = '-' then .escapeStartDash else plainStep c
  | .escapeStartDash => if c = '-' then .escaped 2 else plainStep c
  | .escaped dashes => escapedStep dashes c
  | .escapedLessThan =>
    if c = '/' then .escaped 0
    else if isAsciiLetter c then .openingName [lowerAscii c]
    else escapedStep 0 c
  | .openingName read =>
    if isSpace c || c = '/' || c = '>' then
      if isScriptName read then .inner 0 else .escaped 0
    else if isAsciiLetter c then .openingName (lowerAscii c :: read)
    else escapedStep 0 c
  | .inner dashes => innerStep dashes c
  | .innerLessThan => if c = '/' then .closingName [] else innerStep 0 c
  | .closingName read =>
    if isSpace c || c = '/' || c = '>' then
      if isScriptName read then .escaped 0 else .inner 0
    else if isAsciiLetter c then .closingName (lowerAscii c :: read)
    else innerStep 0 c

def mayEnd : ScriptPlace → Bool
  | .inner _ | .innerLessThan | .closingName _ => false
  | _ => true

/-- Whether a script that ends with the text is faulty here. -/
def isOpen : ScriptPlace → Bool
  | .plain | .lessThan | .escapeStartDash => false
  | _ => true

end ScriptPlace

def readScript (place : ScriptPlace) : List Char → RawText
  | [] => ⟨if place.isOpen then [.endOfText] else [], 0, false⟩
  | c :: s =>
    if place.mayEnd && startsEndTag "script".toList (c :: s) then ⟨[], 0, true⟩
    else (readScript (place.step c) s).extend (if c = '\x00' then [.badCharacter] else [])

end ShapeCoords.Markup
