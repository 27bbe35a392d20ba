import ShapeCoords.Yaml.Cursor
import ShapeCoords.Yaml.Token
import ShapeCoords.Yaml.Token.Scalar

/-!
Reading tags, anchors and aliases, and the directives in front of a document.
-/

namespace ShapeCoords.Yaml

/-- Reads an anchor or an alias: a sign with a name. -/
def scanAnchor (isAlias : Bool) : Scan Token := do
  let start ← Scan.mark
  Scan.skip 1
  let name ← Scan.takeWhile isNameCharacter
  let next ← Scan.peek 0
  if name.isEmpty || !(endsWord next || next.any fun c => "?:,]\x7d%@`".toList.contains c) then
    Scan.fail .expectedAnchorName (if isAlias then .scanningAlias else .scanningAnchor) start
  return ⟨if isAlias then .alias name else .anchor name, start, ← Scan.mark⟩

/-! Tags -/

def isUriCharacter (c : Char) : Bool :=
  isNameCharacter c || ";/?:@&=+$.%!~*'()".toList.contains c

/-- How many bytes a character has whose first byte is given. -/
def leadingLength? (byte : Nat) : Option Nat :=
  if byte < 0x80 then some 1
  else if byte / 0x20 = 6 then some 2
  else if byte / 0x10 = 14 then some 3
  else if byte / 8 = 30 then some 4
  else none

def scanEscapedByte (directive : Bool) (start : Mark) : Scan Nat := do
  let digits := (← get).rest.take 3
  match digits.head?, hexNumber? digits.tail with
  | some '%', some byte =>
    if digits.length = 3 then return byte
    Scan.fail .expectedEscapedByte (.parsingTagUri directive) start
  | _, _ => Scan.fail .expectedEscapedByte (.parsingTagUri directive) start

def scanTrailingBytes (directive : Bool) (start : Mark) : Nat → Scan (List UInt8)
  | 0 => return []
  | n + 1 => do
    let byte ← scanEscapedByte directive start
    if byte / 0x40 ≠ 2 then Scan.fail .wrongTrailingByte (.parsingTagUri directive) start
    Scan.skip 3
    return byte.toUInt8 :: (← scanTrailingBytes directive start n)

/-- Reads the bytes of a character, each of which is written as a percent sign with two digits. -/
def scanEscapedCharacter (directive : Bool) (start : Mark) : Scan (List UInt8) := do
  let byte ← scanEscapedByte directive start
  match leadingLength? byte with
  | none => Scan.fail .wrongLeadingByte (.parsingTagUri directive) start
  | some n =>
    Scan.skip 3
    return byte.toUInt8 :: (← scanTrailingBytes directive start (n - 1))

def asciiBytes (s : List Char) : List UInt8 :=
  s.map fun c => c.toNat.toUInt8

/-- Reads the rest of a tag's name behind its first characters. Commas and square brackets may
belong to it. A null byte, which must be escaped, cuts the name off. -/
def scanUri (directive allowsMarks : Bool) (head : List Char) (start : Mark) :
    Scan (List UInt8) := do
  let bytes ← asciiBytes (head.drop 1) |> Scan.repeating fun bytes => do
    match ← Scan.peek 0 with
    | none => return (bytes, false)
    | some c =>
      if c = '%' then return (bytes ++ (← scanEscapedCharacter directive start), true)
      else if isUriCharacter c || (allowsMarks && (c == ',' || c == '[' || c == ']')) then
        Scan.skip 1
        return (bytes ++ asciiBytes [c], true)
      else return (bytes, false)
  if head.isEmpty && bytes.isEmpty then
    Scan.fail .expectedTagUri (.parsingTagUri directive) start
  return bytes.takeWhile fun byte => byte != 0

/-- Reads a handle: two exclamation marks with a name between them. Where a tag is read, it may also
be what such a handle starts with. -/
def scanHandle (directive : Bool) (start : Mark) : Scan (List Char) := do
  if (← Scan.peek 0) ≠ some '!' then
    Scan.fail .expectedTagMark (if directive then .scanningHandle else .scanningTag) start
  Scan.skip 1
  let name ← Scan.takeWhile isNameCharacter
  if (← Scan.peek 0) = some '!' then
    Scan.skip 1
    return '!' :: name ++ ['!']
  if directive && !name.isEmpty then Scan.fail .expectedTagMark .parsingTagDirective start
  return '!' :: name

def scanTagName (start : Mark) : Scan TagName := do
  if (← Scan.peek 1) = some '<' then
    Scan.skip 2
    let suffix ← scanUri false true [] start
    if (← Scan.peek 0) ≠ some '>' then Scan.fail .expectedTagEnd .scanningTag start
    Scan.skip 1
    return ⟨[], suffix⟩
  let handle ← scanHandle false start
  if 1 < handle.length ∧ handle.getLast? = some '!' then
    return ⟨handle, ← scanUri false false [] start⟩
  let suffix ← scanUri false false handle start
  return if suffix.isEmpty then ⟨[], asciiBytes ['!']⟩ else ⟨['!'], suffix⟩

def scanTag (isFlow : Bool) : Scan Token := do
  let start ← Scan.mark
  let name ← scanTagName start
  let next ← Scan.peek 0
  if !(endsWord next || isFlow && next == some ',') then
    Scan.fail .expectedSpaceOrBreak .scanningTag start
  return ⟨.tag name, start, ← Scan.mark⟩

/-! Directives -/

/-- Reads a part of a version number: at most nine digits. -/
def scanVersionNumber (start : Mark) : Scan Nat := do
  let digits := (← get).rest.takeWhile Text.isAsciiDigit
  Scan.skip (min digits.length 9)
  if 9 < digits.length then Scan.fail .longVersionNumber .scanningVersion start
  if digits.isEmpty then Scan.fail .expectedVersionNumber .scanningVersion start
  return Number.digitsValue digits

def scanVersion (start : Mark) : Scan TokenKind := do
  let _ ← Scan.takeWhile isGap
  let major ← scanVersionNumber start
  if (← Scan.peek 0) ≠ some '.' then Scan.fail .expectedVersionPoint .scanningVersion start
  Scan.skip 1
  return .versionDirective major (← scanVersionNumber start)

def scanTagDirective (start : Mark) : Scan TokenKind := do
  let _ ← Scan.takeWhile isGap
  let handle ← scanHandle true start
  if !(← Scan.peek 0).any isGap then Scan.fail .expectedSpace .scanningTagDirective start
  let _ ← Scan.takeWhile isGap
  let replacement ← scanUri true true [] start
  if !endsWord (← Scan.peek 0) then Scan.fail .expectedSpaceOrBreak .scanningTagDirective start
  return .tagDirective handle replacement

def scanDirective : Scan Token := do
  let start ← Scan.mark
  Scan.skip 1
  let name ← Scan.takeWhile isNameCharacter
  if name.isEmpty then Scan.fail .expectedDirectiveName .scanningDirective start
  if !endsWord (← Scan.peek 0) then
    Scan.fail .unexpectedNameCharacter .scanningDirective start
  let kind ←
    if name = "YAML".toList then scanVersion start
    else if name = "TAG".toList then scanTagDirective start
    else Scan.fail .unknownDirective .scanningDirective start
  let finish ← Scan.mark
  modify Cursor.skipComment
  if !endsLine (← Scan.peek 0) then Scan.fail .expectedCommentOrBreak .scanningDirective start
  modify Cursor.skipBreak
  return ⟨kind, start, finish⟩

end ShapeCoords.Yaml
