import ShapeCoords.Markup.Fault
import ShapeCoords.Markup.ReferenceTable
import ShapeCoords.Text.Blank
import ShapeCoords.Text.Splitting

/-!
Character references: `&` with a name or a number. The longest known name counts; what is no
reference stays as it stands.
-/

namespace ShapeCoords.Markup

open Text

def hexDigit? (c : Char) : Option Nat :=
  if '0' ≤ c ∧ c ≤ '9' then some (c.toNat - 48)
  else if 'a' ≤ c ∧ c ≤ 'f' then some (c.toNat - 87)
  else if 'A' ≤ c ∧ c ≤ 'F' then some (c.toNat - 55)
  else none

def valueInBase (base : Nat) (digits : List Char) : Nat :=
  digits.foldl (fun n c => base * n + (hexDigit? c).getD 0) 0

/-- A name, or what is left of it behind a part that was read, and what it stands for. -/
structure NamedReference where
  name : List Char
  characters : List Char
  deriving DecidableEq, Repr

/-- The reference that a word `name=points` of the table tells of. -/
def NamedReference.ofWord (word : List Char) : NamedReference :=
  match splitAtEach '=' word with
  | [name, points] =>
    ⟨name, (splitAtEach ',' points).map fun digits => Char.ofNat (valueInBase 16 digits)⟩
  | _ => ⟨[], []⟩

def namedReferences : List NamedReference :=
  referenceTable.flatMap fun line => (splitAtEach ' ' line.toList).map NamedReference.ofWord

def goingOn (c : Char) (references : List NamedReference) : List NamedReference :=
  references.filterMap fun r =>
    match r.name with
    | [] => none
    | d :: name => if d = c then some ⟨name, r.characters⟩ else none

structure NameScan where
  /-- The length of the longest name in front, and what it stands for. -/
  found : Option (Nat × List Char)
  /-- How many characters were looked at, with the one that goes on no name. -/
  looked : Nat
  /-- The character that goes on no name. -/
  stop : Option Char

def scanName (references : List NamedReference) (looked : Nat) (found : Option (Nat × List Char)) :
    List Char → NameScan
  | [] => ⟨found, looked, none⟩
  | c :: s =>
    match goingOn c references with
    | [] => ⟨found, looked + 1, some c⟩
    | references =>
      let found :=
        match references.find? fun r => r.name.isEmpty with
        | some r => some (looked + 1, r.characters)
        | none => found
      scanName references (looked + 1) found s

/-- What stands for the numbers from 0x80 to 0x9F. -/
def replacedControls : List Nat :=
  [0x20AC, 0x81, 0x201A, 0x192, 0x201E, 0x2026, 0x2020, 0x2021, 0x2C6, 0x2030, 0x160, 0x2039, 0x152,
    0x8D, 0x17D, 0x8F, 0x90, 0x2018, 0x2019, 0x201C, 0x201D, 0x2022, 0x2013, 0x2014, 0x2DC, 0x2122,
    0x161, 0x203A, 0x153, 0x9D, 0x17E, 0x178]

/-- The character of a number. Null, surrogates and what exceeds all code points are replaced. -/
def characterOf (n : Nat) : Char :=
  if n = 0 ∨ 0x10FFFF < n ∨ (0xD800 ≤ n ∧ n ≤ 0xDFFF) then '\ufffd'
  else if 0x80 ≤ n ∧ n ≤ 0x9F then Char.ofNat (replacedControls.getD (n - 0x80) n)
  else Char.ofNat n

/-- Numbers of controls, of surrogates and of what is no character. -/
def isBadNumber (n : Nat) : Bool :=
  n ≤ 8 || n == 0xB || (0xD ≤ n && n ≤ 0x1F) || (0x7F ≤ n && n ≤ 0x9F) ||
    (0xD800 ≤ n && n ≤ 0xDFFF) || (0xFDD0 ≤ n && n ≤ 0xFDEF) || n % 0x10000 ≥ 0xFFFE ||
    0x10FFFF < n

structure CharacterReference where
  faults : List Fault
  characters : List Char
  /-- How many characters behind the `&` belong to the reference. -/
  length : Nat
  /-- A lone carriage return right behind the reference is lost. -/
  losesReturn : Bool
  /-- The text that follows starts with so many characters that were looked at already. -/
  looked : Option Nat

namespace CharacterReference

def literal (faults : List Fault) (looked : Option Nat) : CharacterReference :=
  ⟨faults, ['&'], 0, false, looked⟩

def ofNumber (base marks : Nat) (s : List Char) : CharacterReference :=
  let isDigit (c : Char) : Bool := (hexDigit? c).any fun d => d < base
  let digits := s.takeWhile isDigit
  let n := valueInBase base digits
  let bad := if isBadNumber n then [.badNumber] else []
  let length := marks + digits.length
  if digits.isEmpty then literal [.referenceWithoutDigits] (some marks)
  else
    match s.dropWhile isDigit with
    | ';' :: _ => ⟨bad, [characterOf n], length + 1, false, none⟩
    | [] => ⟨.endInNumber :: bad, [characterOf n], length, false, none⟩
    | _ => ⟨.numberWithoutSemicolon :: bad, [characterOf n], length, false, none⟩

/-- How many characters of a lone carriage return stand in front. -/
def loneReturn : List Char → Nat
  | '\r' :: '\n' :: _ => 0
  | '\r' :: _ => 1
  | _ => 0

/-- How many characters behind the `&` are read with the reference; `s` stands there. -/
def extent (r : CharacterReference) (s : List Char) : Nat :=
  r.length + if r.losesReturn then loneReturn (s.drop r.length) else 0

/-- A name. In an attribute one without semicolon does not count before `=` or a letter or digit. -/
def ofName (inAttribute : Bool) (s : List Char) : CharacterReference :=
  let scan := scanName namedReferences 0 none s
  let looked (length : Nat) : Option Nat :=
    if scan.stop = some '\r' then some 1
    else if length < scan.looked then some (scan.looked - length)
    else none
  let literal (faults : List Fault) : CharacterReference :=
    { literal faults (looked 0) with losesReturn := true }
  match scan.found with
  | some (length, characters) =>
    let rest := s.drop length
    let reference (faults : List Fault) : CharacterReference :=
      ⟨faults, characters, length, true, looked length⟩
    if (s.drop (length - 1)).head? = some ';' then reference []
    else if inAttribute && rest.head? = some '=' then literal [.equalsAfterReference]
    else if inAttribute && rest.head?.any isAsciiAlphanumeric then literal []
    else reference [.referenceWithoutSemicolon]
  | none =>
    match scan.stop with
    | none => literal []
    | some c =>
      if isAsciiAlphanumeric c then
        let word := s.takeWhile isAsciiAlphanumeric
        match s.dropWhile isAsciiAlphanumeric with
        | [] => CharacterReference.literal [] (some word.length)
        | ';' :: _ => CharacterReference.literal [.unknownReference] (some (word.length + 1))
        | '\r' :: _ => CharacterReference.literal [] (some 1)
        | _ => CharacterReference.literal [] (some (word.length + 1))
      else if c = ';' ∧ 1 < scan.looked then literal [.unknownReference]
      else literal []

def read (inAttribute : Bool) (s : List Char) : CharacterReference :=
  match s with
  | [] => literal [] none
  | '#' :: [] => literal [.endAfterHash] (some 1)
  | '#' :: 'x' :: s => ofNumber 16 2 s
  | '#' :: 'X' :: s => ofNumber 16 2 s
  | '#' :: s => ofNumber 10 1 s
  | c :: s =>
    if c = '\t' ∨ c = '\n' ∨ c = '\x0c' ∨ c = ' ' ∨ c = '<' ∨ c = '&' then literal [] none
    else ofName inAttribute (c :: s)

end CharacterReference

/-- Reads the text of an attribute value, from which `skip` characters are left out. -/
def decodeValue : Nat → List Char → List Fault × List Char
  | _, [] => ([], [])
  | skip + 1, _ :: s => decodeValue skip s
  | 0, c :: s =>
    if c = '&' then
      let reference := CharacterReference.read true s
      let (faults, value) := decodeValue (reference.extent s) s
      (reference.faults ++ faults, reference.characters ++ value)
    else if c = '\x00' then
      let (faults, value) := decodeValue 0 s
      (.badCharacter :: faults, '\ufffd' :: value)
    else if c = '\r' then
      let (faults, value) := decodeValue (if s.head? = some '\n' then 1 else 0) s
      (faults, '\n' :: value)
    else
      let (faults, value) := decodeValue 0 s
      (faults, c :: value)

/-- Whether the last character of a text goes with a reference in front of it, though it is not read
as part of one. `skip` characters are passed over. -/
def lastIsLost : Nat → List Char → Bool
  | _, [] => false
  | skip + 1, _ :: s => s.isEmpty || lastIsLost skip s
  | 0, c :: s =>
    if c = '&' then lastIsLost ((CharacterReference.read true s).extent s) s else lastIsLost 0 s

end ShapeCoords.Markup
