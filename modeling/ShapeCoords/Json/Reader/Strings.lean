import ShapeCoords.Json.Reader

/-!
Strings of a JSON text: their escapes and their end.
-/

namespace ShapeCoords.Json

def hexValue? (c : Char) : Option Nat :=
  if '0' ≤ c ∧ c ≤ '9' then some (c.toNat - 48)
  else if 'a' ≤ c ∧ c ≤ 'f' then some (c.toNat - 87)
  else if 'A' ≤ c ∧ c ≤ 'F' then some (c.toNat - 55)
  else none

def fourHex? (a b c d : Char) : Option Nat := do
  return (((← hexValue? a) * 16 + (← hexValue? b)) * 16 + (← hexValue? c)) * 16 + (← hexValue? d)

def byteLength (s : List Char) : Nat :=
  s.foldl (fun n c => n + c.utf8Size) 0

/-- The fault of an escape whose four hexadecimal digits should start `s`. -/
def hexFault (s : List Char) (offset : Nat) : Fault :=
  let left := byteLength s
  if left < 4 then ⟨.endInString, some (offset + left)⟩ else ⟨.invalidEscape, some (offset + 4)⟩

def simpleEscape? (c : Char) : Option Char :=
  if c = '"' ∨ c = '\\' ∨ c = '/' then some c
  else if c = 'b' then some '\x08'
  else if c = 'f' then some '\x0c'
  else if c = 'n' then some '\n'
  else if c = 'r' then some '\r'
  else if c = 't' then some '\t'
  else none

def joinSurrogates (high low : Nat) : Char :=
  Char.ofNat (0x10000 + (high - 0xD800) * 0x400 + (low - 0xDC00))

/-- Reads a string behind its opening quote; `read` holds what was read, last character first. -/
def stringBody (read : List Char) : List Char → Nat → Except Fault String × Cursor
  | [], o => (.error ⟨.endInString, some o⟩, ⟨[], o⟩)
  | '"' :: s, o => (.ok (String.ofList read.reverse), ⟨s, o + 1⟩)
  | '\\' :: 'u' :: a :: b :: c :: d :: s, o =>
    match fourHex? a b c d with
    | none => (.error (hexFault (a :: b :: c :: d :: s) (o + 2)), ⟨s, o + 6⟩)
    | some n =>
      if 0xDC00 ≤ n ∧ n ≤ 0xDFFF then (.error ⟨.loneSurrogate, some (o + 6)⟩, ⟨s, o + 6⟩)
      else if 0xD800 ≤ n ∧ n ≤ 0xDBFF then
        match s with
        | '\\' :: 'u' :: e :: f :: g :: h :: s =>
          match fourHex? e f g h with
          | none => (.error (hexFault (e :: f :: g :: h :: s) (o + 8)), ⟨s, o + 12⟩)
          | some m =>
            if 0xDC00 ≤ m ∧ m ≤ 0xDFFF then stringBody (joinSurrogates n m :: read) s (o + 12)
            else (.error ⟨.loneSurrogate, some (o + 12)⟩, ⟨s, o + 12⟩)
        | '\\' :: 'u' :: s => (.error (hexFault s (o + 8)), ⟨s, o + 8⟩)
        | ['\\'] => (.error ⟨.endInString, some (o + 7)⟩, ⟨[], o + 7⟩)
        | '\\' :: _ :: s => (.error ⟨.unpairedEscape, some (o + 8)⟩, ⟨s, o + 8⟩)
        | [] => (.error ⟨.endInString, some (o + 6)⟩, ⟨[], o + 6⟩)
        | _ :: s => (.error ⟨.unpairedEscape, some (o + 7)⟩, ⟨s, o + 7⟩)
      else stringBody (Char.ofNat n :: read) s (o + 6)
  | '\\' :: 'u' :: s, o => (.error (hexFault s (o + 2)), ⟨s, o + 2⟩)
  | ['\\'], o => (.error ⟨.endInString, some (o + 1)⟩, ⟨[], o + 1⟩)
  | '\\' :: c :: s, o =>
    match simpleEscape? c with
    | some e => stringBody (e :: read) s (o + 2)
    | none => (.error ⟨.invalidEscape, some (o + 2)⟩, ⟨s, o + 1 + c.utf8Size⟩)
  | c :: s, o =>
    if c.toNat < 0x20 then (.error ⟨.controlCharacter, some (o + 1)⟩, ⟨s, o + 1⟩)
    else stringBody (c :: read) s (o + c.utf8Size)

/-- Passes over a string behind its opening quote. Surrogates need not be paired in it. -/
def skipStringBody : List Char → Nat → Except Fault Unit × Cursor
  | [], o => (.error ⟨.endInString, some o⟩, ⟨[], o⟩)
  | '"' :: s, o => (.ok (), ⟨s, o + 1⟩)
  | '\\' :: 'u' :: a :: b :: c :: d :: s, o =>
    match fourHex? a b c d with
    | none => (.error (hexFault (a :: b :: c :: d :: s) (o + 2)), ⟨s, o + 6⟩)
    | some _ => skipStringBody s (o + 6)
  | '\\' :: 'u' :: s, o => (.error (hexFault s (o + 2)), ⟨s, o + 2⟩)
  | ['\\'], o => (.error ⟨.endInString, some (o + 1)⟩, ⟨[], o + 1⟩)
  | '\\' :: c :: s, o =>
    match simpleEscape? c with
    | some _ => skipStringBody s (o + 2)
    | none => (.error ⟨.invalidEscape, some (o + 2)⟩, ⟨s, o + 1 + c.utf8Size⟩)
  | c :: s, o =>
    if c.toNat < 0x20 then (.error ⟨.controlCharacter, some o⟩, ⟨c :: s, o⟩)
    else skipStringBody s (o + c.utf8Size)

namespace Reader

def string : Reader String :=
  fun c => stringBody [] c.rest c.offset

def skipString : Reader Unit :=
  fun c => skipStringBody c.rest c.offset

end Reader

end ShapeCoords.Json
