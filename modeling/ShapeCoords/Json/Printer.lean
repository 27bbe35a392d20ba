import ShapeCoords.Json.Value
import ShapeCoords.Number.Layout
import ShapeCoords.Text.Quoted

/-!
JSON text of a value, compact or indented by two spaces. Numbers are written as ECMAScript writes
them; zero has no sign, and what is not finite is `null`.
-/

namespace ShapeCoords.Json

def numberText (v : Float) : List Char :=
  match Number.value v with
  | .finite negative m q =>
    if m = 0 then ['0']
    else (if negative then ['-'] else []) ++ Number.ecmaScript.magnitude m q
  | _ => "null".toList

/-- A character inside a string. Quote, backslash and the controls below U+0020 are escaped. -/
def escape (c : Char) : List Char :=
  if c = '"' then ['\\', '"']
  else if c = '\\' then ['\\', '\\']
  else if c = '\x08' then ['\\', 'b']
  else if c = '\x0c' then ['\\', 'f']
  else if c = '\n' then ['\\', 'n']
  else if c = '\r' then ['\\', 'r']
  else if c = '\t' then ['\\', 't']
  else if c.toNat < 0x20 then
    ['\\', 'u', '0', '0', Text.hexDigitChar (c.toNat / 16), Text.hexDigitChar (c.toNat % 16)]
  else [c]

def quoted (s : String) : List Char :=
  '"' :: s.toList.flatMap escape ++ ['"']

mutual

def compact : Json → List Char
  | null => "null".toList
  | bool true => "true".toList
  | bool false => "false".toList
  | int i => Number.intDigits i
  | float v => numberText v
  | string s => quoted s
  | array items => '[' :: compactItems items ++ [']']
  | object members => '\x7b' :: compactMembers members ++ ['\x7d']

def compactItems : List Json → List Char
  | [] => []
  | [v] => v.compact
  | v :: w :: vs => v.compact ++ ',' :: compactItems (w :: vs)

def compactMembers : List (String × Json) → List Char
  | [] => []
  | [(name, v)] => quoted name ++ ':' :: v.compact
  | (name, v) :: m :: ms => quoted name ++ ':' :: v.compact ++ ',' :: compactMembers (m :: ms)

end

def lineBreak (depth : Nat) : List Char :=
  '\n' :: List.replicate (2 * depth) ' '

mutual

/-- The text with each item and member on a line of its own. -/
def prettyAt (depth : Nat) : Json → List Char
  | array [] => ['[', ']']
  | array (v :: vs) =>
    '[' :: lineBreak (depth + 1) ++ prettyItems (depth + 1) (v :: vs) ++ lineBreak depth ++ [']']
  | object [] => ['\x7b', '\x7d']
  | object (m :: ms) =>
    '\x7b' :: lineBreak (depth + 1) ++ prettyMembers (depth + 1) (m :: ms) ++ lineBreak depth ++
      ['\x7d']
  | v => v.compact

def prettyItems (depth : Nat) : List Json → List Char
  | [] => []
  | [v] => v.prettyAt depth
  | v :: w :: vs => v.prettyAt depth ++ ',' :: lineBreak depth ++ prettyItems depth (w :: vs)

def prettyMembers (depth : Nat) : List (String × Json) → List Char
  | [] => []
  | [(name, v)] => quoted name ++ ':' :: ' ' :: v.prettyAt depth
  | (name, v) :: m :: ms =>
    quoted name ++ ':' :: ' ' :: v.prettyAt depth ++ ',' :: lineBreak depth ++
      prettyMembers depth (m :: ms)

end

def pretty (v : Json) : List Char :=
  v.prettyAt 0

end ShapeCoords.Json
