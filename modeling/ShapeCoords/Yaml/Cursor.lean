import ShapeCoords.Text.Blank
import ShapeCoords.Yaml.Fault

/-!
Reading a YAML text from left to right: the classes of its characters, and the steps over them.
-/

namespace ShapeCoords.Yaml

structure Cursor where
  rest : List Char
  mark : Mark := {}
  deriving Inhabited

def isGap (c : Char) : Bool :=
  c == ' ' || c == '\t'

def isBreak (c : Char) : Bool :=
  c == '\r' || c == '\n' || c == '\u0085' || c == '\u2028' || c == '\u2029'

def isNameCharacter (c : Char) : Bool :=
  Text.isAsciiAlphanumeric c || c == '_' || c == '-'

def endsLine : Option Char → Bool
  | none => true
  | some c => isBreak c

/-- Whether there is no character, or one between words or lines. -/
def endsWord : Option Char → Bool
  | none => true
  | some c => isGap c || isBreak c

namespace Cursor

def skip (c : Cursor) (n : Nat) : Cursor :=
  ⟨c.rest.drop n, { c.mark with index := c.mark.index + n, column := c.mark.column + n }⟩

def skipWhile (p : Char → Bool) (c : Cursor) : Cursor :=
  c.skip (c.rest.takeWhile p).length

/-- Steps over a line break, of two characters if it is a return with a newline, and tells what it
stands for in a scalar. Elsewhere it stays. -/
def readBreak (c : Cursor) : List Char × Cursor :=
  let next (n : Nat) (rest : List Char) : Cursor :=
    ⟨rest, ⟨c.mark.index + n, c.mark.line + 1, 0⟩⟩
  match c.rest with
  | '\r' :: '\n' :: rest => (['\n'], next 2 rest)
  | x :: rest =>
    if x = '\u2028' ∨ x = '\u2029' then ([x], next 1 rest)
    else if isBreak x then (['\n'], next 1 rest)
    else ([], c)
  | [] => ([], c)

def skipBreak (c : Cursor) : Cursor :=
  c.readBreak.2

/-- Steps over gaps and over a comment, up to the end of its line. -/
def skipComment (c : Cursor) : Cursor :=
  let c := c.skipWhile isGap
  if c.rest.head? = some '#' then c.skipWhile fun x => !isBreak x else c

/-- Whether `---` or `...` stands alone at the start of a line. -/
def isDocumentMark (c : Cursor) : Bool :=
  c.mark.column == 0 && endsWord c.rest[3]? &&
    (c.rest.take 3 == ['-', '-', '-'] || c.rest.take 3 == ['.', '.', '.'])

end Cursor

abbrev Scan := StateT Cursor (Except Fault)

namespace Scan

def mark : Scan Mark :=
  return (← get).mark

def peek (n : Nat) : Scan (Option Char) :=
  return (← get).rest[n]?

def skip (n : Nat) : Scan Unit :=
  modify fun c => c.skip n

def takeWhile (p : Char → Bool) : Scan (List Char) := do
  let c ← get
  set (c.skipWhile p)
  return c.rest.takeWhile p

def fail {α : Type} (problem : Problem) (activity : Activity) (start : Mark) : Scan α := do
  throw (.misplaced problem (← mark) (some (activity, start)))

/-- Repeats a step that tells whether to go on, and that reads at least one character if so. -/
def repeating {σ : Type} (step : σ → Scan (σ × Bool)) (s : σ) : Scan σ := do
  loop ((← get).rest.length + 1) s
where
  loop : Nat → σ → Scan σ
    | 0, s => return s
    | n + 1, s => do
      match ← step s with
      | (s, true) => loop n s
      | (s, false) => return s

end Scan

end ShapeCoords.Yaml
