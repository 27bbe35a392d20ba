import ShapeCoords.Json.Fault

/-!
Reading JSON text from left to right. A reader gives a value or a fault, and in both cases where it
stopped: what encloses a faulty value still looks for its own end, and a fault that has no place yet
gets the one where that search stopped.
-/

namespace ShapeCoords.Json

structure Cursor where
  rest : List Char
  offset : Nat

def Cursor.advance (c : Cursor) : Cursor :=
  match c.rest with
  | [] => c
  | x :: rest => ⟨rest, c.offset + x.utf8Size⟩

def Cursor.nextOffset (c : Cursor) : Nat :=
  match c.rest with
  | [] => c.offset
  | _ => c.offset + 1

def Reader (α : Type) : Type :=
  Cursor → Except Fault α × Cursor

namespace Reader

def pure {α : Type} (a : α) : Reader α :=
  fun c => (.ok a, c)

def bind {α β : Type} (r : Reader α) (f : α → Reader β) : Reader β :=
  fun c =>
    match r c with
    | (.ok a, c) => f a c
    | (.error e, c) => (.error e, c)

instance : Monad Reader where
  pure := Reader.pure
  bind := Reader.bind

def fail {α : Type} (cause : Cause) : Reader α :=
  fun c => (.error ⟨cause, none⟩, c)

def failHere {α : Type} (cause : Cause) : Reader α :=
  fun c => (.error ⟨cause, some c.offset⟩, c)

def failNext {α : Type} (cause : Cause) : Reader α :=
  fun c => (.error ⟨cause, some c.nextOffset⟩, c)

/-- Gives a fault without a place the one where the reader stopped. -/
def locate {α : Type} (r : Reader α) : Reader α :=
  fun c =>
    match r c with
    | (.error ⟨cause, none⟩, c) => (.error ⟨cause, some c.offset⟩, c)
    | result => result

/-- Reads what ends a value also if the value is faulty; the first fault counts. -/
def closedBy {α : Type} (r : Reader α) (close : Reader Unit) : Reader α :=
  fun c =>
    match r c with
    | (.error e, c) => (.error e, (close c).2)
    | (.ok a, c) =>
      match close c with
      | (.ok _, c) => (.ok a, c)
      | (.error e, c) => (.error e, c)

def isSpace (c : Char) : Bool :=
  c == ' ' || c == '\n' || c == '\t' || c == '\r'

def skipSpaces : List Char → Nat → Cursor
  | [], offset => ⟨[], offset⟩
  | c :: s, offset => if isSpace c then skipSpaces s (offset + 1) else ⟨c :: s, offset⟩

def here : Reader Cursor :=
  fun c => (.ok c, c)

def peek : Reader (Option Char) :=
  fun c => (.ok c.rest.head?, c)

/-- The next character after white space, which stays unread. -/
def peekToken : Reader (Option Char) :=
  fun c =>
    let c := skipSpaces c.rest c.offset
    (.ok c.rest.head?, c)

def skip : Reader Unit :=
  fun c => (.ok (), c.advance)

/-- Reads the characters of a word that is not the text's own choice. -/
def word : List Char → Reader Unit
  | [] => pure ()
  | w :: ws => fun c =>
    match c.rest with
    | [] => (.error ⟨.endInValue, some c.offset⟩, c)
    | x :: rest =>
      if x = w then word ws ⟨rest, c.offset + 1⟩
      else (.error ⟨.expectedWord, some (c.offset + 1)⟩, ⟨rest, c.offset + x.utf8Size⟩)

/-- Repeats a step that tells whether to go on, at most as often as there are characters left. -/
def loop {σ : Type} (step : σ → Reader (σ × Bool)) : Nat → σ → Reader σ
  | 0, s => pure s
  | n + 1, s => fun c =>
    match step s c with
    | (.ok (s, true), c) => loop step n s c
    | (.ok (s, false), c) => (.ok s, c)
    | (.error e, c) => (.error e, c)

/-- Repeats a step that reads at least one character each time. -/
def repeating {σ : Type} (step : σ → Reader (σ × Bool)) (s : σ) : Reader σ :=
  fun c => loop step (c.rest.length + 1) s c

def textEnd : Reader Unit := do
  if (← peekToken).isSome then failNext .trailingCharacters

def run {α : Type} (r : Reader α) (text : String) : Except String α :=
  let s := text.toList
  let whole : Reader α := do
    let a ← r
    textEnd
    return a
  match (whole ⟨s, 0⟩).1 with
  | .ok a => .ok a
  | .error f => .error (f.message s)

end Reader

end ShapeCoords.Json
