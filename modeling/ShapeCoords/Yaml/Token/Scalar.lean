import ShapeCoords.Yaml.Cursor
import ShapeCoords.Yaml.Token

/-!
Reading scalars: plain ones, quoted ones, and blocks of indented lines. A single line break inside a
scalar is a space, unless the scalar is a literal block; further ones stay.
-/

namespace ShapeCoords.Yaml

structure Gap where
  spaces : List Char := []
  /-- A line break was met; spaces no longer count. -/
  isBroken : Bool := false
  firstBreak : List Char := []
  breaks : List Char := []

def Gap.fold (g : Gap) : List Char :=
  if !g.isBroken then g.spaces
  else if g.firstBreak = ['\n'] then if g.breaks.isEmpty then [' '] else g.breaks
  else g.firstBreak ++ g.breaks

/-- Reads white space. On a new line a tab must not stand left of column `least`. -/
def scanGap (least : Int) (start : Mark) (g : Gap) : Scan Gap :=
  g |> Scan.repeating fun g => do
    let c ← get
    match c.rest.head? with
    | none => return (g, false)
    | some x =>
      if isGap x then
        if g.isBroken ∧ c.mark.column < least ∧ x = '\t' then
          Scan.fail .tabInIndentation .scanningPlainScalar start
        Scan.skip 1
        return (if g.isBroken then g else { g with spaces := g.spaces ++ [x] }, true)
      else if isBreak x then
        let (kept, next) := c.readBreak
        set next
        if g.isBroken then return ({ g with breaks := g.breaks ++ kept }, true)
        return ({ g with spaces := [], isBroken := true, firstBreak := kept }, true)
      else return (g, false)

/-! Plain scalars -/

def isFlowMark (c : Char) : Bool :=
  c == ',' || c == '[' || c == ']' || c == '\x7b' || c == '\x7d'

/-- Whether a colon between brackets or braces stands before a character that it must not join. -/
def isStrayColon : List Char → Bool
  | ':' :: c :: _ => isFlowMark c || c == '?'
  | _ => false

def plainWord (isFlow : Bool) : List Char → List Char
  | [] => []
  | c :: s =>
    if isGap c || isBreak c || (c = ':' && endsWord s.head?) then []
    else if isFlow && (isFlowMark c || isStrayColon (c :: s)) then []
    else c :: plainWord isFlow s

structure PlainDraft where
  text : List Char := []
  gap : Gap := {}
  finish : Mark

/-- Reads a plain scalar inside a block of some indentation. Also tells whether a line break follows
it. -/
def scanPlain (isFlow : Bool) (indent : Int) : Scan (Token × Bool) := do
  let start ← Scan.mark
  let d : PlainDraft := { finish := start }
  let d ← d |> Scan.repeating fun d => do
    let c ← get
    if c.isDocumentMark || c.rest.head? = some '#' then return (d, false)
    let word := plainWord isFlow c.rest
    Scan.skip word.length
    if isFlow && isStrayColon (← get).rest then
      Scan.fail .unexpectedColon .scanningPlainScalar start
    let d ← if word.isEmpty then pure d
      else pure ⟨d.text ++ d.gap.fold ++ word, {}, ← Scan.mark⟩
    let next ← Scan.peek 0
    if next.isNone || !endsWord next then return (d, false)
    let gap ← scanGap (indent + 1) start d.gap
    return ({ d with gap }, isFlow || indent + 1 ≤ (← Scan.mark).column)
  return (⟨.scalar d.text .plain, start, d.finish⟩, d.gap.isBroken)

/-! Quoted scalars -/

def unescape? : Char → Option Char
  | '0' => some '\x00'
  | 'a' => some '\x07'
  | 'b' => some '\x08'
  | 't' => some '\t'
  | '\t' => some '\t'
  | 'n' => some '\n'
  | 'v' => some '\x0b'
  | 'f' => some '\x0c'
  | 'r' => some '\r'
  | 'e' => some '\x1b'
  | ' ' => some ' '
  | '"' => some '"'
  | '/' => some '/'
  | '\\' => some '\\'
  | 'N' => some '\u0085'
  | '_' => some '\u00a0'
  | 'L' => some '\u2028'
  | 'P' => some '\u2029'
  | _ => none

/-- How many digits follow a backslash with a character. -/
def escapeLength? : Char → Option Nat
  | 'x' => some 2
  | 'u' => some 4
  | 'U' => some 8
  | _ => none

def hexValue? (c : Char) : Option Nat :=
  if Text.isAsciiDigit c then some (c.toNat - 48)
  else if 'a' ≤ c ∧ c ≤ 'f' then some (c.toNat - 87)
  else if 'A' ≤ c ∧ c ≤ 'F' then some (c.toNat - 55)
  else none

def hexNumber? (digits : List Char) : Option Nat :=
  digits.foldlM (fun n c => (hexValue? c).map fun d => 16 * n + d) 0

def scanEscape (start : Mark) : Scan Char := do
  let mark ← Scan.peek 1
  match mark.bind unescape?, mark.bind escapeLength? with
  | some c, _ => Scan.skip 2; return c
  | none, none => Scan.fail .unknownEscape .parsingEscape start
  | none, some n =>
    Scan.skip 2
    let digits := (← get).rest.take n
    match hexNumber? digits with
    | some value =>
      if digits.length < n then Scan.fail .expectedHexDigit .parsingEscape start
      if !value.isValidChar then Scan.fail .invalidEscapedCharacter .parsingEscape start
      Scan.skip n
      return Char.ofNat value
    | none => Scan.fail .expectedHexDigit .parsingEscape start

/-- Reads the characters of a quoted scalar up to white space or to its end. Also tells whether they
end in an escaped line break. -/
def scanQuotedWord (mark : Char) (start : Mark) : Scan (List Char × Bool) :=
  ([], false) |> Scan.repeating fun (text, _) => do
    let c ← get
    match c.rest with
    | [] => return ((text, false), false)
    | x :: rest =>
      if isGap x || isBreak x then return ((text, false), false)
      if x = mark then
        if mark = '\'' ∧ rest.head? = some '\'' then
          Scan.skip 2
          return ((text ++ [x], false), true)
        return ((text, false), false)
      if mark = '"' ∧ x = '\\' then
        if rest.head?.any isBreak then
          Scan.skip 1
          modify Cursor.skipBreak
          return ((text, true), false)
        let x ← scanEscape start
        return ((text ++ [x], false), true)
      Scan.skip 1
      return ((text ++ [x], false), true)

def scanQuoted (mark : Char) : Scan Token := do
  let start ← Scan.mark
  Scan.skip 1
  let text ← [] |> Scan.repeating fun text => do
    if (← get).isDocumentMark then Scan.fail .documentMarkInQuotes .scanningQuotes start
    if (← Scan.peek 0).isNone then Scan.fail .endInQuotes .scanningQuotes start
    let (word, isBroken) ← scanQuotedWord mark start
    if (← Scan.peek 0) = some mark then return (text ++ word, false)
    let gap ← scanGap 0 start { isBroken }
    return (text ++ word ++ gap.fold, true)
  Scan.skip 1
  return ⟨.scalar text (if mark = '"' then .doubleQuoted else .singleQuoted), start, ← Scan.mark⟩

/-! Block scalars -/

inductive Chomping where
  | strip
  | clip
  | keep
  deriving DecidableEq

structure EmptyLines where
  /-- The column in which lines start. -/
  indent : Nat
  breaks : List Char := []
  finish : Mark

/-- Reads spaces and empty lines, up to the column in which lines start. If that is not known yet,
the line with the most spaces tells, but it is right of the block around. -/
def scanEmptyLines (parent : Int) (start : Mark) (indent : Option Nat) : Scan EmptyLines := do
  let isLeft (column : Nat) : Bool :=
    match indent with
    | some n => column < n
    | none => true
  let draft := (0, [], ← Scan.mark)
  let (most, breaks, finish) ← draft |> Scan.repeating fun (most, breaks, finish) => do
    let c ← get
    let spaces := (c.rest.takeWhile fun x => x == ' ').length
    Scan.skip <|
      match indent with
      | some n => min spaces (n - c.mark.column)
      | none => spaces
    let c ← get
    let most := max most c.mark.column
    if isLeft c.mark.column ∧ c.rest.head? = some '\t' then
      Scan.fail .tabForIndentation .scanningBlockScalar start
    if c.rest.head?.any isBreak then
      let (kept, next) := c.readBreak
      set next
      return ((most, breaks ++ kept, next.mark), true)
    return ((most, breaks, finish), false)
  return ⟨indent.getD (max most (max 1 (parent + 1).toNat)), breaks, finish⟩

/-- Reads the marks behind the sign of a block: which breaks stay at its end, and how far it is
indented. They come in any order. -/
def scanBlockMarks (start : Mark) : Scan (Chomping × Option Nat) := do
  let chomping : Scan (Option Chomping) := do
    match ← Scan.peek 0 with
    | some '+' => Scan.skip 1; return some .keep
    | some '-' => Scan.skip 1; return some .strip
    | _ => return none
  let increment : Scan (Option Nat) := do
    match ← Scan.peek 0 with
    | some c =>
      if !Text.isAsciiDigit c then return none
      if c = '0' then Scan.fail .zeroIndentation .scanningBlockScalar start
      Scan.skip 1
      return some (c.toNat - 48)
    | none => return none
  match ← chomping with
  | some ends => return (ends, ← increment)
  | none =>
    let n ← increment
    let ends ← if n.isSome then chomping else pure none
    return (ends.getD .clip, n)

structure BlockDraft where
  text : List Char := []
  /-- The break at the end of the last line. -/
  lastBreak : List Char := []
  /-- The last line starts with white space: breaks around it stay. -/
  isIndented : Bool := false
  empty : EmptyLines

def scanBlock (isLiteral : Bool) (parent : Int) : Scan Token := do
  let start ← Scan.mark
  Scan.skip 1
  let (chomping, increment) ← scanBlockMarks start
  modify Cursor.skipComment
  if !endsLine (← Scan.peek 0) then Scan.fail .expectedCommentOrBreak .scanningBlockScalar start
  modify Cursor.skipBreak
  let empty ← scanEmptyLines parent start (increment.map fun n => parent.toNat + n)
  let d : BlockDraft := { empty }
  let d ← d |> Scan.repeating fun d => do
    let c ← get
    if c.mark.column ≠ d.empty.indent ∨ c.rest.isEmpty then return (d, false)
    let isIndented := c.rest.head?.any isGap
    let joins := !isLiteral && d.lastBreak == ['\n'] && !d.isIndented && !isIndented
    let between :=
      if joins then if d.empty.breaks.isEmpty then [' '] else d.empty.breaks
      else d.lastBreak ++ d.empty.breaks
    let line ← Scan.takeWhile fun x => !isBreak x
    let (lastBreak, next) := (← get).readBreak
    set next
    let empty ← scanEmptyLines parent start (some d.empty.indent)
    return (⟨d.text ++ between ++ line, lastBreak, isIndented, empty⟩, true)
  let tail :=
    match chomping with
    | .strip => []
    | .clip => d.lastBreak
    | .keep => d.lastBreak ++ d.empty.breaks
  return ⟨.scalar (d.text ++ tail) (if isLiteral then .literal else .folded), start, d.empty.finish⟩

end ShapeCoords.Yaml
