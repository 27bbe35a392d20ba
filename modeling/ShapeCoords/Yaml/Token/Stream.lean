import ShapeCoords.Yaml.Token.Tag

/-!
The tokens of a YAML text in their order. A token that may turn out to be a key waits until it is
known whether a colon follows, since marks for the key come in front of it.
-/

namespace ShapeCoords.Yaml

/-- A token that is a key if a colon follows it on its line. -/
structure KeyCandidate where
  /-- Nothing else than a key can stand there. -/
  isRequired : Bool
  /-- How many tokens come before it. -/
  number : Nat
  mark : Mark

structure Scanner where
  cursor : Cursor
  /-- The tokens that were read and not taken yet. -/
  tokens : List Token := []
  taken : Nat := 0
  /-- The columns of the blocks around, innermost first. The last one is left of every column. -/
  indents : List Int := [-1]
  /-- A key may start here. -/
  allowsKey : Bool := true
  /-- The candidate of each bracket or brace that is open, innermost first, and last the one outside
  of all of them. -/
  candidates : List (Option KeyCandidate) := [none]

namespace Scanner

def indent (s : Scanner) : Int :=
  s.indents.headD (-1)

/-- Whether a bracket or brace is open. -/
def isFlow (s : Scanner) : Bool :=
  1 < s.candidates.length

def add (s : Scanner) (t : Token) : Scanner :=
  { s with tokens := s.tokens ++ [t] }

def insert (s : Scanner) (number : Nat) (t : Token) : Scanner :=
  { s with tokens := s.tokens.insertIdx (number - s.taken) t }

def setCandidate (s : Scanner) (k : Option KeyCandidate) : Scanner :=
  { s with candidates := k :: s.candidates.tail }

end Scanner

abbrev Fetch := StateT Scanner (Except Fault)

namespace Fetch

def fail {α : Type} (problem : Problem) (context : Option (Activity × Mark)) : Fetch α := do
  throw (.misplaced problem (← get).cursor.mark context)

def scan {α : Type} (r : Scan α) : Fetch α := do
  let (a, cursor) ← r.run (← get).cursor
  modify fun s => { s with cursor }
  return a

def add (t : Token) : Fetch Unit :=
  modify fun s => s.add t

def allowKey (allows : Bool) : Fetch Unit :=
  modify fun s => { s with allowsKey := allows }

def dropCandidate : Fetch Unit := do
  if let some (some k) := (← get).candidates.head? then
    if k.isRequired then fail .expectedColon (some (.scanningKey, k.mark))
  modify fun s => s.setCandidate none

def markCandidate : Fetch Unit := do
  let s ← get
  if s.allowsKey then
    let m := s.cursor.mark
    dropCandidate
    modify fun s => s.setCandidate (some {
      isRequired := !s.isFlow && s.indent == m.column
      number := s.taken + s.tokens.length
      mark := m })

/-- A candidate that ends up too far behind, or on another line, is no key. -/
def refresh (m : Mark) (k : Option KeyCandidate) : Except Fault (Option KeyCandidate) :=
  match k with
  | none => .ok none
  | some k =>
    if k.mark.line < m.line ∨ k.mark.index + 1024 < m.index then
      if k.isRequired then .error (.misplaced .expectedColon m (some (.scanningKey, k.mark)))
      else .ok none
    else .ok (some k)

/-- Drops the candidates that can be no keys any more, the outermost first. -/
def dropStale : Fetch Unit := do
  let s ← get
  let candidates ← liftM (m := Except Fault) (s.candidates.reverse.mapM (refresh s.cursor.mark))
  set { s with candidates := candidates.reverse }

/-- Opens a block if the column is right of the block around. The mark of its start comes in front
of the token with a number, or at the end. -/
def openBlock (column : Nat) (number : Option Nat) (kind : TokenKind) (m : Mark) : Fetch Unit := do
  let s ← get
  if !s.isFlow ∧ s.indent < column then
    let s := { s with indents := (column : Int) :: s.indents }
    let t : Token := ⟨kind, m, m⟩
    set <|
      match number with
      | some n => s.insert n t
      | none => s.add t

/-- Closes the blocks that are right of a column. -/
def closeBlocks (column : Int) : Fetch Unit :=
  modify fun s =>
    if s.isFlow then s
    else
      let closed := s.indents.takeWhile fun n => column < n
      let m := s.cursor.mark
      { s with
        indents := s.indents.drop closed.length
        tokens := s.tokens ++ closed.map fun _ => ⟨.blockEnd, m, m⟩ }

def addMark (kind : TokenKind) (length : Nat) : Fetch Unit := do
  let start := (← get).cursor.mark
  scan (Scan.skip length)
  add ⟨kind, start, (← get).cursor.mark⟩

/-- Steps over white space and comments up to a token, and tells whether a key may start there. A
tab counts as white space only where no key may start. -/
def skipToToken (isFlow allowsKey : Bool) : Scan Bool :=
  allowsKey |> Scan.repeating fun allowsKey => do
    let c ← get
    let c := if c.mark.column = 0 ∧ c.rest.head? = some '\ufeff' then c.skip 1 else c
    let c := c.skipWhile fun x => x == ' ' || ((isFlow || !allowsKey) && x == '\t')
    let c := if c.rest.head? = some '#' then c.skipWhile fun x => !isBreak x else c
    if c.rest.head?.any isBreak then
      set c.skipBreak
      return (allowsKey || !isFlow, true)
    set c
    return (allowsKey, false)

/-- The end of the text, which ends a line. -/
def streamEnd : Fetch Unit := do
  modify fun s =>
    let m := s.cursor.mark
    if m.column = 0 then s
    else { s with cursor := { s.cursor with mark := { m with line := m.line + 1, column := 0 } } }
  closeBlocks (-1)
  dropCandidate
  allowKey false
  addMark .streamEnd 0

def directive : Fetch Unit := do
  closeBlocks (-1)
  dropCandidate
  allowKey false
  add (← scan scanDirective)

def documentMark (kind : TokenKind) : Fetch Unit := do
  closeBlocks (-1)
  dropCandidate
  allowKey false
  addMark kind 3

def flowStart (kind : TokenKind) : Fetch Unit := do
  markCandidate
  modify fun s => { s with candidates := none :: s.candidates }
  allowKey true
  addMark kind 1

def flowEnd (kind : TokenKind) : Fetch Unit := do
  dropCandidate
  modify fun s => if s.isFlow then { s with candidates := s.candidates.tail } else s
  allowKey false
  addMark kind 1

def flowEntry : Fetch Unit := do
  dropCandidate
  allowKey true
  addMark .flowEntry 1

/-- Opens a block of some kind where a mark stands that needs one. -/
def startBlock (kind : TokenKind) (problem : Problem) : Fetch Unit := do
  let s ← get
  if !s.isFlow then
    if !s.allowsKey then fail problem none
    openBlock s.cursor.mark.column none kind s.cursor.mark

def blockEntry : Fetch Unit := do
  startBlock .blockListStart .blockEntryNotAllowed
  dropCandidate
  allowKey true
  addMark .blockEntry 1

def key : Fetch Unit := do
  startBlock .blockMapStart .keyNotAllowed
  dropCandidate
  allowKey !(← get).isFlow
  addMark .key 1

/-- A colon: the candidate in front of it, if there is one, is a key. -/
def value : Fetch Unit := do
  let s ← get
  match s.candidates.head? with
  | some (some k) =>
    modify fun s => s.insert k.number ⟨.key, k.mark, k.mark⟩
    openBlock k.mark.column (some k.number) .blockMapStart k.mark
    modify fun s => s.setCandidate none
    allowKey false
  | _ =>
    startBlock .blockMapStart .valueNotAllowed
    allowKey !s.isFlow
  addMark .value 1

def candidate (r : Scan Token) : Fetch Unit := do
  markCandidate
  allowKey false
  add (← scan r)

def block (isLiteral : Bool) : Fetch Unit := do
  dropCandidate
  allowKey true
  let parent := (← get).indent
  add (← scan (scanBlock isLiteral parent))

def plain : Fetch Unit := do
  markCandidate
  allowKey false
  let s ← get
  let (t, isBroken) ← scan (scanPlain s.isFlow s.indent)
  add t
  if isBroken then allowKey true

def isIndicator (c : Char) : Bool :=
  "-?:,[]\x7b\x7d#&*!|>'\"%@`".toList.contains c

def token : Fetch Unit := do
  let s ← get
  let c := s.cursor
  let next := c.rest[1]?
  let joinsWord := s.isFlow || endsWord next
  match c.rest with
  | [] => streamEnd
  | x :: _ =>
    if c.mark.column = 0 ∧ x = '%' then directive
    else if c.isDocumentMark then documentMark (if x = '-' then .documentStart else .documentEnd)
    else if x = '[' then flowStart .flowListStart
    else if x = '\x7b' then flowStart .flowMapStart
    else if x = ']' then flowEnd .flowListEnd
    else if x = '\x7d' then flowEnd .flowMapEnd
    else if x = ',' then flowEntry
    else if x = '-' ∧ endsWord next then blockEntry
    else if x = '?' ∧ joinsWord then key
    else if x = ':' ∧ joinsWord then value
    else if x = '*' then candidate (scanAnchor true)
    else if x = '&' then candidate (scanAnchor false)
    else if x = '!' then candidate (scanTag s.isFlow)
    else if x = '|' ∧ !s.isFlow then block true
    else if x = '>' ∧ !s.isFlow then block false
    else if x = '\'' ∨ x = '"' then candidate (scanQuoted x)
    else if !(isGap x || isBreak x || isIndicator x) || x = '-' || x = '?' || x = ':' then plain
    else fail .cannotStartToken (some (.scanningToken, c.mark))

/-- Reads up to the next token and adds it, with the marks that come with it. -/
def next : Fetch Unit := do
  let s ← get
  allowKey (← scan (skipToToken s.isFlow s.allowsKey))
  dropStale
  closeBlocks (← get).cursor.mark.column
  token

/-- Whether the first token is unknown, or may still be a key. -/
def isOpen (s : Scanner) : Bool :=
  s.tokens.isEmpty || s.candidates.any fun k => k.any fun k => k.number == s.taken

/-- Reads until the first token is settled. Each token but the last one holds a character. -/
def settle : Nat → Fetch Unit
  | 0 => return
  | n + 1 => do
    if !(← get).tokens.isEmpty then dropStale
    if isOpen (← get) then
      next
      settle n

def peek : Fetch Token := do
  settle ((← get).cursor.rest.length + 2)
  let s ← get
  return s.tokens.headD ⟨.streamEnd, s.cursor.mark, s.cursor.mark⟩

def take : Fetch Unit :=
  modify fun s => { s with tokens := s.tokens.tail, taken := s.taken + 1 }

end Fetch

end ShapeCoords.Yaml
