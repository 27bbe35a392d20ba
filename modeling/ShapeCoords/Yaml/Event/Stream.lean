import ShapeCoords.Yaml.Event
import ShapeCoords.Yaml.Token.Stream

/-!
The events of a YAML text in their order: the grammar of documents and nodes over the tokens.
-/

namespace ShapeCoords.Yaml

inductive Expected where
  | firstDocument
  | document
  | documentContent
  | documentEnd
  | blockNode
  | blockListEntry (isFirst : Bool)
  /-- An entry of a list that is not indented more than the key before it. -/
  | indentlessEntry
  | blockMapKey (isFirst : Bool)
  | blockMapValue
  | flowListEntry (isFirst : Bool)
  | pairKey
  | pairValue
  | pairEnd
  | flowMapKey (isFirst : Bool)
  | flowMapValue
  /-- The value of a key without a colon. -/
  | flowMapNoValue
  | nothing
  deriving DecidableEq, Repr

structure Parser where
  scanner : Scanner
  expected : Expected := .firstDocument
  /-- What is expected behind the node, innermost first. -/
  later : List Expected := []
  /-- Where the lists and maps that are open start, innermost first. -/
  starts : List Mark := []
  /-- What the handles of tags stand for in the document. -/
  handles : List (List Char × Tag) := []

abbrev Parse := StateT Parser (Except Fault)

namespace Parse

def fetch {α : Type} (r : Fetch α) : Parse α := do
  let (a, scanner) ← r.run (← get).scanner
  modify fun p => { p with scanner }
  return a

def peek : Parse Token :=
  fetch Fetch.peek

def take : Parse Unit :=
  fetch Fetch.take

def takeAndPeek : Parse Token := do
  take
  peek

def fail {α : Type} (problem : Problem) (place : Mark) (context : Option (Activity × Mark)) :
    Parse α :=
  throw (.misplaced problem place context)

def failInside {α : Type} (problem : Problem) (place : Mark) (activity : Activity) : Parse α := do
  fail problem place (some (activity, (← get).starts.headD {}))

def expect (e : Expected) : Parse Unit :=
  modify fun p => { p with expected := e }

def expectLater (e : Expected) : Parse Unit :=
  modify fun p => { p with later := e :: p.later }

def goOn : Parse Unit :=
  modify fun p => { p with expected := p.later.headD .nothing, later := p.later.tail }

/-- Steps into a list or a map whose first token comes next. -/
def enter : Parse Unit := do
  let t ← peek
  modify fun p => { p with starts := t.start :: p.starts }
  take

def leave : Parse Unit := do
  goOn
  modify fun p => { p with starts := p.starts.tail }

def node (event : Event (List Char)) (mark : Mark) : Parse StreamEvent :=
  return .node ⟨event, mark, none⟩

/-- A node that is not written. -/
def emptyNode (mark : Mark) : Parse StreamEvent :=
  node (.scalar ⟨none, [], .plain⟩) mark

/-! Documents -/

def defaultHandles : List (List Char × Tag) :=
  [(['!'], asciiBytes ['!']), (['!', '!'], asciiBytes "tag:yaml.org,2002:".toList)]

/-- Reads directives. Each token but the last one holds a character. -/
def directives : Nat → Bool → Parse Unit
  | 0, _ => return
  | n + 1, hasVersion => do
    let t ← peek
    match t.kind with
    | .versionDirective major minor =>
      if hasVersion then fail .duplicateVersion t.start none
      if major ≠ 1 ∨ (minor ≠ 1 ∧ minor ≠ 2) then fail .incompatibleVersion t.start none
      take
      directives n true
    | .tagDirective handle replacement =>
      if (← get).handles.any fun h => h.1 == handle then fail .duplicateHandle t.start none
      modify fun p => { p with handles := p.handles ++ [(handle, replacement)] }
      take
      directives n hasVersion
    | _ => modify fun p => { p with handles := p.handles ++ defaultHandles }

def skipDocumentEnds : Nat → Parse Unit
  | 0 => return
  | n + 1 => do
    if (← peek).kind = .documentEnd then
      take
      skipDocumentEnds n

/-- How many characters are left, which bounds the tokens. -/
def size : Parse Nat :=
  return (← get).scanner.cursor.rest.length + (← get).scanner.tokens.length + 2

def startDocument (isFirst : Bool) : Parse StreamEvent := do
  if !isFirst then skipDocumentEnds (← size)
  let t ← peek
  let isBare : Bool :=
    match t.kind with
    | .versionDirective .. | .tagDirective .. | .documentStart | .streamEnd => false
    | _ => true
  if t.kind = .streamEnd then
    expect .nothing
    take
    return .streamEnd t.start
  else if isFirst && isBare then
    modify fun p => { p with handles := defaultHandles }
    expectLater .documentEnd
    expect .blockNode
    return .documentStart
  else
    directives (← size) false
    let t ← peek
    if t.kind ≠ .documentStart then fail .expectedDocumentStart t.start none
    expectLater .documentEnd
    expect .documentContent
    take
    return .documentStart

def endDocument : Parse StreamEvent := do
  if (← peek).kind = .documentEnd then take
  modify fun p => { p with handles := [], expected := .document }
  return .documentEnd

/-! Nodes -/

structure Properties where
  anchor : Option (List Char) := none
  tag : Option (TagName × Mark) := none

/-- Reads an anchor and a tag, in any order. -/
def properties : Parse Properties := do
  let t ← peek
  match t.kind with
  | .anchor a =>
    let t ← takeAndPeek
    match t.kind with
    | .tag name =>
      take
      return ⟨some a, some (name, t.start)⟩
    | _ => return ⟨some a, none⟩
  | .tag name =>
    let tag := some (name, t.start)
    match (← takeAndPeek).kind with
    | .anchor a =>
      take
      return ⟨some a, tag⟩
    | _ => return ⟨none, tag⟩
  | _ => return {}

def fullTag (start : Mark) (tag : Option (TagName × Mark)) : Parse (Option Tag) := do
  match tag with
  | none => return none
  | some (name, mark) =>
    if name.handle.isEmpty then return some name.suffix
    match (← get).handles.find? fun h => h.1 == name.handle with
    | some h => return some (h.2 ++ name.suffix)
    | none => fail .undefinedHandle mark (some (.parsingNode, start))

def startNode (isBlock allowsIndentless : Bool) : Parse StreamEvent := do
  let start := (← peek).start
  if let .alias name := (← peek).kind then
    goOn
    take
    return ← node (.alias name) start
  let p ← properties
  let t ← peek
  let tag ← fullTag start p.tag
  let event ←
    match t.kind, isBlock, allowsIndentless with
    | .blockEntry, _, true =>
      expect .indentlessEntry
      pure (.listStart tag)
    | .scalar text style, _, _ =>
      goOn
      take
      pure (.scalar ⟨tag, text, style⟩)
    | .flowListStart, _, _ =>
      expect (.flowListEntry true)
      pure (.listStart tag)
    | .flowMapStart, _, _ =>
      expect (.flowMapKey true)
      pure (.mapStart tag)
    | .blockListStart, true, _ =>
      expect (.blockListEntry true)
      pure (.listStart tag)
    | .blockMapStart, true, _ =>
      expect (.blockMapKey true)
      pure (.mapStart tag)
    | _, _, _ =>
      if p.anchor.isNone && tag.isNone then
        let activity := if isBlock then Activity.parsingBlockNode else .parsingFlowNode
        fail .expectedNode t.start (some (activity, start))
      goOn
      pure (.scalar ⟨tag, [], .plain⟩)
  return .node ⟨event, start, p.anchor⟩

/-! Blocks -/

def blockListEntry : Parse StreamEvent := do
  let t ← peek
  match t.kind with
  | .blockEntry =>
    match (← takeAndPeek).kind with
    | .blockEntry | .blockEnd =>
      expect (.blockListEntry false)
      emptyNode t.finish
    | _ =>
      expectLater (.blockListEntry false)
      startNode true false
  | .blockEnd =>
    leave
    take
    node .listEnd t.start
  | _ => failInside .expectedEntryMark t.start .parsingBlockList

def indentlessEntry : Parse StreamEvent := do
  let t ← peek
  match t.kind with
  | .blockEntry =>
    match (← takeAndPeek).kind with
    | .blockEntry | .key | .value | .blockEnd =>
      expect .indentlessEntry
      emptyNode t.finish
    | _ =>
      expectLater .indentlessEntry
      startNode true false
  | _ =>
    goOn
    node .listEnd t.start

def blockMapKey : Parse StreamEvent := do
  let t ← peek
  match t.kind with
  | .key =>
    match (← takeAndPeek).kind with
    | .key | .value | .blockEnd =>
      expect .blockMapValue
      emptyNode t.finish
    | _ =>
      expectLater .blockMapValue
      startNode true true
  | .blockEnd =>
    leave
    take
    node .mapEnd t.start
  | _ => failInside .expectedKey t.start .parsingBlockMap

def blockMapValue : Parse StreamEvent := do
  let t ← peek
  match t.kind with
  | .value =>
    match (← takeAndPeek).kind with
    | .key | .value | .blockEnd =>
      expect (.blockMapKey false)
      emptyNode t.finish
    | _ =>
      expectLater (.blockMapKey false)
      startNode true true
  | _ =>
    expect (.blockMapKey false)
    emptyNode t.start

/-! Between brackets and braces -/

def flowEnd (event : Event (List Char)) (t : Token) : Parse StreamEvent := do
  leave
  take
  node event t.start

/-- Steps over the comma in front of an entry, unless the entry is the first one. -/
def separator (isFirst : Bool) (problem : Problem) (activity : Activity) : Parse Unit := do
  if !isFirst then
    let t ← peek
    if t.kind ≠ .flowEntry then failInside problem t.start activity
    take

def flowListEntry (isFirst : Bool) : Parse StreamEvent := do
  if (← peek).kind ≠ .flowListEnd then
    separator isFirst .expectedCommaOrListEnd .parsingFlowList
  let t ← peek
  match t.kind with
  | .flowListEnd => flowEnd .listEnd t
  | .key =>
    expect .pairKey
    take
    node (.mapStart none) t.start
  | _ =>
    expectLater (.flowListEntry false)
    startNode false false

/-- The key of a map with one pair, which stands in a list. -/
def pairKey : Parse StreamEvent := do
  let t ← peek
  match t.kind with
  | .value | .flowEntry | .flowListEnd =>
    take
    expect .pairValue
    emptyNode t.finish
  | _ =>
    expectLater .pairValue
    startNode false false

def pairValue : Parse StreamEvent := do
  let t ← peek
  if t.kind ≠ .value then
    expect .pairEnd
    return ← emptyNode t.start
  let t ← takeAndPeek
  match t.kind with
  | .flowEntry | .flowListEnd =>
    expect .pairEnd
    emptyNode t.start
  | _ =>
    expectLater .pairEnd
    startNode false false

def pairEnd : Parse StreamEvent := do
  expect (.flowListEntry false)
  node .mapEnd (← peek).start

def flowMapKey (isFirst : Bool) : Parse StreamEvent := do
  if (← peek).kind ≠ .flowMapEnd then
    separator isFirst .expectedCommaOrMapEnd .parsingFlowMap
  let t ← peek
  match t.kind with
  | .flowMapEnd => flowEnd .mapEnd t
  | .key =>
    let t ← takeAndPeek
    match t.kind with
    | .value | .flowEntry | .flowMapEnd =>
      expect .flowMapValue
      emptyNode t.start
    | _ =>
      expectLater .flowMapValue
      startNode false false
  | _ =>
    expectLater .flowMapNoValue
    startNode false false

def flowMapValue : Parse StreamEvent := do
  let t ← peek
  if t.kind ≠ .value then
    expect (.flowMapKey false)
    return ← emptyNode t.start
  let t ← takeAndPeek
  match t.kind with
  | .flowEntry | .flowMapEnd =>
    expect (.flowMapKey false)
    emptyNode t.start
  | _ =>
    expectLater (.flowMapKey false)
    startNode false false

def flowMapNoValue : Parse StreamEvent := do
  expect (.flowMapKey false)
  emptyNode (← peek).start

def next : Parse StreamEvent := do
  match (← get).expected with
  | .firstDocument => startDocument true
  | .document => startDocument false
  | .documentContent =>
    let t ← peek
    match t.kind with
    | .versionDirective .. | .tagDirective .. | .documentStart | .documentEnd | .streamEnd =>
      goOn
      emptyNode t.start
    | _ => startNode true false
  | .documentEnd => endDocument
  | .blockNode => startNode true false
  | .blockListEntry isFirst =>
    if isFirst then enter
    blockListEntry
  | .indentlessEntry => indentlessEntry
  | .blockMapKey isFirst =>
    if isFirst then enter
    blockMapKey
  | .blockMapValue => blockMapValue
  | .flowListEntry isFirst =>
    if isFirst then enter
    flowListEntry isFirst
  | .pairKey => pairKey
  | .pairValue => pairValue
  | .pairEnd => pairEnd
  | .flowMapKey isFirst =>
    if isFirst then enter
    flowMapKey isFirst
  | .flowMapValue => flowMapValue
  | .flowMapNoValue => flowMapNoValue
  | .nothing => return .streamEnd (← get).scanner.cursor.mark

end Parse

end ShapeCoords.Yaml
