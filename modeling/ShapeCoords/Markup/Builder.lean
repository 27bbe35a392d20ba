import ShapeCoords.Markup.ElementName
import ShapeCoords.Markup.Token.Stream

/-!
The state of building a tree from tokens: the elements that are open, the formatting that goes on
behind misplaced end tags, and the part of a document that is being read.
-/

namespace ShapeCoords.Markup

inductive Mode where
  | initial
  | beforeHtml
  | beforeHead
  | inHead
  | afterHead
  | inBody
  | text
  | inTable
  | inTableText
  | inCaption
  | inColumnGroup
  | inTableBody
  | inRow
  | inCell
  | inSelect
  | inSelectInTable
  | inTemplate
  | afterBody
  | inFrameset
  | afterFrameset
  | afterAfterBody
  | afterAfterFrameset
  deriving DecidableEq, Repr, Inhabited

structure Open where
  id : Nat
  element : ElementName
  deriving DecidableEq, Repr, Inhabited

/-- An entry of the list of formatting that is to go on. -/
inductive Formatting where
  /-- Formatting from before does not go on here. -/
  | marker
  /-- An element for formatting, and the tag to make another one of. -/
  | element (o : Open) (tag : Tag)
  deriving DecidableEq, Repr

structure Builder where
  tree : Tree := {}
  mode : Mode := .initial
  /-- The mode to go back to behind text. -/
  modeBehindText : Mode := .initial
  /-- The modes of the open templates, innermost first. -/
  templateModes : List Mode := []
  /-- The open elements, innermost first. -/
  opened : List Open := []
  /-- The latest entry first. -/
  formatting : List Formatting := []
  head : Option Open := none
  form : Option Nat := none
  framesetAllowed : Bool := true
  /-- A newline at the start of the next text does not count. -/
  skipsNewline : Bool := false
  /-- Content misplaced in a table moves in front of it. -/
  fosters : Bool := false
  followsOldRules : Bool := false
  /-- Texts inside a table, last one first. -/
  tableTexts : List (List Char) := []
  /-- The faults so far, last one first. -/
  faults : List Fault := []

inductive Outcome where
  | done
  /-- Done, and the tag may close itself. -/
  | acknowledged
  /-- The token has to be looked at again. -/
  | again
  /-- Done, and what follows is content of some kind. -/
  | content (c : Content)
  deriving DecidableEq, Repr

abbrev Step := Builder × Outcome

def Tag.element (t : Tag) : ElementName :=
  ⟨.html, t.name⟩

def isAllSpace (s : List Char) : Bool :=
  s.all isSpace

namespace Builder

def done (b : Builder) : Step :=
  (b, .done)

def acknowledged (b : Builder) : Step :=
  (b, .acknowledged)

def again (b : Builder) : Step :=
  (b, .again)

def report (f : Fault) (b : Builder) : Builder :=
  { b with faults := f :: b.faults }

def enter (mode : Mode) (b : Builder) : Builder :=
  { b with mode := mode }

def unexpected (b : Builder) : Step :=
  (b.report .unexpectedToken).done

def forbidFrameset (b : Builder) : Builder :=
  { b with framesetAllowed := false }

/-! Open elements -/

def current? (b : Builder) : Option Open :=
  b.opened.head?

def currentIs (p : ElementName → Bool) (b : Builder) : Bool :=
  b.current?.any fun o => p o.element

def currentNamed (name : String) : Builder → Bool :=
  currentIs (ElementName.isNamed name)

def hasOpen (name : String) (b : Builder) : Bool :=
  b.opened.any fun o => o.element.isNamed name

def push (o : Open) (b : Builder) : Builder :=
  { b with opened := o :: b.opened }

def pop (b : Builder) : Builder :=
  { b with opened := b.opened.tail }

def closeOpen (id : Nat) (b : Builder) : Builder :=
  { b with opened := b.opened.eraseP fun o => o.id == id }

def inScope (ends : ElementName → Bool) (p : Open → Bool) : List Open → Bool
  | [] => false
  | o :: opened => p o || (!ends o.element && inScope ends p opened)

def namedInScope (ends : ElementName → Bool) (name : String) (b : Builder) : Bool :=
  inScope ends (fun o => o.element.isNamed name) b.opened

/-- Closes elements while the innermost one satisfies `p`. -/
def popWhile (p : ElementName → Bool) (b : Builder) : Builder :=
  { b with opened := b.opened.dropWhile fun o => p o.element }

def popUntilCurrent (p : ElementName → Bool) (b : Builder) : Builder :=
  b.popWhile fun e => !p e

/-- Closes elements up to the innermost one that satisfies `p`, that one too. -/
def popThrough (p : ElementName → Bool) (b : Builder) : Builder :=
  (b.popUntilCurrent p).pop

def popThroughNamed (name : String) : Builder → Builder :=
  popThrough (ElementName.isNamed name)

/-- Closes elements whose end tag may be left out. -/
def endImplied : Builder → Builder :=
  popWhile ElementName.endsImplicitly

def endImpliedExcept (name : String) : Builder → Builder :=
  popWhile fun e => e.endsImplicitly && !e.isNamed name

/-- Closes the innermost element that satisfies `p`, which should be the innermost of all. -/
def closeExpecting (f : Fault) (p : ElementName → Bool) (b : Builder) : Builder :=
  let closed := b.popThrough p
  if b.currentIs p then closed else closed.report f

def expectToClose (name : String) : Builder → Builder :=
  closeExpecting .unexpectedOpenElement (ElementName.isNamed name)

def closeParagraph (b : Builder) : Builder :=
  (b.endImpliedExcept "p").expectToClose "p"

/-- Closes the paragraph that a block may not stand in. -/
def closeParagraphInScope (b : Builder) : Builder :=
  if b.namedInScope ElementName.endsButtonScope "p" then b.closeParagraph else b

/-! Formatting -/

/-- The entries behind the last marker, latest first, with their elements. -/
def formattingToMarker : List Formatting → List (Open × Tag)
  | .element o tag :: entries => (o, tag) :: formattingToMarker entries
  | _ => []

def clearFormattingToMarker (b : Builder) : Builder :=
  { b with formatting := (b.formatting.dropWhile fun f => f != .marker).tail }

def pushMarker (b : Builder) : Builder :=
  { b with formatting := .marker :: b.formatting }

def isEntryOf (id : Nat) : Formatting → Bool
  | .marker => false
  | .element o _ => o.id == id

def removeFormatting (id : Nat) (b : Builder) : Builder :=
  { b with formatting := b.formatting.eraseP (isEntryOf id) }

/-! Insertion -/

inductive Position where
  | inside (p : Place)
  /-- In front of a table, or inside of an element if the table has no place. -/
  | before (table : Nat) (otherwise : Place)

def contentPlace (o : Open) : Place :=
  if o.element.isNamed "template" then .contents o.id else .element o.id

/-- Where content misplaced in a table goes: in front of the innermost open table, or into a
template further in. -/
def fosterPosition : List Open → Position
  | [] => .inside .document
  | [o] => .inside (contentPlace o)
  | o :: below :: opened =>
    if o.element.isNamed "template" then .inside (.contents o.id)
    else if o.element.isNamed "table" then .before o.id (.element below.id)
    else fosterPosition (below :: opened)

/-- Where an element goes that is meant for `target`. -/
def positionIn (target : Open) (b : Builder) : Position :=
  if b.fosters && target.element.isTablePart then fosterPosition b.opened
  else .inside (contentPlace target)

def position (b : Builder) : Position :=
  match b.current? with
  | some o => b.positionIn o
  | none => .inside .document

def Position.insert (p : Position) (id : Nat) (t : Tree) : Tree :=
  match p with
  | .inside place => t.append id place
  | .before table otherwise =>
    if (t.parent? table).isSome then t.insertBefore id table else t.append id otherwise

def next (e : ElementName) (b : Builder) : Open :=
  ⟨b.tree.elements.size, e⟩

/-- Makes an element that has no place yet. -/
def create (e : ElementName) (attributes : List Attribute) (b : Builder) : Builder :=
  { b with tree := b.tree.create ⟨e.space, e.name, attributes⟩ }

def insertEmpty (e : ElementName) (attributes : List Attribute) (b : Builder) : Builder :=
  let o := b.next e
  let position := b.position
  let b := b.create e attributes
  { b with tree := position.insert o.id b.tree }

def insert (e : ElementName) (attributes : List Attribute) (b : Builder) : Builder :=
  (b.insertEmpty e attributes).push (b.next e)

def insertTag (t : Tag) : Builder → Builder :=
  insert t.element t.attributes

def insertEmptyTag (t : Tag) : Builder → Builder :=
  insertEmpty t.element t.attributes

/-- Opens an element for which there is no tag. -/
def insertPhantom (name : String) : Builder → Builder :=
  insert ⟨.html, name⟩ []

def insertRoot (attributes : List Attribute) (b : Builder) : Builder :=
  let o := b.next ⟨.html, "html"⟩
  let b := (b.create ⟨.html, "html"⟩ attributes).push o
  { b with tree := b.tree.append o.id .document }

def insertTextElement (t : Tag) (c : Content) (b : Builder) : Step :=
  let b := b.insertTag t
  ({ b with modeBehindText := b.mode, mode := .text }, .content c)

def isOpenOrMarker (b : Builder) : Formatting → Bool
  | .marker => true
  | .element o _ => b.opened.any fun p => p.id == o.id

/-- Opens elements for the entries anew, the last one first; `behind` are the later entries. -/
def reopen (b : Builder) : List Formatting → Builder
  | [] => b
  | .marker :: entries => (b.reopen entries)
  | .element _ tag :: entries =>
    let b := b.reopen entries
    let o := b.next tag.element
    let b := b.insertTag tag
    { b with formatting := .element o tag :: b.formatting }

/-- Lets formatting go on whose elements were closed in the wrong place. -/
def reconstruct (b : Builder) : Builder :=
  let closed := b.formatting.takeWhile fun f => !b.isOpenOrMarker f
  let rest := b.formatting.dropWhile fun f => !b.isOpenOrMarker f
  { b with formatting := rest }.reopen closed

def sameTag (s t : Tag) : Bool :=
  s.name == t.name && s.attributes.length == t.attributes.length &&
    s.attributes.all fun a => t.attributes.contains a

/-- Opens an element for formatting. Of more than three like it only the latest three go on. -/
def insertFormatting (t : Tag) (b : Builder) : Builder :=
  let alike := (formattingToMarker b.formatting).filter fun (_, old) => sameTag t old
  let b :=
    match alike.getLast? with
    | some (oldest, _) => if 3 ≤ alike.length then b.removeFormatting oldest.id else b
    | none => b
  let o := b.next t.element
  let b := b.insertTag t
  { b with formatting := .element o t :: b.formatting }

/-! Choosing the mode by the open elements -/

/-- The mode inside of a `select`, whose enclosing elements are given. -/
def selectMode : List Open → Mode
  | [] => .inSelect
  | o :: opened =>
    if o.element.isNamed "template" then .inSelect
    else if o.element.isNamed "table" then .inSelectInTable
    else selectMode opened

/-- The mode that an open element sets; `outer` are the elements around it. -/
def modeOf? (b : Builder) (o : Open) (outer : List Open) : Option Mode :=
  let e := o.element
  if e.space != .html then none
  else if e.name = "select" then some (selectMode outer)
  else if e.name = "td" ∨ e.name = "th" then if outer.isEmpty then none else some .inCell
  else if e.name = "tr" then some .inRow
  else if e.name = "tbody" ∨ e.name = "thead" ∨ e.name = "tfoot" then some .inTableBody
  else if e.name = "caption" then some .inCaption
  else if e.name = "colgroup" then some .inColumnGroup
  else if e.name = "table" then some .inTable
  else if e.name = "template" then some (b.templateModes.headD .inBody)
  else if e.name = "head" then if outer.isEmpty then none else some .inHead
  else if e.name = "body" then some .inBody
  else if e.name = "frameset" then some .inFrameset
  else if e.name = "html" then some (if b.head.isNone then .beforeHead else .afterHead)
  else none

def modeOfOpen (b : Builder) : List Open → Mode
  | [] => .inBody
  | o :: outer => (b.modeOf? o outer).getD (b.modeOfOpen outer)

def resetMode (b : Builder) : Builder :=
  b.enter (b.modeOfOpen b.opened)

end Builder

end ShapeCoords.Markup
