import ShapeCoords.Markup.ElementName
import ShapeCoords.Markup.Token.Stream

/-!
The pieces of a page: texts, tags, and what is neither, each with its characters as they stand. No
tree is built; where the content of an element is read in another way, that goes by the tags alone.
-/

namespace ShapeCoords.Page

open Markup (Tag TagKind Content Namespace CommentPlace)
open Text (dropWord isAsciiLetter lowerAscii sameIgnoringCase)

/-- Where it is not sure whether an element's content is read as text. -/
inductive Guard where
  | sure
  | inSelect
  /-- Inside of so many templates in a `select`. -/
  | inTemplate (depth : Nat)
  | inFrameset
  deriving DecidableEq, Repr

def contentOf (name : String) : Content :=
  if name = "textarea" ∨ name = "title" then .escapable name
  else if name = "plaintext" then .plain
  else if name = "script" then .script
  else if ["style", "iframe", "xmp", "noembed", "noframes", "noscript"].contains name then .raw name
  else .markup

namespace Guard

/-- Whether a tag must be refused, as it is unsure how the content behind it is read. -/
def refuses (g : Guard) (name : String) : Bool :=
  contentOf name != .markup &&
    match g with
    | .sure => false
    | .inSelect => name != "textarea" && name != "script"
    | .inTemplate _ => true
    | .inFrameset => name != "noframes"

def afterOpening (name : String) : Guard → Guard
  | .sure =>
    if name = "select" then .inSelect else if name = "frameset" then .inFrameset else .sure
  | .inSelect =>
    if ["select", "textarea", "input", "keygen"].contains name then .sure
    else if name = "template" then .inTemplate 1
    else .inSelect
  | .inTemplate depth => .inTemplate (if name = "template" then depth + 1 else depth)
  | .inFrameset => .inFrameset

def afterClosing (name : String) : Guard → Guard
  | .inSelect => if name = "select" then .sure else .inSelect
  | .inTemplate depth =>
    if name != "template" then .inTemplate depth
    else if depth ≤ 1 then .inSelect
    else .inTemplate (depth - 1)
  | g => g

end Guard

structure Context where
  /-- The namespace, and those to go back to. -/
  space : Namespace := .html
  outer : List Namespace := []
  guard : Guard := .sure
  deriving DecidableEq, Repr

namespace Context

def enter (space : Namespace) (c : Context) : Context :=
  { c with space := space, outer := c.space :: c.outer }

def leave (c : Context) : Context :=
  match c.outer with
  | [] => c
  | space :: outer => { c with space := space, outer := outer }

def mayHoldHtml (space : Namespace) (name : String) : Bool :=
  match space with
  | .html => false
  | .svg => ["foreignobject", "desc", "title"].contains name
  | .mathml => ["mi", "mo", "mn", "ms", "mtext", "annotation-xml"].contains name

def holdsHtml (space : Namespace) (t : Tag) : Bool :=
  mayHoldHtml space t.name && !t.selfClosing &&
    (t.name != "annotation-xml" || (t.value? "encoding").any fun v =>
      sameIgnoringCase v.toList "text/html".toList ||
        sameIgnoringCase v.toList "application/xhtml+xml".toList)

/-- The context behind a start tag, and how the content there is read. -/
def openTag (t : Tag) (c : Context) : Context × Content :=
  let c := { c with guard := c.guard.afterOpening t.name }
  if t.name = "svg" then (c.enter .svg, .markup)
  else if t.name = "math" then (c.enter .mathml, .markup)
  else if c.space = .html then (c, contentOf t.name)
  else if t.leavesForeign then (c.leave, .markup)
  else if holdsHtml c.space t then (c.enter .html, .markup)
  else (c, .markup)

def closeTag (t : Tag) (c : Context) : Context :=
  let c := { c with guard := c.guard.afterClosing t.name }
  match c.space, c.outer with
  | .html, space :: _ => if mayHoldHtml space t.name then c.leave else c
  | .html, [] => c
  | .svg, _ => if t.name = "svg" then c.leave else c
  | .mathml, _ => if t.name = "math" then c.leave else c

end Context

inductive Piece where
  | text (raw : List Char)
  /-- Comments and declarations. -/
  | other (raw : List Char)
  | tag (raw : List Char) (t : Tag)
  /-- A tag that the page ends in; its name is given if it is a start tag whose name is complete. -/
  | cut (raw : List Char) (name : Option String)
  deriving DecidableEq, Repr

def Piece.raw : Piece → List Char
  | .text s | .other s | .tag s _ | .cut s _ => s

/-- How many characters a comment has up to its end. -/
def commentLength (place : CommentPlace) : List Char → Nat
  | [] => 0
  | c :: s =>
    match (place.step c).place with
    | some place => commentLength place s + 1
    | none => 1

/-- How many characters stand up to the first `>`, that one too. -/
def declarationLength : List Char → Nat
  | [] => 0
  | c :: s => if c = '>' then 1 else declarationLength s + 1

/-- How many characters stand before the end of a literal section, or of the page. -/
def literalLength : List Char → Nat
  | [] => 0
  | ']' :: ']' :: '>' :: _ => 0
  | _ :: s => literalLength s + 1

/-- The piece that a tag makes whose name starts `s`, behind `mark` characters of the page. -/
def tagPiece (kind : TagKind) (mark : Nat) (page s : List Char) : Piece :=
  let draft : Markup.TagDraft := { kind := kind, keepsValues := true }
  match Markup.readTag .name draft 0 s with
  | .complete t _ length => .tag (page.take (mark + length)) t
  | .cut name _ => .cut page (if kind = .opening then name else none)

def anglePiece (literal : Bool) (page : List Char) : Piece :=
  let declaration : Piece := .other (page.take (declarationLength page))
  match page.drop 1 with
  | [] => .text page
  | '!' :: s =>
    match dropWord "--".toList s, literal, dropWord "[CDATA[".toList s with
    | some s, _, _ => .other (page.take (4 + commentLength .start s))
    | none, true, some _ => .other (page.take 9)
    | _, _, _ => declaration
  | '/' :: [] => .text page
  | '/' :: c :: s =>
    if isAsciiLetter c then tagPiece .closing 2 page (c :: s) else declaration
  | '?' :: _ => declaration
  | c :: s => if isAsciiLetter c then tagPiece .opening 1 page (c :: s) else .text ['<']

inductive Reading where
  | content (c : Content)
  /-- Inside of a literal section. -/
  | literal

/-- A text up to the end tag of its element, or that end tag. -/
def rawPiece (r : Markup.RawText) (page : List Char) : Piece :=
  if r.isClosed && r.length = 0 then tagPiece .closing 2 page (page.drop 2)
  else .text (page.take r.length)

/-- The first piece of a page that is not empty. -/
def firstPiece (c : Context) (reading : Reading) (page : List Char) : Piece :=
  match reading with
  | .literal =>
    let n := literalLength page
    if n = 0 then .other (page.take 3) else .text (page.take n)
  | .content .markup =>
    match page.takeWhile fun x => x != '<' with
    | [] => anglePiece (c.space != .html) page
    | text => .text text
  | .content .plain => .text page
  | .content (.escapable name) => rawPiece (Markup.readRawText name.toList false 0 page) page
  | .content (.raw name) => rawPiece (Markup.readRawText name.toList false 0 page) page
  | .content .script => rawPiece (Markup.readScript .plain page) page

structure Part where
  piece : Piece
  /-- It is unsure how the content behind the piece is read. -/
  isRefused : Bool := false
  /-- The namespace behind the piece. -/
  space : Namespace := .html
  deriving DecidableEq, Repr

/-- What a piece says about the pieces behind it. -/
def advance (c : Context) (reading : Reading) (piece : Piece) : Context × Reading :=
  match piece with
  | .tag _ t =>
    match t.kind with
    | .opening =>
      let (c, content) := c.openTag t
      (c, .content content)
    | .closing => (c.closeTag t, .content .markup)
  | .other raw =>
    let startsLiteral := c.space != .html && raw = "<![CDATA[".toList
    (c, if startsLiteral then .literal else .content .markup)
  | .text _ => (c, reading)
  | .cut _ _ => (c, .content .markup)

def isRefused (c : Context) : Piece → Bool
  | .tag _ t => t.kind == .opening && c.guard.refuses t.name
  | .cut _ (some name) => c.guard.refuses name
  | _ => false

/-- The parts of a page, at most `n`. The last one may be refused. -/
def partsFrom : Nat → Context → Reading → List Char → List Part
  | 0, _, _, _ => []
  | n + 1, c, reading, page =>
    if page.isEmpty then []
    else
      let piece := firstPiece c reading page
      if isRefused c piece then [⟨piece, true, c.space⟩]
      else
        let (c, reading) := advance c reading piece
        ⟨piece, false, c.space⟩ :: partsFrom n c reading (page.drop piece.raw.length)

def parts (page : List Char) : List Part :=
  partsFrom page.length {} (.content .markup) page

end ShapeCoords.Page
