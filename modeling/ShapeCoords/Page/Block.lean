import ShapeCoords.Markup.CharacterReference
import ShapeCoords.Page.Piece

/-!
The Mermaid blocks of a page: elements `pre` and `div` of the class `mermaid`, and `code` of the
class `language-mermaid`. A block ends with the end tag that closes its element or one around it.
-/

namespace ShapeCoords.Page

open Markup (Tag)

inductive BlockKind where
  | pre
  | div
  | code
  deriving DecidableEq, Repr

def classes (t : Tag) : List (List Char) :=
  match t.value? "class" with
  | none => []
  | some value =>
    let marked := value.toList.map fun c => if Markup.isSpace c then ' ' else c
    Text.splitAtEach ' ' marked

def BlockKind.of? (t : Tag) : Option BlockKind :=
  let hasClass (word : String) : Bool := (classes t).contains word.toList
  if t.name = "pre" ∧ hasClass "mermaid" then some .pre
  else if t.name = "div" ∧ hasClass "mermaid" then some .div
  else if t.name = "code" ∧ hasClass "language-mermaid" then some .code
  else none

structure OpenElement where
  name : String
  block : Option BlockKind
  deriving DecidableEq, Repr

def voidNames : List String :=
  ["area", "base", "basefont", "bgsound", "br", "col", "embed", "hr", "img", "input", "keygen",
    "link", "meta", "param", "source", "track", "wbr"]

namespace Part

def startTag? (p : Part) : Option Tag :=
  match p.piece with
  | .tag _ t => if t.kind = .opening && !p.isRefused then some t else none
  | _ => none

def block? (p : Part) : Option BlockKind :=
  p.startTag?.bind BlockKind.of?

/-- The elements that are open behind a part, innermost first. -/
def opened (p : Part) (before : List OpenElement) : List OpenElement :=
  match p.piece with
  | .tag _ t =>
    match t.kind with
    | .opening =>
      let hasContent := if p.space = .html then !voidNames.contains t.name else !t.selfClosing
      if hasContent then ⟨t.name, BlockKind.of? t⟩ :: before else before
    | .closing =>
      if before.any fun e => e.name == t.name then
        (before.dropWhile fun e => e.name != t.name).tail
      else before
  | _ => before

end Part

/-- A part, with the blocks that are open around it, innermost first. -/
structure Visit where
  part : Part
  around : List BlockKind
  deriving DecidableEq, Repr

def visitsFrom (opened : List OpenElement) : List Part → List Visit
  | [] => []
  | p :: ps => ⟨p, opened.filterMap OpenElement.block⟩ :: visitsFrom (p.opened opened) ps

def visits (page : List Char) : List Visit :=
  visitsFrom [] (parts page)

namespace Visit

def block? (v : Visit) : Option BlockKind :=
  v.part.block?

def isOutside (v : Visit) : Bool :=
  v.around.isEmpty

/-- How often a text is read: once for each kind of block that it lies in. -/
def readings (v : Visit) : Nat :=
  [BlockKind.pre, .div, .code].countP fun kind => v.around.contains kind

/-- The name of the tag for which a part is refused. -/
def refused? (v : Visit) : Option String :=
  match v.part.isRefused, v.part.piece with
  | true, .tag _ t => some t.name
  | true, .cut _ name => name
  | _, _ => none

/-- The name of the tag for which a part is refused where the text of blocks is read. A tag that is
cut off does not count inside of a block. -/
def refusedInText? (v : Visit) : Option String :=
  match v.part.piece with
  | .cut _ _ => if v.isOutside then v.refused? else none
  | _ => v.refused?

end Visit

/-- Replaces the character references in a text; `skip` characters are left out first. -/
def unescape : Nat → List Char → List Char
  | _, [] => []
  | skip + 1, _ :: s => unescape skip s
  | 0, c :: s =>
    if c = '&' then
      let reference := Markup.CharacterReference.read false s
      reference.characters ++ unescape reference.length s
    else c :: unescape 0 s

def sourceOf (raw : List Char) : String :=
  String.ofList (Text.trim (unescape 0 raw))

/-- Puts a text behind the last of some texts, which are held last one first. -/
def extendLast (s : List Char) : List (List Char) → List (List Char)
  | [] => []
  | t :: ts => (t ++ s) :: ts

/-- Collects the texts of blocks, last one first. A text counts for the block that began last. The
name of the tag is given for which the page is refused. -/
def collectTexts (texts : List (List Char)) : List Visit → Except String (List (List Char))
  | [] => .ok texts
  | v :: vs =>
    match v.refusedInText? with
    | some name => .error name
    | none =>
      match v.block?, v.part.piece with
      | some _, _ => collectTexts ([] :: texts) vs
      | none, .text raw =>
        collectTexts (extendLast (List.replicate v.readings raw).flatten texts) vs
      | none, _ => collectTexts texts vs

end ShapeCoords.Page
