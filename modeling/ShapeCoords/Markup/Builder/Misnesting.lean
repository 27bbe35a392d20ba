import ShapeCoords.Markup.Builder

/-!
End tags whose element is not the innermost one. An end tag of formatting closes only that
formatting: what stands inside of it moves out, and the formatting goes on in copies.
-/

namespace ShapeCoords.Markup.Builder

/-- Whether an end tag finds its element before one that it does not pass. -/
def findsElement (name : String) : List Open → Bool
  | [] => false
  | o :: opened => o.element.isNamed name || (!o.element.isSpecial && findsElement name opened)

/-- Closes the element that an end tag is for, with all that is open in it. -/
def closeNamed (name : String) (b : Builder) : Builder :=
  if findsElement name b.opened then
    (b.endImpliedExcept name).closeExpecting .unexpectedToken (ElementName.isNamed name)
  else b.report .specialWhileClosing

/-- Where the formatting that was closed goes on in the list of formatting. -/
inductive Bookmark where
  | inPlace
  /-- Right behind the entry of an element. -/
  | behind (id : Nat)

structure Chain where
  builder : Builder
  /-- The elements that stay open, outermost first. -/
  kept : List Open := []
  /-- The outermost element of the chain. -/
  last : Nat
  bookmark : Bookmark := .inPlace

def Chain.copy (c : Chain) (o : Open) (tag : Tag) : Chain :=
  let b := c.builder
  let new := b.next tag.element
  let b := b.create tag.element tag.attributes
  let replace (f : Formatting) : Formatting := if isEntryOf o.id f then .element new tag else f
  { builder :=
      { b with
        formatting := b.formatting.map replace
        tree := (b.tree.detach c.last).append c.last (.element new.id) }
    kept := new :: c.kept
    last := new.id
    bookmark :=
      match c.kept with
      | [] => .behind new.id
      | _ => c.bookmark }

/-- Goes outwards through the elements inside of the formatting that is closed. The first three that
are formatting themselves are copied; the others are closed. -/
def Chain.extend (c : Chain) : Nat → List Open → Chain
  | _, [] => c
  | n, o :: between =>
    let entry? := c.builder.formatting.find? (isEntryOf o.id)
    match decide (n < 3), entry? with
    | true, some (.element _ tag) => (c.copy o tag).extend (n + 1) between
    | _, _ => { c with builder := c.builder.removeFormatting o.id }.extend (n + 1) between

/-- Puts the entry of new formatting where the old one was, or behind another one. -/
def placeFormatting (old : Nat) (new : Formatting) : Bookmark → List Formatting → List Formatting
  | .inPlace, entries => entries.map fun f => if isEntryOf old f then new else f
  | .behind id, entries =>
    (entries.flatMap fun f => if isEntryOf id f then [new, f] else [f]).eraseP (isEntryOf old)

/-- Closes the formatting `target`, in which the block `block` stands. `above` are the elements
inside of the block, `between` those around it, both innermost first. -/
def moveOut (target : Open) (tag : Tag) (above : List Open) (block : Open) (between : List Open)
    (below : List Open) (b : Builder) : Builder :=
  let chain := Chain.extend { builder := b, last := block.id } 0 between
  let b := { chain.builder with
    opened := above ++ block :: chain.kept.reverse ++ target :: below }
  let b := { b with tree := b.tree.detach chain.last }
  let position :=
    match below with
    | ancestor :: _ => b.positionIn ancestor
    | [] => .inside .document
  let b := { b with tree := position.insert chain.last b.tree }
  let new := b.next tag.element
  let b := b.create tag.element tag.attributes
  { b with
    tree := (b.tree.moveChildren block.id new.id).append new.id (.element block.id)
    formatting := placeFormatting target.id (.element new tag) chain.bookmark b.formatting
    opened := above ++ new :: block :: chain.kept.reverse ++ below }

def splitAtLast (p : Open → Bool) (l : List Open) : Option (List Open × Open × List Open) :=
  let behind := (l.reverse.takeWhile fun o => !p o).reverse
  match l.reverse.dropWhile fun o => !p o with
  | [] => none
  | o :: front => some (front.reverse, o, behind)

/-- Closes formatting of a name, as long as there is some and at most `n` times. -/
def closeFormattingLoop (name : String) : Nat → Builder → Builder
  | 0, b => b
  | n + 1, b =>
    match (formattingToMarker b.formatting).find? fun (_, tag) => tag.name == name with
    | none => b.closeNamed name
    | some (target, tag) =>
      let isTarget (o : Open) : Bool := o.id == target.id
      if !b.opened.any isTarget then
        (b.report .formattingNotOpen).removeFormatting target.id
      else if !inScope ElementName.endsScope isTarget b.opened then
        b.report .formattingNotInScope
      else
        let b := if b.current?.any isTarget then b else b.report .formattingNotCurrent
        let inner := b.opened.takeWhile fun o => !isTarget o
        let below := (b.opened.dropWhile fun o => !isTarget o).tail
        match splitAtLast (fun o => o.element.isSpecial) inner with
        | none => { b with opened := below }.removeFormatting target.id
        | some (above, block, between) =>
          closeFormattingLoop name n (b.moveOut target tag above block between below)

def closeFormatting (name : String) (b : Builder) : Builder :=
  let current := b.current?.filter fun o =>
    o.element.isNamed name && !b.formatting.any (isEntryOf o.id)
  match current with
  | some _ => b.pop
  | none => b.closeFormattingLoop name 8

end ShapeCoords.Markup.Builder
