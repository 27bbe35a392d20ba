import ShapeCoords.Markup.Builder

/-!
Tags that are treated alike in many parts of a document: those of metadata, of templates, and a
repeated root.
-/

namespace ShapeCoords.Markup.Builder

def emptyMetadata : List String :=
  ["base", "basefont", "bgsound", "link", "meta"]

def metadataNames : List String :=
  emptyMetadata ++ ["noframes", "script", "style", "template", "title"]

/-- Whether a tag is for metadata or ends a template. -/
def isMetadata (t : Tag) : Bool :=
  match t.kind with
  | .opening => metadataNames.contains t.name
  | .closing => t.name == "template"

def openTemplate (t : Tag) (b : Builder) : Step :=
  let b := (b.insertTag t).pushMarker.forbidFrameset.enter .inTemplate
  { b with templateModes := .inTemplate :: b.templateModes }.done

/-- Closes the innermost template; its mode counts no more. -/
def leaveTemplate (b : Builder) : Builder :=
  let b := b.clearFormattingToMarker
  { b with templateModes := b.templateModes.tail }.resetMode

def closeTemplate (b : Builder) : Step :=
  if b.hasOpen "template" then
    ((b.popWhile ElementName.endsInTemplate).expectToClose "template").leaveTemplate.done
  else b.unexpected

def metadata (t : Tag) (b : Builder) : Step :=
  match t.kind with
  | .closing => b.closeTemplate
  | .opening =>
    if emptyMetadata.contains t.name then (b.insertEmptyTag t).acknowledged
    else if t.name = "title" then b.insertTextElement t (.escapable t.name)
    else if t.name = "script" then b.insertTextElement t .script
    else if t.name = "template" then b.openTemplate t
    else b.insertTextElement t (.raw t.name)

def repeatedRoot (t : Tag) (b : Builder) : Step :=
  let b := b.report .unexpectedToken
  match b.hasOpen "template", b.opened.getLast? with
  | false, some root => { b with tree := b.tree.addAttributes root.id t.attributes }.done
  | _, _ => b.done

def endInTemplate (b : Builder) : Step :=
  if b.hasOpen "template" then
    ((b.report .unexpectedToken).popThroughNamed "template").leaveTemplate.again
  else b.done

end ShapeCoords.Markup.Builder
