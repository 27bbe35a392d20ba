import ShapeCoords.Markup.Builder.Table

/-!
Tokens in each part of a document, and in content of SVG and MathML.
-/

namespace ShapeCoords.Markup.Builder

/-- The end tags that make up for a missing start of the document. -/
def startsDocument (t : Tag) : Bool :=
  ["head", "body", "html", "br"].contains t.name

def inInitial : Token → Builder → Step
  | .text s, b =>
    if isAllSpace s then b.done
    else ({ b.report .unexpectedToken with followsOldRules := true }.enter .beforeHtml).again
  | .comment, b => b.done
  | _, b => ({ b.report .unexpectedToken with followsOldRules := true }.enter .beforeHtml).again

def beforeHtml : Token → Builder → Step
  | .text s, b => if isAllSpace s then b.done else missing b
  | .comment, b => b.done
  | .tag t, b =>
    match t.kind with
    | .opening =>
      if t.name = "html" then ((b.insertRoot t.attributes).enter .beforeHead).done else missing b
    | .closing => if startsDocument t then missing b else b.unexpected
  | _, b => missing b
where
  /-- The root for which there is no tag. -/
  missing (b : Builder) : Step := ((b.insertRoot []).enter .beforeHead).again

def openHead (t : Tag) (b : Builder) : Builder :=
  { b.insertTag t with head := some (b.next t.element) }.enter .inHead

def beforeHead : Token → Builder → Step
  | .text s, b => if isAllSpace s then b.done else missing b
  | .comment, b => b.done
  | .tag t, b =>
    match t.kind with
    | .opening =>
      if t.name = "html" then b.repeatedRoot t
      else if t.name = "head" then (b.openHead t).done
      else missing b
    | .closing => if startsDocument t then missing b else b.unexpected
  | _, b => missing b
where
  /-- The head for which there is no tag. -/
  missing (b : Builder) : Step := (b.openHead ⟨.opening, "head", [], false⟩).again

def inHead : Token → Builder → Step
  | .text s, b => if isAllSpace s then b.done else leave b
  | .comment, b => b.done
  | .tag t, b =>
    match t.kind with
    | .opening =>
      if t.name = "html" then b.repeatedRoot t
      else if isMetadata t || t.name = "noscript" then b.metadata t
      else if t.name = "head" then b.unexpected
      else leave b
    | .closing =>
      if t.name = "head" then (b.pop.enter .afterHead).done
      else if t.name = "template" then b.metadata t
      else if startsDocument t then leave b
      else b.unexpected
  | _, b => leave b
where
  /-- Ends the head for a token that does not belong there. -/
  leave (b : Builder) : Step := (b.pop.enter .afterHead).again

/-- Metadata between head and body belongs into the head. -/
def metadataAfterHead (t : Tag) (b : Builder) : Step :=
  let b := b.report .unexpectedToken
  match b.head with
  | none => b.done
  | some head =>
    let (b, outcome) := (b.push head).metadata t
    (b.closeOpen head.id, outcome)

def afterHead : Token → Builder → Step
  | .text s, b => if isAllSpace s then b.done else missing b
  | .comment, b => b.done
  | .tag t, b =>
    match t.kind with
    | .opening =>
      if t.name = "html" then b.repeatedRoot t
      else if t.name = "body" then ((b.insertTag t).forbidFrameset.enter .inBody).done
      else if t.name = "frameset" then ((b.insertTag t).enter .inFrameset).done
      else if isMetadata t then b.metadataAfterHead t
      else if t.name = "head" then b.unexpected
      else missing b
    | .closing =>
      if t.name = "template" then b.metadata t
      else if t.name = "head" then b.unexpected
      else if startsDocument t then missing b
      else b.unexpected
  | _, b => missing b
where
  /-- The body for which there is no tag. -/
  missing (b : Builder) : Step := ((b.insertPhantom "body").enter .inBody).again

def inText : Token → Builder → Step
  | .endOfText, b => ((b.report .unexpectedToken).pop.enter b.modeBehindText).again
  | .tag _, b => (b.pop.enter b.modeBehindText).done
  | _, b => b.done

/-- Closes the `select` for a tag that does not belong there. -/
def leaveSelect (b : Builder) : Step :=
  (b.popThroughNamed "select").resetMode.again

def selectInScope : Builder → Bool :=
  namedInScope ElementName.endsSelectScope "select"

def openTagInSelect (t : Tag) (b : Builder) : Step :=
  if t.name = "html" then b.repeatedRoot t
  else if t.name = "option" then
    ((if b.currentNamed "option" then b.pop else b).insertTag t).done
  else if t.name = "optgroup" then
    let b := if b.currentNamed "option" then b.pop else b
    let b := if b.currentNamed "optgroup" then b.pop else b
    (b.insertTag t).done
  else if t.name = "select" then
    let b := b.report .unexpectedToken
    if b.selectInScope then (b.popThroughNamed "select").resetMode.done else b.done
  else if ["input", "keygen", "textarea"].contains t.name then
    let b := b.report .unexpectedToken
    if b.selectInScope then b.leaveSelect else b.done
  else if ["script", "template"].contains t.name then b.metadata t
  else b.unexpected

def closeTagInSelect (t : Tag) (b : Builder) : Step :=
  if t.name = "optgroup" then
    let outer := b.pop
    let b := if b.currentNamed "option" && outer.currentNamed "optgroup" then outer else b
    if b.currentNamed "optgroup" then b.pop.done else b.unexpected
  else if t.name = "option" then if b.currentNamed "option" then b.pop.done else b.unexpected
  else if t.name = "select" then
    if b.selectInScope then (b.popThroughNamed "select").resetMode.done else b.unexpected
  else if t.name = "template" then b.metadata t
  else b.unexpected

def inSelect : Token → Builder → Step
  | .null, b => b.unexpected
  | .tag t, b =>
    match t.kind with
    | .opening => b.openTagInSelect t
    | .closing => b.closeTagInSelect t
  | .endOfText, b => b.endOfTextInBody
  | _, b => b.done

def inSelectInTable : Token → Builder → Step
  | .tag t, b =>
    if ["caption", "table", "tbody", "tfoot", "thead", "tr", "td", "th"].contains t.name then
      let b := b.report .unexpectedToken
      if t.kind = .opening || b.namedInTable t.name then b.leaveSelect else b.done
    else inSelect (.tag t) b
  | token, b => inSelect token b

/-- Goes on inside of a template with the mode that its content asks for. -/
def switchTemplate (mode : Mode) (b : Builder) : Step :=
  ({ b with templateModes := mode :: b.templateModes.tail }.enter mode).again

def inTemplate : Token → Builder → Step
  | .null, b => b.unexpected
  | .tag t, b =>
    match t.kind with
    | .opening =>
      if isMetadata t then b.metadata t
      else if ["caption", "colgroup"].contains t.name || groupNames.contains t.name then
        b.switchTemplate .inTable
      else if t.name = "col" then b.switchTemplate .inColumnGroup
      else if t.name = "tr" then b.switchTemplate .inTableBody
      else if ["td", "th"].contains t.name then b.switchTemplate .inRow
      else b.switchTemplate .inBody
    | .closing => if isMetadata t then b.metadata t else b.unexpected
  | .endOfText, b => b.endInTemplate
  | token, b => inBody token b

/-- Goes back into the body for a token that does not belong behind it. -/
def returnToBody (b : Builder) : Step :=
  ((b.report .unexpectedToken).enter .inBody).again

def afterBody : Token → Builder → Step
  | .text s, b => if isAllSpace s then b.textInBody s else b.returnToBody
  | .comment, b => b.done
  | .endOfText, b => b.done
  | .tag t, b =>
    if t.name = "html" then
      match t.kind with
      | .opening => b.repeatedRoot t
      | .closing => (b.enter .afterAfterBody).done
    else b.returnToBody
  | _, b => b.returnToBody

def afterAfterBody : Token → Builder → Step
  | .text s, b => if isAllSpace s then b.textInBody s else b.returnToBody
  | .comment, b => b.done
  | .endOfText, b => b.done
  | .tag t, b =>
    if t.name = "html" ∧ t.kind = .opening then b.repeatedRoot t else b.returnToBody
  | _, b => b.returnToBody

def inFrameset : Token → Builder → Step
  | .text s, b => if isAllSpace s then b.done else b.unexpected
  | .comment, b => b.done
  | .endOfText, b => if b.opened.length = 1 then b.done else b.unexpected
  | .tag t, b =>
    match t.kind with
    | .opening =>
      if t.name = "html" then b.repeatedRoot t
      else if t.name = "frameset" then (b.insertTag t).done
      else if t.name = "frame" then (b.insertEmptyTag t).acknowledged
      else if t.name = "noframes" then b.metadata t
      else b.unexpected
    | .closing =>
      if t.name = "frameset" && b.opened.length != 1 then
        let b := b.pop
        (if b.currentNamed "frameset" then b else b.enter .afterFrameset).done
      else b.unexpected
  | _, b => b.unexpected

def afterFrameset : Token → Builder → Step
  | .text s, b => if isAllSpace s then b.done else b.unexpected
  | .comment, b => b.done
  | .endOfText, b => b.done
  | .tag t, b =>
    if t.name = "html" then
      match t.kind with
      | .opening => b.repeatedRoot t
      | .closing => (b.enter .afterAfterFrameset).done
    else if t.name = "noframes" ∧ t.kind = .opening then b.metadata t
    else b.unexpected
  | _, b => b.unexpected

def afterAfterFrameset : Token → Builder → Step
  | .text s, b => if isAllSpace s then b.textInBody s else b.unexpected
  | .comment, b => b.done
  | .endOfText, b => b.done
  | .tag t, b =>
    match t.kind with
    | .opening =>
      if t.name = "html" then b.repeatedRoot t
      else if t.name = "noframes" then b.metadata t
      else b.unexpected
    | .closing => b.unexpected
  | _, b => b.unexpected

def stepIn : Mode → Token → Builder → Step
  | .initial => inInitial
  | .beforeHtml => beforeHtml
  | .beforeHead => beforeHead
  | .inHead => inHead
  | .afterHead => afterHead
  | .inBody => inBody
  | .text => inText
  | .inTable => inTable
  | .inTableText => inTableText
  | .inCaption => inCaption
  | .inColumnGroup => inColumnGroup
  | .inTableBody => inTableBody
  | .inRow => inRow
  | .inCell => inCell
  | .inSelect => inSelect
  | .inSelectInTable => inSelectInTable
  | .inTemplate => inTemplate
  | .afterBody => afterBody
  | .inFrameset => inFrameset
  | .afterFrameset => afterFrameset
  | .afterAfterBody => afterAfterBody
  | .afterAfterFrameset => afterAfterFrameset

/-- Whether white space in a text is treated apart from other characters. -/
def splitsText : Mode → Bool
  | .initial | .beforeHtml | .beforeHead | .inHead | .afterHead | .inColumnGroup | .afterBody
  | .inFrameset | .afterFrameset | .afterAfterBody | .afterAfterFrameset => true
  | _ => false

def holdsHtml (e : ElementName) : Bool :=
  e.space == .html || e.isTextIntegration || e.isContentIntegration

def openTagInForeign (t : Tag) (b : Builder) : Step :=
  if t.leavesForeign then
    ((b.report .unexpectedToken).pop.popUntilCurrent holdsHtml).again
  else
    match b.current? with
    | some o => b.insertForeign o.element.space t
    | none => b.done

/-- Looks for the element that an end tag closes, outwards from an element that it does not close.
The rules of HTML take over at the first element of HTML. -/
def closeOuterForeign (t : Tag) (b : Builder) : List Open → Step
  | [] => b.done
  | [_] => b.done
  | o :: opened =>
    if o.element.space = .html then stepIn b.mode (.tag t) b
    else if o.element.name = t.name then { b with opened := opened }.done
    else closeOuterForeign t b opened

def closeTagInForeign (t : Tag) (b : Builder) : Step :=
  match b.opened with
  | o :: below :: opened =>
    if o.element.name = t.name then b.pop.done
    else closeOuterForeign t (b.report .unexpectedToken) (below :: opened)
  | _ => b.done

def inForeign : Token → Builder → Step
  | .null, b => b.unexpected
  | .text s, b => (if isAllSpace s then b else b.forbidFrameset).done
  | .tag t, b =>
    match t.kind with
    | .opening => b.openTagInForeign t
    | .closing => b.closeTagInForeign t
  | _, b => b.done

/-- Whether a token counts as content of HTML inside of an element. -/
def isHtmlIn (e : ElementName) : Token → Bool
  | .endOfText => true
  | .text _ | .null => holdsHtml e
  | .tag t =>
    match t.kind with
    | .closing => e.space == .html
    | .opening =>
      e.space == .html || e.isContentIntegration ||
        (e.isTextIntegration && !(["mglyph", "malignmark"].contains t.name)) ||
        (e == ⟨.mathml, "annotation-xml"⟩ && t.name = "svg")
  | _ => e.space == .html

def step (token : Token) (b : Builder) : Step :=
  match b.current? with
  | some o => if isHtmlIn o.element token then stepIn b.mode token b else inForeign token b
  | none => stepIn b.mode token b

def isForeign (b : Builder) : Bool :=
  b.current?.any fun o => o.element.space != .html

end ShapeCoords.Markup.Builder
