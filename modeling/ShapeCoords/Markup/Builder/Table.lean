import ShapeCoords.Markup.Builder.Body

/-!
Tokens inside of tables. What may not stand in a table is treated as in the body, but moves in front
of the table.
-/

namespace ShapeCoords.Markup.Builder

/-- Treats a token as in the body, where content of a table moves in front of it. -/
def fosterInBody (token : Token) (b : Builder) : Step :=
  let (b, outcome) := inBody token { b with fosters := true }
  ({ b with fosters := false }, outcome)

/-- Clears the way for a part of a table and opens it. -/
def openPart (context : ElementName → Bool) (mode : Mode) (t : Tag) (b : Builder) : Builder :=
  ((b.popUntilCurrent context).insertTag t).enter mode

/-- Opens a part of a table for which there is no tag, where `mode` is to look at the tag again. -/
def openMissingPart (context : ElementName → Bool) (mode : Mode) (name : String) (b : Builder) :
    Step :=
  (((b.popUntilCurrent context).insertPhantom name).enter mode).again

def namedInTable (name : String) : Builder → Bool :=
  namedInScope ElementName.endsTableScope name

def groupNames : List String :=
  ["tbody", "tfoot", "thead"]

def textInTable (token : Token) (b : Builder) : Step :=
  if b.currentIs ElementName.isTablePart then
    { b with modeBehindText := b.mode, mode := .inTableText }.again
  else (b.report .textInTable).fosterInBody token

def openTagInTable (t : Tag) (b : Builder) : Step :=
  if t.name = "caption" then
    ((b.popUntilCurrent ElementName.endsTableScope).pushMarker.insertTag t |>.enter .inCaption).done
  else if t.name = "colgroup" then
    (b.openPart ElementName.endsTableScope .inColumnGroup t).done
  else if t.name = "col" then
    b.openMissingPart ElementName.endsTableScope .inColumnGroup "colgroup"
  else if groupNames.contains t.name then
    (b.openPart ElementName.endsTableScope .inTableBody t).done
  else if ["td", "th", "tr"].contains t.name then
    b.openMissingPart ElementName.endsTableScope .inTableBody "tbody"
  else if t.name = "table" then
    let b := b.report .unexpectedToken
    if b.namedInTable "table" then (b.popThroughNamed "table").resetMode.again else b.done
  else if ["style", "script", "template"].contains t.name then b.metadata t
  else if t.name = "input" then
    let b := b.report .unexpectedToken
    if (t.value? "type").any fun v => Text.sameIgnoringCase v.toList "hidden".toList then
      (b.insertEmptyTag t).acknowledged
    else b.fosterInBody (.tag t)
  else if t.name = "form" then
    let b := b.report .unexpectedToken
    if b.form.isNone && !b.hasOpen "template" then
      let o := b.next t.element
      { b.insertEmptyTag t with form := some o.id }.done
    else b.done
  else (b.report .unexpectedToken).fosterInBody (.tag t)

def closeTagInTable (t : Tag) (b : Builder) : Step :=
  if t.name = "table" then
    if b.namedInTable "table" then (b.popThroughNamed "table").resetMode.done else b.unexpected
  else if ["body", "caption", "col", "colgroup", "html", "tbody", "td", "tfoot", "th", "thead",
      "tr"].contains t.name then b.unexpected
  else if t.name = "template" then b.metadata t
  else (b.report .unexpectedToken).fosterInBody (.tag t)

def inTable : Token → Builder → Step
  | .tag t, b =>
    match t.kind with
    | .opening => b.openTagInTable t
    | .closing => b.closeTagInTable t
  | .endOfText, b => b.endOfTextInBody
  | .comment, b => b.done
  | token, b => b.textInTable token

/-- Gives the texts inside of a table their place: white space stays in the table. -/
def flushTableTexts (b : Builder) : Builder :=
  let texts := b.tableTexts.reverse
  let b := { b with tableTexts := [] }
  if texts.all isAllSpace then b
  else texts.foldl (fun b s => (b.fosterInBody (.text s)).1) (b.report .nonSpaceInTable)

def inTableText : Token → Builder → Step
  | .null, b => b.unexpected
  | .text s, b => { b with tableTexts := s :: b.tableTexts }.done
  | _, b => (b.flushTableTexts.enter b.modeBehindText).again

def closeCaption (b : Builder) : Builder :=
  (b.endImplied.expectToClose "caption").clearFormattingToMarker.enter .inTable

def inCaption : Token → Builder → Step
  | .tag t, b =>
    let ends :=
      match t.kind with
      | .opening => ["caption", "col", "colgroup", "tbody", "td", "tfoot", "th", "thead", "tr"]
      | .closing => ["table", "caption"]
    if ends.contains t.name then
      if b.namedInTable "caption" then
        let b := b.closeCaption
        if t.kind = .closing ∧ t.name = "caption" then b.done else b.again
      else b.unexpected
    else if t.kind = .closing && ["body", "col", "colgroup", "html", "tbody", "td", "tfoot", "th",
        "thead", "tr"].contains t.name then b.unexpected
    else inBody (.tag t) b
  | token, b => inBody token b

def leaveColumnGroup (b : Builder) : Step :=
  if b.currentNamed "colgroup" then (b.pop.enter .inTable).again else b.unexpected

def inColumnGroup : Token → Builder → Step
  | .text s, b => if isAllSpace s then b.done else b.leaveColumnGroup
  | .comment, b => b.done
  | .endOfText, b => b.endOfTextInBody
  | .tag t, b =>
    match t.kind with
    | .opening =>
      if t.name = "html" then b.repeatedRoot t
      else if t.name = "col" then (b.insertEmptyTag t).acknowledged
      else if t.name = "template" then b.metadata t
      else b.leaveColumnGroup
    | .closing =>
      if t.name = "colgroup" then
        if b.currentNamed "colgroup" then (b.pop.enter .inTable).done else b.unexpected
      else if t.name = "col" then b.unexpected
      else if t.name = "template" then b.metadata t
      else b.leaveColumnGroup
  | _, b => b.leaveColumnGroup

def closeGroup (b : Builder) : Builder :=
  (b.popUntilCurrent ElementName.isTableBodyContext).pop.enter .inTable

def leaveGroup (b : Builder) : Step :=
  let inGroup (o : Open) : Bool := o.element.isHtml ["table", "tbody", "tfoot"]
  if inScope ElementName.endsTableScope inGroup b.opened then b.closeGroup.again else b.unexpected

def inTableBody : Token → Builder → Step
  | .tag t, b =>
    match t.kind with
    | .opening =>
      if t.name = "tr" then (b.openPart ElementName.isTableBodyContext .inRow t).done
      else if ["th", "td"].contains t.name then
        (b.report .unexpectedToken).openMissingPart ElementName.isTableBodyContext .inRow "tr"
      else if ["caption", "col", "colgroup"].contains t.name || groupNames.contains t.name then
        b.leaveGroup
      else inTable (.tag t) b
    | .closing =>
      if groupNames.contains t.name then
        if b.namedInTable t.name then b.closeGroup.done else b.unexpected
      else if t.name = "table" then b.leaveGroup
      else if ["body", "caption", "col", "colgroup", "html", "td", "th", "tr"].contains t.name then
        b.unexpected
      else inTable (.tag t) b
  | token, b => inTable token b

def closeRow (b : Builder) : Builder :=
  (b.popUntilCurrent ElementName.isRowContext).pop.enter .inTableBody

def leaveRow (b : Builder) : Step :=
  if b.namedInTable "tr" then b.closeRow.again else b.unexpected

def inRow : Token → Builder → Step
  | .tag t, b =>
    match t.kind with
    | .opening =>
      if ["th", "td"].contains t.name then
        (b.openPart ElementName.isRowContext .inCell t).pushMarker.done
      else if ["caption", "col", "colgroup", "tr"].contains t.name ||
          groupNames.contains t.name then
        b.leaveRow
      else inTable (.tag t) b
    | .closing =>
      if t.name = "tr" then
        if b.namedInTable "tr" then b.closeRow.done else b.unexpected
      else if t.name = "table" then b.leaveRow
      else if groupNames.contains t.name then
        if b.namedInTable t.name then
          if b.namedInTable "tr" then b.closeRow.again else b.done
        else b.unexpected
      else if ["body", "caption", "col", "colgroup", "html", "td", "th"].contains t.name then
        b.unexpected
      else inTable (.tag t) b
  | token, b => inTable token b

def leaveCell (b : Builder) : Step :=
  let b := b.endImplied.closeExpecting .openInCell ElementName.isCell
  (b.clearFormattingToMarker.enter .inRow).again

def inCell : Token → Builder → Step
  | .tag t, b =>
    match t.kind with
    | .opening =>
      if ["caption", "col", "colgroup", "td", "th", "tr"].contains t.name ||
          groupNames.contains t.name then
        let inCell (o : Open) : Bool := o.element.isCell
        if inScope ElementName.endsTableScope inCell b.opened then b.leaveCell else b.unexpected
      else inBody (.tag t) b
    | .closing =>
      if ["td", "th"].contains t.name then
        if b.namedInTable t.name then
          ((b.endImplied.expectToClose t.name).clearFormattingToMarker.enter .inRow).done
        else b.unexpected
      else if ["body", "caption", "col", "colgroup", "html"].contains t.name then b.unexpected
      else if ["table", "tr"].contains t.name || groupNames.contains t.name then
        if b.namedInTable t.name then b.leaveCell else b.unexpected
      else inBody (.tag t) b
  | token, b => inBody token b

end ShapeCoords.Markup.Builder
