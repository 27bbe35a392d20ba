import ShapeCoords.Markup.Builder.Metadata
import ShapeCoords.Markup.Builder.Misnesting

/-!
Tokens inside of the body.
-/

namespace ShapeCoords.Markup.Builder

open Text (sameIgnoringCase)

def body? (b : Builder) : Option Open :=
  match b.opened.reverse with
  | _ :: o :: _ => if o.element.isNamed "body" then some o else none
  | _ => none

/-- Reports an element that should have been closed before the end of the body. -/
def checkBodyEnd (b : Builder) : Builder :=
  if b.opened.all fun o => o.element.mayEndBody then b else b.report .openAtEndOfBody

def repeatedBody (t : Tag) (b : Builder) : Step :=
  let b := b.report .unexpectedToken
  match b.hasOpen "template", b.body? with
  | false, some o =>
    { b with tree := b.tree.addAttributes o.id t.attributes }.forbidFrameset.done
  | _, _ => b.done

/-- A frameset in place of the body, as long as that has no content. -/
def replaceBody (t : Tag) (b : Builder) : Step :=
  let b := b.report .unexpectedToken
  match b.framesetAllowed, b.body? with
  | true, some o =>
    let root := b.opened.drop (b.opened.length - 1)
    (({ b with tree := b.tree.detach o.id, opened := root }.insertTag t).enter .inFrameset).done
  | _, _ => b.done

def endOfBody (b : Builder) : Step :=
  if b.namedInScope ElementName.endsScope "body" then (b.checkBodyEnd.enter .afterBody).done
  else (b.report .noBodyForBodyEnd).done

def endOfRoot (b : Builder) : Step :=
  if b.namedInScope ElementName.endsScope "body" then (b.checkBodyEnd.enter .afterBody).again
  else (b.report .noBodyForHtmlEnd).done

def openHeading (t : Tag) (b : Builder) : Step :=
  let b := b.closeParagraphInScope
  let b := if b.currentIs ElementName.isHeading then (b.report .nestedHeadings).pop else b
  (b.insertTag t).done

def openForm (t : Tag) (b : Builder) : Step :=
  let inTemplate := b.hasOpen "template"
  if b.form.isSome && !inTemplate then (b.report .nestedForms).done
  else
    let b := b.closeParagraphInScope
    let o := b.next t.element
    let b := b.insertTag t
    if inTemplate then b.done else { b with form := some o.id }.done

/-- The open item that a new item of a list ends. -/
def itemToClose? (names : List String) : List Open → Option String
  | [] => none
  | o :: opened =>
    if o.element.isHtml names then some o.element.name
    else if o.element.isSpecial && !o.element.isHtml ["address", "div", "p"] then none
    else itemToClose? names opened

def openItem (t : Tag) (b : Builder) : Step :=
  let names := if t.name = "li" then ["li"] else ["dd", "dt"]
  let b := b.forbidFrameset
  let b :=
    match itemToClose? names b.opened with
    | some name => (b.endImpliedExcept name).expectToClose name
    | none => b
  (b.closeParagraphInScope.insertTag t).done

def openButton (t : Tag) (b : Builder) : Step :=
  let b :=
    if b.namedInScope ElementName.endsScope "button" then
      ((b.report .nestedButtons).endImplied).popThroughNamed "button"
    else b
  (b.reconstruct.insertTag t).forbidFrameset.done

/-- Ends a link that a new one must not stand in. -/
def closeLink (b : Builder) : Builder :=
  match (formattingToMarker b.formatting).find? fun (o, _) => o.element.isNamed "a" with
  | some (o, _) =>
    (((b.report .unexpectedToken).closeFormatting "a").removeFormatting o.id).closeOpen o.id
  | none => b

def openNobr (t : Tag) (b : Builder) : Step :=
  let b := b.reconstruct
  let b :=
    if b.namedInScope ElementName.endsScope "nobr" then
      ((b.report .nestedNobr).closeFormatting "nobr").reconstruct
    else b
  (b.insertFormatting t).done

def insertReplaced (t : Tag) (b : Builder) : Step :=
  let hidden := t.name = "input" &&
    (t.value? "type").any fun v => sameIgnoringCase v.toList "hidden".toList
  let b := b.reconstruct.insertEmptyTag t
  if hidden then b.acknowledged else b.forbidFrameset.acknowledged

def openSelect (t : Tag) (b : Builder) : Step :=
  let b := (b.reconstruct.insertTag t).forbidFrameset
  let inTable := [Mode.inTable, .inCaption, .inTableBody, .inRow, .inCell].contains b.mode
  (b.enter (if inTable then .inSelectInTable else .inSelect)).done

/-- Annotations of ruby text: `rb` and `rtc`, or `rp` and `rt`, which may stand in `rtc`. -/
def openRuby (t : Tag) (b : Builder) : Step :=
  let inner := t.name = "rp" ∨ t.name = "rt"
  let b :=
    if b.namedInScope ElementName.endsScope "ruby" then
      if inner then b.endImpliedExcept "rtc" else b.endImplied
    else b
  let fits := b.currentNamed "ruby" || (inner && b.currentNamed "rtc")
  ((if fits then b else b.report .unexpectedToken).insertTag t).done

def insertForeign (space : Namespace) (t : Tag) (b : Builder) : Step :=
  let e : ElementName := ⟨space, t.name⟩
  if t.selfClosing then (b.insertEmpty e t.attributes).acknowledged
  else (b.insert e t.attributes).done

def blockNames : List String :=
  ["address", "article", "aside", "blockquote", "center", "details", "dialog", "dir", "div", "dl",
    "fieldset", "figcaption", "figure", "footer", "header", "hgroup", "main", "menu", "nav", "ol",
    "section", "summary", "ul"]

def headingNames : List String :=
  ["h1", "h2", "h3", "h4", "h5", "h6"]

/-- The names of elements for formatting, which goes on behind misplaced end tags. -/
def formattingNames : List String :=
  ["b", "big", "code", "em", "font", "i", "s", "small", "strike", "strong", "tt", "u"]

/-- The names of elements that formatting does not go into. -/
def enclosedNames : List String :=
  ["applet", "marquee", "object"]

def openTagInBody (t : Tag) (b : Builder) : Step :=
  if t.name = "html" then b.repeatedRoot t
  else if isMetadata t then b.metadata t
  else if t.name = "body" then b.repeatedBody t
  else if t.name = "frameset" then b.replaceBody t
  else if t.name = "p" ∨ blockNames.contains t.name then (b.closeParagraphInScope.insertTag t).done
  else if headingNames.contains t.name then b.openHeading t
  else if ["pre", "listing"].contains t.name then
    { b.closeParagraphInScope.insertTag t with skipsNewline := true }.forbidFrameset.done
  else if t.name = "form" then b.openForm t
  else if ["li", "dd", "dt"].contains t.name then b.openItem t
  else if t.name = "plaintext" then (b.closeParagraphInScope.insertTag t, .content .plain)
  else if t.name = "button" then b.openButton t
  else if t.name = "a" then (b.closeLink.reconstruct.insertFormatting t).done
  else if formattingNames.contains t.name then (b.reconstruct.insertFormatting t).done
  else if t.name = "nobr" then b.openNobr t
  else if enclosedNames.contains t.name then
    (b.reconstruct.insertTag t).pushMarker.forbidFrameset.done
  else if t.name = "table" then
    let b := if b.followsOldRules then b else b.closeParagraphInScope
    ((b.insertTag t).forbidFrameset.enter .inTable).done
  else if ["area", "br", "embed", "img", "keygen", "wbr", "input"].contains t.name then
    b.insertReplaced t
  else if ["param", "source", "track"].contains t.name then (b.insertEmptyTag t).acknowledged
  else if t.name = "hr" then
    (b.closeParagraphInScope.insertEmptyTag t).forbidFrameset.acknowledged
  else if t.name = "image" then (b.report .unexpectedToken).insertReplaced { t with name := "img" }
  else if t.name = "textarea" then
    { b.forbidFrameset with skipsNewline := true }.insertTextElement t (.escapable t.name)
  else if t.name = "xmp" then
    b.closeParagraphInScope.reconstruct.forbidFrameset.insertTextElement t (.raw t.name)
  else if t.name = "iframe" then b.forbidFrameset.insertTextElement t (.raw t.name)
  else if ["noembed", "noscript"].contains t.name then b.insertTextElement t (.raw t.name)
  else if t.name = "select" then b.openSelect t
  else if ["optgroup", "option"].contains t.name then
    ((if b.currentNamed "option" then b.pop else b).reconstruct.insertTag t).done
  else if ["rb", "rtc", "rp", "rt"].contains t.name then b.openRuby t
  else if t.name = "math" then b.insertForeign .mathml t
  else if t.name = "svg" then b.insertForeign .svg t
  else if ["caption", "col", "colgroup", "frame", "head", "tbody", "td", "tfoot", "th", "thead",
      "tr"].contains t.name then b.unexpected
  else (b.reconstruct.insertTag t).done

def closeBlock (t : Tag) (b : Builder) : Step :=
  if b.namedInScope ElementName.endsScope t.name then (b.endImplied.expectToClose t.name).done
  else b.unexpected

def closeForm (b : Builder) : Step :=
  if b.hasOpen "template" then
    if b.namedInScope ElementName.endsScope "form" then
      let b := b.endImplied
      let b := if b.currentNamed "form" then b else b.report .openInForm
      (b.popThroughNamed "form").done
    else (b.report .formNotInScope).done
  else
    match b.form with
    | none => (b.report .noFormToClose).done
    | some id =>
      let b := { b with form := none }
      if inScope ElementName.endsScope (fun o => o.id == id) b.opened then
        let b := b.endImplied
        let isCurrent := b.current?.any fun o => o.id == id
        let b := b.closeOpen id
        (if isCurrent then b else b.report .openInForm).done
      else (b.report .formNotInScope).done

def closeItem (t : Tag) (b : Builder) : Step :=
  let ends := if t.name = "li" then ElementName.endsListScope else ElementName.endsScope
  if b.namedInScope ends t.name then ((b.endImpliedExcept t.name).expectToClose t.name).done
  else (b.report .noMatchToClose).done

def closeHeading (t : Tag) (b : Builder) : Step :=
  if inScope ElementName.endsScope (fun o => o.element.isHeading) b.opened then
    let b := b.endImplied
    let b := if b.currentNamed t.name then b else b.report .wrongHeadingClosed
    (b.popThrough ElementName.isHeading).done
  else (b.report .noHeadingToClose).done

def closeEnclosed (t : Tag) (b : Builder) : Step :=
  if b.namedInScope ElementName.endsScope t.name then
    ((b.endImplied.expectToClose t.name).clearFormattingToMarker).done
  else b.unexpected

def closeTagInBody (t : Tag) (b : Builder) : Step :=
  if isMetadata t then b.metadata t
  else if t.name = "body" then b.endOfBody
  else if t.name = "html" then b.endOfRoot
  else if blockNames.contains t.name || ["button", "listing", "pre"].contains t.name then
    b.closeBlock t
  else if t.name = "form" then b.closeForm
  else if t.name = "p" then
    let inScope := b.namedInScope ElementName.endsButtonScope "p"
    (if inScope then b else (b.report .noParagraphToClose).insertPhantom "p").closeParagraph.done
  else if ["li", "dd", "dt"].contains t.name then b.closeItem t
  else if headingNames.contains t.name then b.closeHeading t
  else if formattingNames.contains t.name || ["a", "nobr"].contains t.name then
    (b.closeFormatting t.name).done
  else if enclosedNames.contains t.name then b.closeEnclosed t
  else if t.name = "br" then
    (b.report .unexpectedToken).insertReplaced { t with kind := .opening, attributes := [] }
  else (b.closeNamed t.name).done

def textInBody (s : List Char) (b : Builder) : Step :=
  let b := b.reconstruct
  (if isAllSpace s then b else b.forbidFrameset).done

def endOfTextInBody (b : Builder) : Step :=
  if b.templateModes.isEmpty then b.checkBodyEnd.done else b.endInTemplate

def inBody : Token → Builder → Step
  | .null, b => b.unexpected
  | .text s, b => b.textInBody s
  | .tag t, b =>
    match t.kind with
    | .opening => b.openTagInBody t
    | .closing => b.closeTagInBody t
  | .endOfText, b => b.endOfTextInBody
  | .comment, b => b.done
  | .doctype _, b => b.done

end ShapeCoords.Markup.Builder
