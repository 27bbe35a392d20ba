/-!
Parse errors of markup. None of them ends the reading: each is reported, and the text is repaired.
-/

namespace ShapeCoords.Markup

inductive Fault where
  | badCharacter
  | endOfText
  | duplicateAttribute
  | attributesOnEndTag
  | selfClosingEndTag
  | selfClosingIgnored
  | badDoctype
  | doctypeInBody
  | referenceWithoutSemicolon
  | unknownReference
  | equalsAfterReference
  | referenceWithoutDigits
  | numberWithoutSemicolon
  | badNumber
  | endInNumber
  | endAfterHash
  | unexpectedToken
  | unexpectedOpenElement
  | openAtEndOfBody
  | specialWhileClosing
  | noBodyForBodyEnd
  | noBodyForHtmlEnd
  | noParagraphToClose
  | noMatchToClose
  | noHeadingToClose
  | wrongHeadingClosed
  | nestedHeadings
  | nestedButtons
  | nestedForms
  | nestedNobr
  | noFormToClose
  | formNotInScope
  | openInForm
  | formattingNotOpen
  | formattingNotInScope
  | formattingNotCurrent
  | openInCell
  | textInTable
  | nonSpaceInTable
  deriving DecidableEq, Repr

def Fault.message : Fault → String
  | .badCharacter => "Bad character"
  | .endOfText => "Unexpected EOF"
  | .duplicateAttribute => "Duplicate attribute"
  | .attributesOnEndTag => "Attributes on an end tag"
  | .selfClosingEndTag => "Self-closing end tag"
  | .selfClosingIgnored => "Unacknowledged self-closing tag"
  | .badDoctype => "Bad DOCTYPE"
  | .doctypeInBody => "DOCTYPE in body"
  | .referenceWithoutSemicolon => "Character reference does not end with semicolon"
  | .unknownReference => "Invalid character reference"
  | .equalsAfterReference => "Equals sign after character reference in attribute"
  | .referenceWithoutDigits => "Numeric character reference without digits"
  | .numberWithoutSemicolon => "Semicolon missing after numeric character reference"
  | .badNumber => "Invalid numeric character reference"
  | .endInNumber => "EOF in numeric character reference"
  | .endAfterHash => "EOF after '#' in character reference"
  | .unexpectedToken => "Unexpected token"
  | .unexpectedOpenElement => "Unexpected open element"
  | .openAtEndOfBody => "Unexpected open tag at end of body"
  | .specialWhileClosing => "Found special tag while closing generic tag"
  | .noBodyForBodyEnd => "</body> with no <body> in scope"
  | .noBodyForHtmlEnd => "</html> with no <body> in scope"
  | .noParagraphToClose => "No <p> tag to close"
  | .noMatchToClose => "No matching tag to close"
  | .noHeadingToClose => "No heading tag to close"
  | .wrongHeadingClosed => "Closing wrong heading tag"
  | .nestedHeadings => "nested heading tags"
  | .nestedButtons => "nested buttons"
  | .nestedForms => "nested forms"
  | .nestedNobr => "Nested <nobr>"
  | .noFormToClose => "Null form element pointer on </form>"
  | .formNotInScope => "Form element not in scope on </form>"
  | .openInForm => "Bad open element on </form>"
  | .formattingNotOpen => "Formatting element not open"
  | .formattingNotInScope => "Formatting element not in scope"
  | .formattingNotCurrent => "Formatting element not current node"
  | .openInCell => "expected to close <td> or <th> with cell"
  | .textInTable => "Unexpected characters in table"
  | .nonSpaceInTable => "Non-space table text"

end ShapeCoords.Markup
