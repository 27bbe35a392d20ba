import ShapeCoords.Number.Decimal

/-!
What can be wrong with the form of a YAML text: the problem, where it was found, and what was being
read then.
-/

namespace ShapeCoords.Yaml

/-- A place in a text. All three count from zero, and they count characters. -/
structure Mark where
  index : Nat := 0
  line : Nat := 0
  column : Nat := 0
  deriving DecidableEq, Repr, Inhabited

/-- Messages name no place on the very first character. -/
def Mark.isStart (m : Mark) : Bool :=
  m.line == 0 && m.column == 0

def Mark.text (m : Mark) : String :=
  "line " ++ String.ofList (Number.digitsOf (m.line + 1)) ++ " column " ++
    String.ofList (Number.digitsOf (m.column + 1))

def Mark.suffix (m : Mark) : String :=
  if m.isStart then "" else " at " ++ m.text

inductive Problem where
  | cannotStartToken
  | expectedColon
  | blockEntryNotAllowed
  | keyNotAllowed
  | valueNotAllowed
  | unknownDirective
  | expectedDirectiveName
  | unexpectedNameCharacter
  | expectedCommentOrBreak
  | expectedVersionNumber
  | longVersionNumber
  | expectedVersionPoint
  | expectedSpace
  | expectedSpaceOrBreak
  | expectedAnchorName
  | expectedTagMark
  | expectedTagEnd
  | expectedTagUri
  | expectedEscapedByte
  | wrongLeadingByte
  | wrongTrailingByte
  | zeroIndentation
  | tabForIndentation
  | tabInIndentation
  | documentMarkInQuotes
  | endInQuotes
  | unknownEscape
  | expectedHexDigit
  | invalidEscapedCharacter
  | unexpectedColon
  | duplicateVersion
  | duplicateHandle
  | incompatibleVersion
  | undefinedHandle
  | expectedDocumentStart
  | expectedNode
  | expectedEntryMark
  | expectedKey
  | expectedCommaOrListEnd
  | expectedCommaOrMapEnd
  deriving DecidableEq, Repr

def Problem.message : Problem → String
  | .cannotStartToken => "found character that cannot start any token"
  | .expectedColon => "could not find expected ':'"
  | .blockEntryNotAllowed => "block sequence entries are not allowed in this context"
  | .keyNotAllowed => "mapping keys are not allowed in this context"
  | .valueNotAllowed => "mapping values are not allowed in this context"
  | .unknownDirective => "found unknown directive name"
  | .expectedDirectiveName => "could not find expected directive name"
  | .unexpectedNameCharacter => "found unexpected non-alphabetical character"
  | .expectedCommentOrBreak => "did not find expected comment or line break"
  | .expectedVersionNumber => "did not find expected version number"
  | .longVersionNumber => "found extremely long version number"
  | .expectedVersionPoint => "did not find expected digit or '.' character"
  | .expectedSpace => "did not find expected whitespace"
  | .expectedSpaceOrBreak => "did not find expected whitespace or line break"
  | .expectedAnchorName => "did not find expected alphabetic or numeric character"
  | .expectedTagMark => "did not find expected '!'"
  | .expectedTagEnd => "did not find the expected '>'"
  | .expectedTagUri => "did not find expected tag URI"
  | .expectedEscapedByte => "did not find URI escaped octet"
  | .wrongLeadingByte => "found an incorrect leading UTF-8 octet"
  | .wrongTrailingByte => "found an incorrect trailing UTF-8 octet"
  | .zeroIndentation => "found an indentation indicator equal to 0"
  | .tabForIndentation => "found a tab character where an indentation space is expected"
  | .tabInIndentation => "found a tab character that violates indentation"
  | .documentMarkInQuotes => "found unexpected document indicator"
  | .endInQuotes => "found unexpected end of stream"
  | .unknownEscape => "found unknown escape character"
  | .expectedHexDigit => "did not find expected hexadecimal number"
  | .invalidEscapedCharacter => "found invalid Unicode character escape code"
  | .unexpectedColon => "found unexpected ':'"
  | .duplicateVersion => "found duplicate %YAML directive"
  | .duplicateHandle => "found duplicate %TAG directive"
  | .incompatibleVersion => "found incompatible YAML document"
  | .undefinedHandle => "found undefined tag handle"
  | .expectedDocumentStart => "did not find expected <document start>"
  | .expectedNode => "did not find expected node content"
  | .expectedEntryMark => "did not find expected '-' indicator"
  | .expectedKey => "did not find expected key"
  | .expectedCommaOrListEnd => "did not find expected ',' or ']'"
  | .expectedCommaOrMapEnd => "did not find expected ',' or '\x7d'"

inductive Activity where
  | scanningToken
  | scanningKey
  | scanningDirective
  | scanningVersion
  | scanningHandle
  | scanningTagDirective
  | parsingTagDirective
  | parsingTagUri (directive : Bool)
  | scanningTag
  | scanningAnchor
  | scanningAlias
  | scanningBlockScalar
  | scanningQuotes
  | parsingEscape
  | scanningPlainScalar
  | parsingNode
  | parsingBlockNode
  | parsingFlowNode
  | parsingBlockList
  | parsingBlockMap
  | parsingFlowList
  | parsingFlowMap
  deriving DecidableEq, Repr

def Activity.text : Activity → String
  | .scanningToken => "while scanning for the next token"
  | .scanningKey => "while scanning a simple key"
  | .scanningDirective => "while scanning a directive"
  | .scanningVersion => "while scanning a %YAML directive"
  | .scanningHandle => "while scanning a tag directive"
  | .scanningTagDirective => "while scanning a %TAG directive"
  | .parsingTagDirective => "while parsing a tag directive"
  | .parsingTagUri directive =>
    if directive then "while parsing a %TAG directive" else "while parsing a tag"
  | .scanningTag => "while scanning a tag"
  | .scanningAnchor => "while scanning an anchor"
  | .scanningAlias => "while scanning an alias"
  | .scanningBlockScalar => "while scanning a block scalar"
  | .scanningQuotes => "while scanning a quoted scalar"
  | .parsingEscape => "while parsing a quoted scalar"
  | .scanningPlainScalar => "while scanning a plain scalar"
  | .parsingNode => "while parsing a node"
  | .parsingBlockNode => "while parsing a block node"
  | .parsingFlowNode => "while parsing a flow node"
  | .parsingBlockList => "while parsing a block collection"
  | .parsingBlockMap => "while parsing a block mapping"
  | .parsingFlowList => "while parsing a flow sequence"
  | .parsingFlowMap => "while parsing a flow mapping"

inductive Fault where
  /-- A character that may not stand in a text, behind some bytes. -/
  | controlCharacter (offset : Nat)
  | misplaced (problem : Problem) (place : Mark) (context : Option (Activity × Mark))
  /-- An alias of an anchor that was not set. -/
  | unknownAnchor (place : Mark)
  deriving DecidableEq, Repr

def Fault.message : Fault → String
  | .controlCharacter offset =>
    "control characters are not allowed" ++
      if offset = 0 then "" else " at position " ++ String.ofList (Number.digitsOf offset)
  | .misplaced problem place context =>
    let around :=
      match context with
      | none => ""
      | some (activity, start) =>
        let isElsewhere := start.line != place.line || start.column != place.column
        ", " ++ activity.text ++ if isElsewhere then start.suffix else ""
    problem.message ++ place.suffix ++ around
  | .unknownAnchor place => "unknown anchor" ++ place.suffix

end ShapeCoords.Yaml
