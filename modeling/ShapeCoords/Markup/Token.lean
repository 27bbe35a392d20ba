import ShapeCoords.Markup.Fault
import ShapeCoords.Text.Blank

/-!
The tokens of markup.
-/

namespace ShapeCoords.Markup

structure Attribute where
  name : String
  value : String
  deriving DecidableEq, Repr

inductive TagKind where
  | opening
  | closing
  deriving DecidableEq, Repr

/-- A tag. Its name and the names of its attributes are in lower case, and no two attributes have
the same name. -/
structure Tag where
  kind : TagKind
  name : String
  attributes : List Attribute := []
  /-- It ends in `/>`. -/
  selfClosing : Bool := false
  deriving DecidableEq, Repr

def attributeValue? (attributes : List Attribute) (name : String) : Option String :=
  (attributes.find? fun a => a.name == name).map Attribute.value

def Tag.value? (t : Tag) (name : String) : Option String :=
  attributeValue? t.attributes name

structure Doctype where
  name : Option String := none
  publicId : Option String := none
  systemId : Option String := none
  /-- It was malformed, so the document is laid out by the oldest rules. -/
  forcesOldRules : Bool := false
  deriving DecidableEq, Repr

inductive Token where
  /-- Some characters of a text, which need not be all of it. Newlines are `\n`. -/
  | text (s : List Char)
  | null
  | tag (t : Tag)
  | comment
  | doctype (d : Doctype)
  | endOfText
  deriving DecidableEq, Repr

inductive Item where
  | fault (f : Fault)
  | token (t : Token)
  deriving DecidableEq, Repr

/-- The five characters of white space, where a carriage return counts as a newline. -/
def isSpace (c : Char) : Bool :=
  Text.isAsciiSpace c

end ShapeCoords.Markup
