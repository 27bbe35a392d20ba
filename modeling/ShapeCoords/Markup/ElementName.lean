import ShapeCoords.Markup.Tree

/-!
Kinds of elements that the rules for open elements tell apart, by name and namespace.
-/

namespace ShapeCoords.Markup

/-- What an open element is to the rules. -/
structure ElementName where
  space : Namespace
  name : String
  deriving DecidableEq, Repr, Inhabited

namespace ElementName

def isHtml (names : List String) (e : ElementName) : Bool :=
  e.space == .html && names.contains e.name

def isNamed (name : String) (e : ElementName) : Bool :=
  e.space == .html && e.name == name

def isHeading : ElementName → Bool :=
  isHtml ["h1", "h2", "h3", "h4", "h5", "h6"]

def isCell : ElementName → Bool :=
  isHtml ["td", "th"]

def isTextIntegration (e : ElementName) : Bool :=
  e.space == .mathml && ["mi", "mo", "mn", "ms", "mtext"].contains e.name

def isContentIntegration (e : ElementName) : Bool :=
  e.space == .svg && ["foreignobject", "desc", "title"].contains e.name

/-- The elements that end most searches through the open elements. -/
def endsScope (e : ElementName) : Bool :=
  e.isHtml ["applet", "caption", "html", "table", "td", "th", "marquee", "object", "template"] ||
    e.isTextIntegration || e.isContentIntegration

def endsListScope (e : ElementName) : Bool :=
  e.endsScope || e.isHtml ["ol", "ul"]

def endsButtonScope (e : ElementName) : Bool :=
  e.endsScope || e.isNamed "button"

def endsTableScope : ElementName → Bool :=
  isHtml ["html", "table", "template"]

def endsSelectScope (e : ElementName) : Bool :=
  !e.isHtml ["optgroup", "option"]

/-- The elements whose end tag may be left out. -/
def endsImplicitly : ElementName → Bool :=
  isHtml ["dd", "dt", "li", "option", "optgroup", "p", "rb", "rp", "rt", "rtc"]

def endsInTemplate (e : ElementName) : Bool :=
  e.endsImplicitly ||
    e.isHtml ["caption", "colgroup", "tbody", "td", "tfoot", "th", "thead", "tr"]

/-- The elements that may be open at the end of a body. -/
def mayEndBody : ElementName → Bool :=
  isHtml ["dd", "dt", "li", "optgroup", "option", "p", "rp", "rt", "tbody", "td", "tfoot", "th",
    "thead", "tr", "body", "html"]

/-- The elements in which misplaced content moves in front of the table. -/
def isTablePart : ElementName → Bool :=
  isHtml ["table", "tbody", "tfoot", "thead", "tr"]

def isTableBodyContext : ElementName → Bool :=
  isHtml ["tbody", "tfoot", "thead", "template", "html"]

def isRowContext : ElementName → Bool :=
  isHtml ["tr", "template", "html"]

/-- The elements that an end tag of another one does not pass. -/
def isSpecial : ElementName → Bool :=
  isHtml ["address", "applet", "area", "article", "aside", "base", "basefont", "bgsound",
    "blockquote", "body", "br", "button", "caption", "center", "col", "colgroup", "dd", "details",
    "dir", "div", "dl", "dt", "embed", "fieldset", "figcaption", "figure", "footer", "form",
    "frame", "frameset", "h1", "h2", "h3", "h4", "h5", "h6", "head", "header", "hgroup", "hr",
    "html", "iframe", "img", "input", "isindex", "li", "link", "listing", "main", "marquee", "menu",
    "meta", "nav", "noembed", "noframes", "noscript", "object", "ol", "p", "param", "plaintext",
    "pre", "script", "section", "select", "source", "style", "summary", "table", "tbody", "td",
    "template", "textarea", "tfoot", "th", "thead", "title", "tr", "track", "ul", "wbr", "xmp"]

end ElementName

def htmlOnlyNames : List String :=
  ["b", "big", "blockquote", "body", "br", "center", "code", "dd", "div", "dl", "dt", "em", "embed",
    "h1", "h2", "h3", "h4", "h5", "h6", "head", "hr", "i", "img", "li", "listing", "menu", "meta",
    "nobr", "ol", "p", "pre", "ruby", "s", "small", "span", "strong", "strike", "sub", "sup",
    "table", "tt", "u", "ul", "var"]

/-- Whether a tag leads out of SVG and MathML. -/
def Tag.leavesForeign (t : Tag) : Bool :=
  htmlOnlyNames.contains t.name ||
    (t.name = "font" && ["color", "face", "size"].any fun name => (t.value? name).isSome)

end ShapeCoords.Markup
