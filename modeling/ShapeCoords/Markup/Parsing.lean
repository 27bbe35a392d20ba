import ShapeCoords.Markup.Builder.Modes

/-!
From text to tree: the tokens of a text in turn, each of which may change how the text behind it is
read.
-/

namespace ShapeCoords.Markup

namespace Builder

/-- Splits the white space, or what is no white space, off a text. -/
def splitRun : List Char → List Char × List Char
  | [] => ([], [])
  | c :: s =>
    let alike (d : Char) : Bool := isSpace d == isSpace c
    (c :: s.takeWhile alike, s.dropWhile alike)

/-- The part of a token that is treated in one go, and the text behind it. -/
def portion (b : Builder) : Token → Token × List Char
  | .text s =>
    if splitsText b.mode && b.current?.all (fun o => isHtmlIn o.element (.text s)) then
      let (run, rest) := splitRun s
      (.text run, rest)
    else (.text s, [])
  | token => (token, [])

def claimsToClose : Token → Bool
  | .tag t => t.kind == .opening && t.selfClosing
  | _ => false

/-- Treats a token, and then the text behind it, until both are done: in at most so many steps. -/
def settle : Nat → Token → List Char → Builder → Builder × Option Content
  | 0, _, _, b => (b, none)
  | n + 1, token, behind, b =>
    let (token, rest) := b.portion token
    let behind := rest ++ behind
    let goOn (b : Builder) : Builder × Option Content :=
      if behind.isEmpty then (b, none) else settle n (.text behind) [] b
    match b.step token with
    | (b, .done) => goOn (if claimsToClose token then b.report .selfClosingIgnored else b)
    | (b, .acknowledged) => goOn b
    | (b, .again) => settle n token behind b
    | (b, .content c) => (b, some c)

/-- More steps than a token needs: each closes an element or goes on to another part of the document
or to the next run of a text. -/
def stepBound (b : Builder) : Token → Nat
  | .text s => 64 + 8 * s.length + 8 * b.opened.length
  | _ => 64 + 8 * b.opened.length

def takeDoctype (d : Doctype) (b : Builder) : Builder :=
  if b.mode = .initial then
    let b := if d.isAccepted then b else b.report .badDoctype
    { b with followsOldRules := d.followsOldRules }.enter .beforeHtml
  else b.report .doctypeInBody

def takeToken (token : Token) (b : Builder) : Builder × Option Content :=
  let skips := b.skipsNewline
  let b := { b with skipsNewline := false }
  match token with
  | .doctype d => (b.takeDoctype d, none)
  | .text s =>
    let s := if skips && s.head? = some '\n' then s.tail else s
    if s.isEmpty then (b, none) else settle (b.stepBound (.text s)) (.text s) [] b
  | token => settle (b.stepBound token) token [] b

def takeItem (item : Item) (b : Builder) : Builder × Option Content :=
  match item with
  | .fault f => ({ b with skipsNewline := false }.report f, none)
  | .token token => b.takeToken token

/-- Treats what was come upon. The last word on the content that follows counts. -/
def takeItems (b : Builder) : List Item → Builder × Option Content
  | [] => (b, none)
  | item :: items =>
    let (b, c) := b.takeItem item
    let (b, d) := b.takeItems items
    (b, d <|> c)

end Builder

/-- The content behind some items, if none of them says what it is: the end tag of a text leads back
to markup. -/
def Content.next : Content → Content
  | .plain => .plain
  | _ => .markup

def build : Nat → Source → Content → Builder → Builder
  | 0, _, _, b => b
  | n + 1, src, c, b =>
    if src.rest.isEmpty then (b.takeToken .endOfText).1
    else
      let (items, src) := src.next b.isForeign c
      let (b, d) := b.takeItems items
      build n src (d.getD c.next) b

/-- A byte order mark in front of a text does not count. -/
def dropOrderMark : List Char → List Char
  | '\ufeff' :: s => s
  | s => s

def parse (s : List Char) : Tree × List Fault :=
  let s := dropOrderMark s
  let b := build (s.length + 1) ⟨s, none⟩ .markup {}
  (b.tree, b.faults.reverse)

end ShapeCoords.Markup
