import ShapeCoords.Markup.Token

/-!
Reading comments, and other markup whose content does not count: each is passed over up to its end.
-/

namespace ShapeCoords.Markup

inductive CommentPlace where
  | start
  | startDash
  | body
  | dash
  | dashes
  | dashesBang
  deriving DecidableEq, Repr

structure CommentStep where
  faulty : Bool
  /-- Where the comment goes on; it is complete otherwise. -/
  place : Option CommentPlace

namespace CommentPlace

/-- A character that has no meaning for the end of a comment. -/
def plainStep (c : Char) : CommentStep :=
  ⟨c == '\x00', some .body⟩

/-- The start of a comment that may end here, if too early. -/
def startStep (behindDash : CommentPlace) (c : Char) : CommentStep :=
  if c = '-' then ⟨false, some behindDash⟩
  else if c = '>' then ⟨true, none⟩
  else plainStep c

def step (c : Char) : CommentPlace → CommentStep
  | .start => startStep .startDash c
  | .startDash => startStep .dashes c
  | .body => if c = '-' then ⟨false, some .dash⟩ else plainStep c
  | .dash => if c = '-' then ⟨false, some .dashes⟩ else plainStep c
  | .dashes =>
    if c = '>' then ⟨false, none⟩
    else if c = '!' then ⟨true, some .dashesBang⟩
    else if c = '-' then ⟨true, some .dashes⟩
    else ⟨true, some .body⟩
  | .dashesBang =>
    if c = '-' then ⟨false, some .dash⟩
    else if c = '>' then ⟨false, none⟩
    else plainStep c

end CommentPlace

/-- Reads a comment: what was come upon, and what is left of the text. Two dashes inside of it are a
fault unless they end it. -/
def readComment (place : CommentPlace) : List Char → List Item × List Char
  | [] => ([.fault .endOfText, .token .comment], [])
  | c :: s =>
    let step := place.step c
    let faults := if step.faulty then [Item.fault .badCharacter] else []
    match step.place with
    | none => (faults ++ [.token .comment], s)
    | some place =>
      let (items, rest) := readComment place s
      (faults ++ items, rest)

/-- Reads markup that counts as a comment up to the first `>`. -/
def readBogusComment (s : List Char) : List Item × List Char :=
  ([.token .comment], (s.dropWhile fun c => c != '>').drop 1)

/-- The texts of a literal section, up to `]]>`, with its null characters between them; `read` holds
the text that was read, last character first. -/
def readLiteral (read : List Char) : List Char → List Item × List Char
  | [] => (literalText read ++ [.fault .endOfText], [])
  | ']' :: ']' :: '>' :: s => (literalText read, s)
  | c :: s =>
    if c = '\x00' then
      let (items, rest) := readLiteral [] s
      (literalText read ++ .token .null :: items, rest)
    else readLiteral (c :: read) s
where
  /-- The token of a text, unless that is empty. -/
  literalText (read : List Char) : List Item :=
    if read.isEmpty then [] else [.token (.text read.reverse)]

end ShapeCoords.Markup
