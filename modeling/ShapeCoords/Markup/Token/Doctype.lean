import ShapeCoords.Markup.Token

/-!
Reading a document type declaration, and what it says about the rules by which a document is laid
out.
-/

namespace ShapeCoords.Markup

open Text (lowerAscii dropWordIgnoringCase sameIgnoringCase)

/-- A declaration has up to two identifiers: a formal one, introduced as public, and that of the
system. -/
inductive IdKind where
  | formal
  | system
  deriving DecidableEq, Repr

inductive DoctypePlace where
  | start
  | beforeName
  | name
  | afterName
  | afterKeyword (kind : IdKind)
  | beforeId (kind : IdKind)
  | id (kind : IdKind) (mark : Char)
  | afterId (kind : IdKind)
  | betweenIds
  | bogus
  deriving DecidableEq, Repr

/-- A declaration of which some characters are still to come. Texts are held last character first.
-/
structure DoctypeDraft where
  name : Option (List Char) := none
  publicId : Option (List Char) := none
  systemId : Option (List Char) := none
  forcesOldRules : Bool := false
  deriving Repr

namespace DoctypeDraft

def close (d : DoctypeDraft) : Doctype where
  name := d.name.map fun s => String.ofList s.reverse
  publicId := d.publicId.map fun s => String.ofList s.reverse
  systemId := d.systemId.map fun s => String.ofList s.reverse
  forcesOldRules := d.forcesOldRules

def forceOldRules (d : DoctypeDraft) : DoctypeDraft :=
  { d with forcesOldRules := true }

def extendName (c : Char) (d : DoctypeDraft) : DoctypeDraft :=
  { d with name := some ((if c = '\x00' then '\ufffd' else lowerAscii c) :: d.name.getD []) }

def openId (kind : IdKind) (d : DoctypeDraft) : DoctypeDraft :=
  match kind with
  | .formal => { d with publicId := some [] }
  | .system => { d with systemId := some [] }

def extendId (kind : IdKind) (c : Char) (d : DoctypeDraft) : DoctypeDraft :=
  let c := if c = '\x00' then '\ufffd' else if c = '\r' then '\n' else c
  match kind with
  | .formal => { d with publicId := some (c :: d.publicId.getD []) }
  | .system => { d with systemId := some (c :: d.systemId.getD []) }

end DoctypeDraft

structure DoctypeStep where
  faults : List Fault
  /-- Where the declaration goes on; it is complete otherwise. -/
  place : Option DoctypePlace
  draft : DoctypeDraft

namespace DoctypeDraft

def goOn (d : DoctypeDraft) (place : DoctypePlace) : DoctypeStep :=
  ⟨[], some place, d⟩

def complete (d : DoctypeDraft) : DoctypeStep :=
  ⟨[], none, d⟩

/-- A character that makes the rest of the declaration meaningless. -/
def spoil (d : DoctypeDraft) : DoctypeStep :=
  ⟨[.badCharacter], some .bogus, d.forceOldRules⟩

def completeEarly (d : DoctypeDraft) : DoctypeStep :=
  ⟨[.badCharacter], none, d.forceOldRules⟩

/-- A quotation mark where an identifier may start, or the end of the declaration. -/
def idStep (d : DoctypeDraft) (kind : IdKind) (faults : List Fault) (c : Char) :
    DoctypeStep :=
  if c = '"' ∨ c = '\'' then ⟨faults, some (.id kind c), d.openId kind⟩ else d.spoil

def plainFaults (c : Char) : List Fault :=
  if c = '\x00' then [.badCharacter] else []

def nameStep (d : DoctypeDraft) (c : Char) : DoctypeStep :=
  ⟨plainFaults c, some .name, d.extendName c⟩

def beforeNameStep (d : DoctypeDraft) (c : Char) : DoctypeStep :=
  if isSpace c then d.goOn .beforeName
  else if c = '>' then d.completeEarly
  else d.nameStep c

def step (d : DoctypeDraft) (c : Char) : DoctypePlace → DoctypeStep
  | .start =>
    let step := d.beforeNameStep c
    if isSpace c then step else { step with faults := .badCharacter :: step.faults }
  | .beforeName => d.beforeNameStep c
  | .name =>
    if isSpace c then d.goOn .afterName else if c = '>' then d.complete else d.nameStep c
  | .afterName =>
    if isSpace c then d.goOn .afterName else if c = '>' then d.complete else d.spoil
  | .afterKeyword kind =>
    if isSpace c then d.goOn (.beforeId kind)
    else if c = '>' then d.completeEarly
    else d.idStep kind [.badCharacter] c
  | .beforeId kind =>
    if isSpace c then d.goOn (.beforeId kind)
    else if c = '>' then d.completeEarly
    else d.idStep kind [] c
  | .id kind mark =>
    if c = mark then d.goOn (.afterId kind)
    else if c = '>' then d.completeEarly
    else ⟨plainFaults c, some (.id kind mark), d.extendId kind c⟩
  | .afterId .formal =>
    if isSpace c then d.goOn .betweenIds
    else if c = '>' then d.complete
    else d.idStep .system [.badCharacter] c
  | .afterId .system =>
    if isSpace c then d.goOn (.afterId .system)
    else if c = '>' then d.complete
    else ⟨[.badCharacter], some .bogus, d⟩
  | .betweenIds =>
    if isSpace c then d.goOn .betweenIds
    else if c = '>' then d.complete
    else d.idStep .system [] c
  | .bogus => if c = '>' then d.complete else d.goOn .bogus

end DoctypeDraft

/-- The kind of identifier that a keyword in front announces. -/
def idKeyword? (s : List Char) : Option IdKind :=
  if (dropWordIgnoringCase "public".toList s).isSome then some .formal
  else if (dropWordIgnoringCase "system".toList s).isSome then some .system
  else none

/-- Reads a declaration behind its keyword, passing over `skip` characters first. -/
def readDoctype (place : DoctypePlace) (d : DoctypeDraft) : Nat → List Char → List Item × List Char
  | _, [] =>
    match place with
    | .bogus => ([.token (.doctype d.close)], [])
    | _ => ([.fault .endOfText, .token (.doctype d.forceOldRules.close)], [])
  | skip + 1, _ :: s => readDoctype place d skip s
  | 0, c :: s =>
    match place, idKeyword? (c :: s) with
    | .afterName, some kind => readDoctype (.afterKeyword kind) d 5 s
    | place, _ =>
      let step := d.step c place
      let faults := step.faults.map Item.fault
      match step.place with
      | none => (faults ++ [.token (.doctype step.draft.close)], s)
      | some place =>
        let (items, rest) := readDoctype place step.draft 0 s
        (faults ++ items, rest)

def webPage (page : String) : String :=
  "http:" ++ "//" ++ page

def acceptedDoctypes : List (Option String × Option String × Option String) :=
  [(some "html", none, none),
    (some "html", none, some "about:legacy-compat"),
    (some "html", some "-//W3C//DTD HTML 4.0//EN", none),
    (some "html", some "-//W3C//DTD HTML 4.0//EN",
      some (webPage "www.w3.org/TR/REC-html40/strict.dtd")),
    (some "html", some "-//W3C//DTD HTML 4.01//EN", none),
    (some "html", some "-//W3C//DTD HTML 4.01//EN",
      some (webPage "www.w3.org/TR/html4/strict.dtd")),
    (some "html", some "-//W3C//DTD XHTML 1.0 Strict//EN",
      some (webPage "www.w3.org/TR/xhtml1/DTD/xhtml1-strict.dtd")),
    (some "html", some "-//W3C//DTD XHTML 1.1//EN",
      some (webPage "www.w3.org/TR/xhtml11/DTD/xhtml11.dtd"))]

def Doctype.isAccepted (d : Doctype) : Bool :=
  acceptedDoctypes.contains (d.name, d.publicId, d.systemId)

/-- Public identifiers, in lower case, of documents that follow the oldest rules. -/
def oldPublicIds : List String :=
  ["-//w3o//dtd w3 html strict 3.0//en//", "-/w3c/dtd html 4.0 transitional/en", "html"]

/-- What the public identifiers, in lower case, of such documents start with. -/
def oldPublicStarts : List String :=
  ["+//silmaril//dtd html pro v0r11 19970101//",
    "-//as//dtd html 3.0 aswedit + extensions//",
    "-//advasoft ltd//dtd html 3.0 aswedit + extensions//",
    "-//ietf//dtd html 2.0 level 1//",
    "-//ietf//dtd html 2.0 level 2//",
    "-//ietf//dtd html 2.0 strict level 1//",
    "-//ietf//dtd html 2.0 strict level 2//",
    "-//ietf//dtd html 2.0 strict//",
    "-//ietf//dtd html 2.0//",
    "-//ietf//dtd html 2.1e//",
    "-//ietf//dtd html 3.0//",
    "-//ietf//dtd html 3.2 final//",
    "-//ietf//dtd html 3.2//",
    "-//ietf//dtd html 3//",
    "-//ietf//dtd html level 0//",
    "-//ietf//dtd html level 1//",
    "-//ietf//dtd html level 2//",
    "-//ietf//dtd html level 3//",
    "-//ietf//dtd html strict level 0//",
    "-//ietf//dtd html strict level 1//",
    "-//ietf//dtd html strict level 2//",
    "-//ietf//dtd html strict level 3//",
    "-//ietf//dtd html strict//",
    "-//ietf//dtd html//",
    "-//metrius//dtd metrius presentational//",
    "-//microsoft//dtd internet explorer 2.0 html strict//",
    "-//microsoft//dtd internet explorer 2.0 html//",
    "-//microsoft//dtd internet explorer 2.0 tables//",
    "-//microsoft//dtd internet explorer 3.0 html strict//",
    "-//microsoft//dtd internet explorer 3.0 html//",
    "-//microsoft//dtd internet explorer 3.0 tables//",
    "-//netscape comm. corp.//dtd html//",
    "-//netscape comm. corp.//dtd strict html//",
    "-//o'reilly and associates//dtd html 2.0//",
    "-//o'reilly and associates//dtd html extended 1.0//",
    "-//o'reilly and associates//dtd html extended relaxed 1.0//",
    "-//softquad software//dtd hotmetal pro 6.0::19990601::extensions to html 4.0//",
    "-//softquad//dtd hotmetal pro 4.0::19971010::extensions to html 4.0//",
    "-//spyglass//dtd html 2.0 extended//",
    "-//sq//dtd html 2.0 hotmetal + extensions//",
    "-//sun microsystems corp.//dtd hotjava html//",
    "-//sun microsystems corp.//dtd hotjava strict html//",
    "-//w3c//dtd html 3 1995-03-24//",
    "-//w3c//dtd html 3.2 draft//",
    "-//w3c//dtd html 3.2 final//",
    "-//w3c//dtd html 3.2//",
    "-//w3c//dtd html 3.2s draft//",
    "-//w3c//dtd html 4.0 frameset//",
    "-//w3c//dtd html 4.0 transitional//",
    "-//w3c//dtd html experimental 19960712//",
    "-//w3c//dtd html experimental 970421//",
    "-//w3c//dtd w3 html//",
    "-//w3o//dtd w3 html 3.0//",
    "-//webtechs//dtd mozilla html 2.0//",
    "-//webtechs//dtd mozilla html//"]

/-- What the public identifiers of such documents start with if there is no system identifier. -/
def oldStartsAlone : List String :=
  ["-//w3c//dtd html 4.01 frameset//", "-//w3c//dtd html 4.01 transitional//"]

def startsWithAny (starts : List String) (s : List Char) : Bool :=
  starts.any fun start => start.toList.isPrefixOf s

/-- Whether a document with the declaration follows the oldest rules. -/
def Doctype.followsOldRules (d : Doctype) : Bool :=
  let lower (s : Option String) : Option (List Char) := s.map fun s => s.toList.map lowerAscii
  d.forcesOldRules || d.name != some "html" ||
    (lower d.publicId).any (fun s => oldPublicIds.any fun id => id.toList == s) ||
    (lower d.systemId).any
      (fun s => s == (webPage "www.ibm.com/data/dtd/v11/ibmxhtml1-transitional.dtd").toList) ||
    (lower d.publicId).any (startsWithAny oldPublicStarts) ||
    (d.systemId.isNone && (lower d.publicId).any (startsWithAny oldStartsAlone))

end ShapeCoords.Markup
