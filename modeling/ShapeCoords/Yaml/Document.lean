import ShapeCoords.Yaml.Event.Stream

/-!
The first document of a YAML text: its nodes as far as the text is well formed, and the fault that
ends them, if there is one.
-/

namespace ShapeCoords.Yaml

structure Document where
  nodes : List (Node Nat) := []
  fault : Option Fault := none
  /-- The places among the nodes of those that have an anchor, by the anchor's number. -/
  anchored : List (Nat × Nat) := []
  /-- Something follows the document. -/
  isFollowed : Bool := false

def isAllowed (c : Char) : Bool :=
  let n := c.toNat
  c == '\t' || c == '\n' || c == '\r' || (0x20 ≤ n && n ≤ 0x7E) || n == 0x85 ||
    (0xA0 ≤ n && n ≤ 0xFFFD) || 0x10000 ≤ n

/-- How many bytes stand in front of the first character that may not stand in a text. -/
def controlOffset? : List Char → Nat → Option Nat
  | [], _ => none
  | c :: s, offset => if isAllowed c then controlOffset? s (offset + c.utf8Size) else some offset

namespace Document

structure Draft where
  nodes : List (Node Nat) := []
  /-- The number of each anchor that was set. -/
  names : List (List Char × Nat) := []
  anchored : List (Nat × Nat) := []

/-- Gives an anchor its number, which is how many names there are so far: a name that is set again
shares its number with the next new name. -/
def Draft.setAnchor (d : Draft) (name : List Char) : Draft :=
  let number := d.names.length
  { d with
    names := (name, number) :: d.names.filter fun n => n.1 != name
    anchored := (number, d.nodes.length) :: d.anchored }

/-- Adds a node. An alias must have the name of an anchor before it. -/
def Draft.add (d : Draft) (n : Node (List Char)) : Except Fault Draft :=
  let d :=
    match n.anchor with
    | some name => d.setAnchor name
    | none => d
  let push (e : Event Nat) : Except Fault Draft :=
    .ok { d with nodes := ⟨e, n.mark, n.anchor⟩ :: d.nodes }
  match n.event with
  | .alias name =>
    match d.names.find? fun m => m.1 == name with
    | some m => push (.alias m.2)
    | none => .error (.unknownAnchor n.mark)
  | .scalar s => push (.scalar s)
  | .listStart tag => push (.listStart tag)
  | .listEnd => push .listEnd
  | .mapStart tag => push (.mapStart tag)
  | .mapEnd => push .mapEnd

def Draft.close (d : Draft) (fault : Option Fault) (isFollowed : Bool) : Document :=
  ⟨d.nodes.reverse, fault, d.anchored, isFollowed⟩

def goesOn (p : Parser) : Bool :=
  match Parse.next.run p with
  | .ok (.streamEnd _, _) => false
  | _ => true

def collect : Nat → Parser → Draft → Document
  | 0, _, d => d.close none false
  | n + 1, p, d =>
    match Parse.next.run p with
    | .error f => d.close (some f) false
    | .ok (.documentStart, p) => collect n p d
    | .ok (.node m, p) =>
      match d.add m with
      | .ok d => collect n p d
      | .error f => d.close (some f) false
    | .ok (.documentEnd, p) => d.close none (goesOn p)
    | .ok (.streamEnd _, _) => d.close none false

/-- The first document of a text. A byte order mark in front of it does not count. Each token holds
a character or comes with one that does, and each event but a few comes with a token of its own. -/
def ofText (text : List Char) : Document :=
  let (start, offset) := if text.head? = some '\ufeff' then (text.tail, 3) else (text, 0)
  match controlOffset? start offset with
  | some offset => { fault := some (.controlCharacter offset) }
  | none => collect (16 * (start.length + 2)) { scanner := { cursor := { rest := start } } } {}

def target? (d : Document) (number : Nat) : Option (Node Nat) :=
  (d.anchored.find? fun a => a.1 == number).bind fun a => d.nodes[a.2]?

end Document

end ShapeCoords.Yaml
