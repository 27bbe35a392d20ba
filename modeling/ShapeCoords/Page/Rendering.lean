import ShapeCoords.Event
import ShapeCoords.Page.Block
import ShapeCoords.Page.Renderer

/-!
Rendering a page: the source of each Mermaid block goes to a renderer, and its drawing takes the
place of the block. All else in the page stays as it is.
-/

namespace ShapeCoords.Page

/-- The sources of the Mermaid blocks of a page in their order. -/
def collectSources (page : String) : Except RenderError (List String) :=
  match collectTexts [] (visits page.toList) with
  | .ok texts => .ok (texts.reverse.map sourceOf)
  | .error name => .error (.page (.ambiguousTag name))

/-- Puts drawings in the place of blocks. The drawings that are left over are given back. -/
def replaceBlocks : List String → List Visit → Except PageFault (List Char × List String)
  | drawings, [] => .ok ([], drawings)
  | drawings, v :: vs => do
    if let some name := v.refused? then throw (.ambiguousTag name)
    match v.block?, drawings with
    | some _, [] => throw .tooFewDrawings
    | some _, drawing :: drawings =>
      let (rest, left) ← replaceBlocks drawings vs
      return (if v.isOutside then drawing.toList ++ rest else rest, left)
    | none, drawings =>
      let (rest, left) ← replaceBlocks drawings vs
      return (if v.isOutside then v.part.piece.raw ++ rest else rest, left)

/-- Puts a drawing in the place of each Mermaid block. -/
def inline (page : String) (drawings : List String) : Except RenderError String :=
  match replaceBlocks drawings (visits page.toList) with
  | .error f => .error (.page f)
  | .ok (result, []) => .ok (String.ofList result)
  | .ok (_, left) => .error (.countMismatch (drawings.length - left.length) drawings.length)

def diagramId (index : Nat) : String :=
  "mermaid-" ++ String.ofList (Number.digitsOf index)

structure Call where
  id : String
  source : String
  deriving DecidableEq, Repr

structure Rendering (α : Type) where
  result : Except RenderError α
  calls : List Call := []
  events : List Event := []

/-- Draws sources in turn, the first under an index, until one fails. -/
def drawFrom (r : Renderer) (index : Nat) : List String → Rendering (List String)
  | [] => { result := .ok [] }
  | source :: sources =>
    let call : Call := ⟨diagramId index, source⟩
    match r.draw source call.id with
    | .error e => { result := .error e, calls := [call] }
    | .ok drawing =>
      let rest := drawFrom r (index + 1) sources
      { result := rest.result.map (drawing :: ·)
        calls := call :: rest.calls
        events := .blockRendered call.id drawing.utf8ByteSize :: rest.events }

/-- Renders the Mermaid blocks of a page. A page without blocks stays as it is. -/
def render (r : Renderer) (page : String) : Rendering String :=
  match collectSources page with
  | .error e => { result := .error e }
  | .ok [] => { result := .ok page, events := [.nothingToRender] }
  | .ok sources =>
    let drawn := drawFrom r 0 sources
    match drawn.result with
    | .error e => { drawn with result := .error e }
    | .ok drawings =>
      { result := inline page drawings
        calls := drawn.calls
        events := drawn.events ++ [.documentRendered drawings.length] }

end ShapeCoords.Page
