import ShapeCoords.Number.Decimal
import ShapeCoords.SystemFault
import ShapeCoords.Text.Blank
import ShapeCoords.Text.Quoted
import ShapeCoords.Text.Description

/-!
Renderers draw the diagram of a source, and what can go wrong with it. Drawing itself is not done
here: one renderer hands sources to a library, the other one to a program.
-/

namespace ShapeCoords.Page

open Number (digitsOf)

inductive PageFault where
  /-- It is unsure how the content behind a tag is read. -/
  | ambiguousTag (name : String)
  | tooFewDrawings
  deriving DecidableEq, Repr

def PageFault.message : PageFault → String
  | .ambiguousTag name =>
    "The parser has encountered a text content tag (`<" ++ name ++ ">`) in the context where it " ++
      "is ambiguous whether this tag should be ignored or not. And, thus, it is unclear whether " ++
      "consequent content should be parsed as raw text or HTML markup.\n\nThis error occurs due " ++
      "to the limited capabilities of the streaming parsing. However, almost all of the cases " ++
      "of this error are caused by a non-conforming markup (e.g. a `<script>` element in " ++
      "`<select>` element)."
  | .tooFewDrawings => "more Mermaid blocks than rendered diagrams"

inductive ExitStatus where
  | exited (code : Nat)
  | killed (signal : Nat) (coreDumped : Bool := false)
  deriving DecidableEq, Repr

/-- The names of the signals from 1 on. -/
def signalNames : List String :=
  ["SIGHUP", "SIGINT", "SIGQUIT", "SIGILL", "SIGTRAP", "SIGABRT", "SIGBUS", "SIGFPE", "SIGKILL",
    "SIGUSR1", "SIGSEGV", "SIGUSR2", "SIGPIPE", "SIGALRM", "SIGTERM", "SIGSTKFLT", "SIGCHLD",
    "SIGCONT", "SIGSTOP", "SIGTSTP", "SIGTTIN", "SIGTTOU", "SIGURG", "SIGXCPU", "SIGXFSZ",
    "SIGVTALRM", "SIGPROF", "SIGWINCH", "SIGIO", "SIGPWR", "SIGSYS"]

def ExitStatus.message : ExitStatus → String
  | .exited code => "exit status: " ++ String.ofList (digitsOf code)
  | .killed signal coreDumped =>
    let name :=
      match signalNames[signal - 1]? with
      | some name => " (" ++ name ++ ")"
      | none => ""
    "signal: " ++ String.ofList (digitsOf signal) ++ name ++
      if coreDumped then " (core dumped)" else ""

inductive RenderError where
  | page (f : PageFault)
  | noDiagram (id : String)
  | countMismatch (blocks drawings : Nat)
  | source (message : String)
  | spawn (path : String) (f : SystemFault)
  | program (path : String) (status : ExitStatus) (complaint : String)
  | io (f : SystemFault)
  deriving DecidableEq, Repr

def RenderError.message : RenderError → String
  | .page f => "HTML rewrite failed: " ++ f.message
  | .noDiagram id => "No Mermaid diagram detected in block " ++ id
  | .countMismatch blocks drawings =>
    "Rendered " ++ String.ofList (digitsOf drawings) ++ " diagrams but the document has " ++
      String.ofList (digitsOf blocks) ++ " Mermaid blocks"
  | .source message => message
  | .spawn path f => "failed to run `" ++ path ++ "`: " ++ f.message
  | .program path status complaint =>
    "`" ++ path ++ "` exited with " ++ status.message ++ ": " ++ complaint
  | .io f => "I/O error: " ++ f.message

/-- Draws the diagram of a source, under an id. -/
structure Renderer where
  draw (source id : String) : Except RenderError String

/-! Drawing by a library -/

structure Library where
  /-- The drawing of a source under an id, or none if the source holds no diagram. -/
  draw (source id : String) : Except String (Option String) := .ok none

def headless (library : Library := {}) : Renderer where
  draw source id :=
    match library.draw source id with
    | .ok (some drawing) => .ok drawing
    | .ok none => .error (.noDiagram id)
    | .error message => .error (.source message)

def headlessDescription : String :=
  Text.Description.text { name := "HeadlessRenderer", fields := [], elided := true }

/-! Drawing by a program -/

structure ProgramRun where
  /-- The text in the file for the drawing. -/
  drawing : Option String
  complaint : String
  status : ExitStatus
  /-- What the system says if there is no text in that file. -/
  fault : SystemFault := .notFound

structure Program where
  path : String
  /-- Runs the program on the arguments and the content of the file for the source. -/
  run (arguments : List String) (source : String) : Except SystemFault ProgramRun

namespace Program

def defaultPath : String := "mmdc"

/-- The arguments for drawing under an id. The files lie in a directory of their own. -/
def arguments (id : String) : List String :=
  ["--quiet", "--input", "diagram.mmd", "--output", "diagram.svg", "--svgId", id]

def description (path : String) : String :=
  Text.Description.text {
    name := "MmdcRenderer"
    fields := [("program", Text.quote path)]
    elided := false }

/-- Lets the program draw, after the source is stored in a directory for the run. -/
def renderer (p : Program) (store : String → Except SystemFault Unit := fun _ => .ok ()) :
    Renderer where
  draw source id := do
    (store source).mapError .io
    let run ← (p.run (arguments id) source).mapError (.spawn p.path)
    if run.status = .exited 0 then
      match run.drawing with
      | some drawing => return drawing
      | none => throw (.io run.fault)
    else throw (.program p.path run.status (String.ofList (Text.trim run.complaint.toList)))

end Program

end ShapeCoords.Page
