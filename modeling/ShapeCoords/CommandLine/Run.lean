import ShapeCoords.CommandLine.Arguments
import ShapeCoords.CommandLine.FileTree
import ShapeCoords.Document
import ShapeCoords.Options.Configuration
import ShapeCoords.Page.Rendering
import ShapeCoords.Record.Reading

/-!
A run of the command: options and page are read, the diagrams of the page are drawn, and the
coordinates of its shapes are listed. The first stage that fails ends the run, and nothing is listed
then.
-/

namespace ShapeCoords.CommandLine

/-- The log of a run. Libraries write to it as well, and it has a form and times of its own. -/
structure Log where
  /-- Which reports the environment wants to be shown, if it says so. -/
  wanted? : Option (Event → Bool) := none
  /-- All that is written when these reports are shown. -/
  write (shown : List Event) : String

/-- The reports that are shown: warnings, unless the environment says otherwise. -/
def Log.shown (l : Log) (events : List Event) : List Event :=
  match l.wanted? with
  | some wanted => events.filter wanted
  | none => Event.select .warn events

def Log.text (l : Log) (events : List Event) : String :=
  l.write (l.shown events)

def Log.off : Log where
  wanted? := some fun _ => false
  write _ := ""

structure Surroundings where
  /-- The content of the file at a path. -/
  read (path : String) : Except SystemFault ByteArray
  standardInput : ByteArray
  library : Page.Library
  /-- The program at a path. -/
  program (path : String) : Page.Program
  /-- Stores a source for a program. -/
  store (source : String) : Except SystemFault Unit
  log : Log

/-- A working directory in which no program can be run. Nothing is logged. -/
def FileTree.surroundings (t : FileTree) (standardInput : ByteArray)
    (library : Page.Library := {}) : Surroundings where
  read := t.read
  standardInput := standardInput
  library := library
  program path := ⟨path, fun _ _ => .error (t.programFault path)⟩
  store _ := .ok ()
  log := .off

inductive CommandError where
  | usage
  | input (path : String) (f : SystemFault)
  | config (path : String) (message : String)
  | render (e : Page.RenderError)
  | extract (e : MarkupError)
  deriving DecidableEq, Repr

def CommandError.message : CommandError → String
  | .usage => CommandLine.usage
  | .input path f => "failed to read " ++ path ++ ": " ++ f.message
  | .config path message => "invalid config " ++ path ++ ": " ++ message
  | .render e => e.message
  | .extract e => e.message

def decodeText (bytes : ByteArray) : Except SystemFault String :=
  match String.fromUTF8? bytes with
  | some text => .ok text
  | none => .error .invalidUtf8

/-! The stages -/

def parseArguments (words : List String) : Except CommandError Arguments :=
  match Arguments.parse words with
  | some a => .ok a
  | none => .error .usage

def isYamlPath (path : String) : Bool :=
  FilePath.extension? path == some "yaml" || FilePath.extension? path == some "yml"

def parseConfig (path : String) (content : ByteArray) : Except String Options := do
  let text ← (decodeText content).mapError SystemFault.message
  if isYamlPath path then Options.parseYaml text else Options.parse text

def loadConfig (s : Surroundings) (path : String) : Except CommandError Options :=
  match s.read path with
  | .ok content => (parseConfig path content).mapError (.config path)
  | .error f => .error (.config path f.message)

/-- The options of a run: those of the arguments, else those of the file, else the defaults. -/
def loadOptions (s : Surroundings) (a : Arguments) : Except CommandError Options :=
  match a.config with
  | some path => (loadConfig s path).map a.overrides.over
  | none => .ok (a.overrides.over {})

def defaultPage : String := "index.html"

/-- Reads the page, from standard input if its path is a hyphen. -/
def readPage (s : Surroundings) (a : Arguments) : Except CommandError String :=
  let path := a.page.getD defaultPage
  if path = "-" then (decodeText s.standardInput).mapError (.input "<stdin>")
  else ((s.read path).bind decodeText).mapError (.input path)

def renderer? (s : Surroundings) (a : Arguments) : Option Page.Renderer :=
  match a.drawing with
  | .headless => some (Page.headless s.library)
  | .program => some ((s.program (a.program.getD Page.Program.defaultPath)).renderer s.store)
  | .off => none

def drawPage (s : Surroundings) (a : Arguments) (page : String) : Page.Rendering String :=
  match renderer? s a with
  | some r => Page.render r page
  | none => { result := .ok page }

/-! The whole -/

structure Run where
  result : Except CommandError Collection
  events : List Event := []

def run (s : Surroundings) (a : Arguments) : Run :=
  match loadOptions s a, readPage s a with
  | .error e, _ => { result := .error e }
  | .ok _, .error e => { result := .error e }
  | .ok o, .ok page =>
    let drawn := drawPage s a page
    match drawn.result with
    | .error e => { result := .error (.render e), events := drawn.events }
    | .ok page =>
      let events := drawn.events ++ [.pageReady a.drawing.description page.utf8ByteSize]
      match extractMarkup o page with
      | .error e => { result := .error (.extract e), events }
      | .ok (c, found) => { result := .ok c, events := events ++ found }

/-- The list of the coordinates, first in one line and then in many. -/
def listing (c : Collection) : String :=
  "Coordinates json:  " ++ c.json ++ "\nCoordinates Array: " ++ c.prettyJson ++ "\n"

structure Outcome where
  code : Nat
  output : String := ""
  /-- The log, and behind it what is wrong. -/
  complaint : String := ""
  deriving DecidableEq, Repr

def CommandError.code : CommandError → Nat
  | .usage => 2
  | _ => 1

def Run.outcome (log : Log) (r : Run) : Outcome :=
  match r.result with
  | .ok c => { code := 0, output := listing c, complaint := log.text r.events }
  | .error e => { code := e.code, complaint := log.text r.events ++ (e.message ++ "\n") }

/-- Runs the command on arguments. The log starts when they are accepted. -/
def execute (s : Surroundings) (words : List String) : Outcome :=
  match parseArguments words with
  | .error e => { code := e.code, complaint := e.message ++ "\n" }
  | .ok a => (run s a).outcome s.log

end ShapeCoords.CommandLine
