import ShapeCoords.CommandLine.Run

/-!
The command itself. It reads the files that the arguments name, and standard input if the page comes
from there; all else is `CommandLine.execute`. No library for drawing is at hand here, and no program
is started: one that is there is refused. The log has a plain line for each warning.
-/

namespace ShapeCoords.CommandLine

def readFile (path : String) : IO (Except SystemFault ByteArray) := do
  try
    return .ok (← IO.FS.readBinFile path)
  catch
    | .noFileOrDirectory .. => return .error .notFound
    | .inappropriateType _ code _ =>
      return .error (if code = 21 then .isDirectory else .notDirectory)
    | .permissionDenied .. => return .error .permissionDenied
    | e => return .error (.other e.toString)

/-- Reads a stream to its end, behind what was read before. -/
partial def readStream (input : IO.FS.Stream) (bytes : ByteArray) : IO ByteArray := do
  let more ← input.read 65536
  if more.isEmpty then return bytes else readStream input (bytes ++ more)

def programFault (path : String) : IO SystemFault := do
  if !path.toList.contains '/' then return .notFound
  match ← readFile path with
  | .ok _ | .error .isDirectory => return .permissionDenied
  | .error f => return f

def logLine (e : Event) : String :=
  let level := match e.level with
    | .debug => "DEBUG"
    | .info => "INFO"
    | .warn => "WARN"
  let value : Event.Value → String
    | .count n => toString n
    | .text s => s
  let fields := e.fields.map fun (name, v) => " " ++ name ++ "=" ++ value v
  level ++ " " ++ e.message ++ String.join fields ++ "\n"

/-- Reads all that a run with some arguments may ask for. -/
def surroundings (a : Arguments) : IO Surroundings := do
  let page := a.page.getD defaultPage
  let paths := a.config.toList ++ if page = "-" then [] else [page]
  let files ← paths.mapM fun path => return (path, ← readFile path)
  let standardInput ← if page = "-" then readStream (← IO.getStdin) .empty else pure .empty
  let fault ← programFault (a.program.getD Page.Program.defaultPath)
  return {
    read := fun path => (files.lookup path).getD (.error .notFound)
    standardInput
    library := {}
    program := fun path => ⟨path, fun _ _ => .error fault⟩
    store := fun _ => .ok ()
    log := { write := fun shown => String.join (shown.map logLine) } }

def perform (words : List String) : IO UInt32 := do
  let s ← surroundings ((Arguments.parse words).getD {})
  let outcome := execute s words
  (← IO.getStdout).putStr outcome.output
  (← IO.getStderr).putStr outcome.complaint
  return outcome.code.toUInt32

end ShapeCoords.CommandLine

def main (words : List String) : IO UInt32 :=
  ShapeCoords.CommandLine.perform words
