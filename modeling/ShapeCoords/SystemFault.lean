/-!
What the system says when it cannot give access to a file or run a program.
-/

namespace ShapeCoords

inductive SystemFault where
  | notFound
  | permissionDenied
  | notDirectory
  | isDirectory
  | invalidUtf8
  | other (message : String)
  deriving DecidableEq, Repr

def SystemFault.message : SystemFault → String
  | .notFound => "No such file or directory (os error 2)"
  | .permissionDenied => "Permission denied (os error 13)"
  | .notDirectory => "Not a directory (os error 20)"
  | .isDirectory => "Is a directory (os error 21)"
  | .invalidUtf8 => "stream did not contain valid UTF-8"
  | .other message => message

end ShapeCoords
