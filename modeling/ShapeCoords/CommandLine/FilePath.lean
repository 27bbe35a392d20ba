import ShapeCoords.Text.Splitting

/-!
Paths of files: names between slashes.
-/

namespace ShapeCoords.CommandLine.FilePath

def names (path : String) : List String :=
  (Text.splitAtEach '/' path.toList).map String.ofList

def isAbsolute (path : String) : Bool :=
  path.toList.head? == some '/'

def fileName? (path : String) : Option String :=
  ((names path).filter fun name => name != "" && name != ".").getLast?.filter fun name =>
    name != ".."

/-- What follows the last dot of a name. A dot at the start of the name does not count. -/
def extensionOf? (name : List Char) : Option (List Char) :=
  let before := name.reverse.dropWhile fun c => c != '.'
  if before.length ≤ 1 then none else some (name.drop before.length)

def extension? (path : String) : Option String :=
  (fileName? path).bind fun name => (extensionOf? name.toList).map String.ofList

end ShapeCoords.CommandLine.FilePath
