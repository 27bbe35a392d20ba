import ShapeCoords.CommandLine.FilePath
import ShapeCoords.SystemFault

/-!
Files and directories below a working directory, and what a path leads to.
-/

namespace ShapeCoords.CommandLine

inductive Entry where
  | file (content : ByteArray)
  | directory

/-- The entries below a directory, each under the names that lead to it. The directories on the way
to an entry need none of their own. -/
structure FileTree where
  entries : List (List String × Entry) := []

namespace FileTree

def entry? (t : FileTree) (place : List String) : Option Entry :=
  if place.isEmpty then some .directory
  else
    match t.entries.find? fun e => e.1 == place with
    | some e => some e.2
    | none => if t.entries.any fun e => place.isPrefixOf e.1 then some .directory else none

/-- Follows names from a place; without a place, from a directory outside of the tree. Nothing
outside has a name that is known. -/
def follow (t : FileTree) : Option (List String) → List String → Except SystemFault Entry
  | none, [] => .ok .directory
  | none, name :: names =>
    if name = "" ∨ name = "." ∨ name = ".." then follow t none names else .error .notFound
  | some place, [] =>
    match t.entry? place with
    | some e => .ok e
    | none => .error .notFound
  | some place, name :: names =>
    match t.entry? place with
    | none => .error .notFound
    | some (.file _) => .error .notDirectory
    | some .directory =>
      if name = "" ∨ name = "." then follow t (some place) names
      else if name = ".." then
        follow t (if place.isEmpty then none else some place.dropLast) names
      else follow t (some (place ++ [name])) names

/-- What a path leads to from the directory. The null device is an empty file. -/
def resolve (t : FileTree) (path : String) : Except SystemFault Entry :=
  if path = "" then .error .notFound
  else if path = "/dev/null" then .ok (.file .empty)
  else t.follow (if FilePath.isAbsolute path then none else some []) (FilePath.names path)

def read (t : FileTree) (path : String) : Except SystemFault ByteArray :=
  match t.resolve path with
  | .ok (.file content) => .ok content
  | .ok .directory => .error .isDirectory
  | .error f => .error f

/-- Why no program can be run under a path. No entry may be run, and a name without a slash is
looked for elsewhere. -/
def programFault (t : FileTree) (path : String) : SystemFault :=
  if path.toList.contains '/' then
    match t.resolve path with
    | .ok _ => .permissionDenied
    | .error f => f
  else .notFound

end FileTree

end ShapeCoords.CommandLine
