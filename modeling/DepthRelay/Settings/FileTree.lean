import DepthRelay.Settings.Storage
import DepthRelay.Text.Numeral

namespace DepthRelay

/-!
# Where paths lead

A file system as a tree, and the way of a path through it.

* `FileTree` — files, and directories with named entries.
* `FileTree.walk` — follows names from a place in a tree.  The walk ends at the first name that
  leads nowhere, so that name alone decides what is wrong with the path.
* `FileTree.locate` — follows a path, from the root or from the working directory.
-/

/-- Files, and directories with named entries. -/
inductive FileTree
  | file (contents : ByteArray)
  | directory (entries : List (String × FileTree))

namespace FileTree

/-- Bytes that a name can have. -/
def maxNameSize : Nat := 255

/-- Bytes that a path can have. -/
def maxPathSize : Nat := 4095

/-- What a path to a place leads to. -/
def location : FileTree → Location
  | file contents => .file contents
  | directory _ => .directory

/-- Follows names from a place with the directories `above` it, the nearest first.  No name and a
    dot stay where they are, two dots go up, and the root is above itself; but all of them need a
    directory to start from. -/
def walk (above : List FileTree) (place : FileTree) : List (List Char) → Location
  | [] => place.location
  | name :: names =>
    match place with
    | file _ => .belowFile
    | directory entries =>
      if name = [] ∨ name = ['.'] then walk above place names
      else if name = ['.', '.'] then
        match above with
        | [] => walk [] place names
        | parent :: above => walk above parent names
      else
        let name := String.ofList name
        if maxNameSize < name.utf8ByteSize then .nameTooLong
        else
          match entries.lookup name with
          | none => .absent
          | some next => walk (place :: above) next names

/-- Where a path leads in a tree.  A path that starts with a slash starts at the root, any other one
    at the working directory, whose own path is given. -/
def locate (workingDirectory path : String) (root : FileTree) : Location :=
  if path.isEmpty then .absent
  else if maxPathSize < path.utf8ByteSize then .nameTooLong
  else
    let start := if path.startsWith "/" then "" else workingDirectory ++ "/"
    walk [] root (Text.parts '/' (start ++ path).toList)

end FileTree

end DepthRelay
