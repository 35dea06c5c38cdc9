import Arcade.FileSystem

/-!
# File trees

Files and directories held in memory, with relative paths as names: components between slashes,
`.` for the directory itself and `..` for the one above it. Above the root there is only the root.

* `FileTree.makeDirectory`, `FileTree.writeFile` build a tree;
* `FileTree.toFileSystem` answers from it. A path that goes on after a file, or ends with a slash
  after one, fails because the file is no directory.
-/

namespace Arcade

/-- What a path can lead to. -/
inductive FileTree.Entry
  | file (bytes : Array UInt8)
  | directory
  deriving DecidableEq, Repr

/-- The entries of a tree, each under the names that lead to it from the root. -/
structure FileTree where
  entries : List (List String × FileTree.Entry) := []
  deriving DecidableEq, Repr, Inhabited

namespace FileTree

/-- What stands at a place; at the root, a directory. -/
def entry? (tree : FileTree) (place : List String) : Option Entry :=
  if place.isEmpty then some .directory else tree.entries.lookup place

/-- The place components lead to from a place. -/
def walk (tree : FileTree) (place : List String) : List String → Except FileError (List String)
  | [] => .ok place
  | name :: rest =>
    match tree.entry? place with
    | none => .error .notFound
    | some (.file _) => .error .notADirectory
    | some .directory =>
      if name = "" ∨ name = "." then tree.walk place rest
      else if name = ".." then tree.walk place.dropLast rest
      else if (tree.entry? (place ++ [name])).isSome then tree.walk (place ++ [name]) rest
      else .error .notFound

/-- The place of a path. -/
def resolve (tree : FileTree) (path : String) : Except FileError (List String) :=
  if path.isEmpty then .error .notFound else tree.walk [] (path.splitOn "/")

/-- The answers a tree gives. -/
def toFileSystem (tree : FileTree) : FileSystem where
  status path := (tree.resolve path).map fun _ => ()
  read path := do
    match tree.entry? (← tree.resolve path) with
    | some (.file bytes) => .ok bytes
    | some .directory => .error .isADirectory
    | none => .error .notFound

/-- The tree with an entry at a place. -/
def put (tree : FileTree) (place : List String) (entry : Entry) : FileTree :=
  ⟨(place, entry) :: tree.entries⟩

/-- The tree with all directories of some components from a place on. -/
def makeDirectories (tree : FileTree) (place : List String) : List String → FileTree
  | [] => tree
  | name :: rest =>
    if name = "" ∨ name = "." then tree.makeDirectories place rest
    else if name = ".." then tree.makeDirectories place.dropLast rest
    else
      let next := place ++ [name]
      match tree.entry? next with
      | some (.file _) => tree
      | some .directory => tree.makeDirectories next rest
      | none => (tree.put next .directory).makeDirectories next rest

/-- The tree with the directory of a path and those above it. -/
def makeDirectory (tree : FileTree) (path : String) : FileTree :=
  tree.makeDirectories [] (path.splitOn "/")

/-- The tree with a file at a path, if its directory is there and no directory has its name. -/
def writeFile (tree : FileTree) (path : String) (bytes : Array UInt8) : FileTree :=
  let components := path.splitOn "/"
  let name := components.getLastD ""
  if name = "" ∨ name = "." ∨ name = ".." then tree
  else
    match tree.walk [] components.dropLast with
    | .error _ => tree
    | .ok place =>
      match tree.entry? place, tree.entry? (place ++ [name]) with
      | some .directory, some .directory => tree
      | some .directory, _ => tree.put (place ++ [name]) (.file bytes)
      | _, _ => tree

end FileTree

end Arcade
