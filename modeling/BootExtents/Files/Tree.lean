import BootExtents.Files.Basic
import BootExtents.Files.Path
import BootExtents.Sector.Basic

/-!
# File trees in memory

A tree of files and directories that answers what is asked about files.

## Main definitions

* `BootExtents.FileTree` — files and directories by their names from the root.
* `BootExtents.FileTree.put`, `remove` — changing a tree.
* `BootExtents.FileTree.find` — what is at a path.
* `BootExtents.FileTree.answer` — the answers.
-/

set_option relaxedAutoImplicit false
set_option autoImplicit false

namespace BootExtents

/-- A file or directory of a tree. -/
inductive FileTree.Item where
  | file (content : ByteArray)
  | directory
deriving Inhabited

/-- The number of bytes of an item that is a file. -/
def FileTree.Item.size? : FileTree.Item → Option Nat
  | .file content => some content.size
  | .directory => none

/-- A tree: its items but the root, each under the names that lead to it. -/
structure FileTree where
  /-- The items, each with the names from the root to it. -/
  items : List (List String × FileTree.Item)
deriving Inhabited

namespace FileTree

/-- The tree of an empty root. -/
def empty : FileTree := ⟨[]⟩

/-- The item under some names. -/
def item? (tree : FileTree) (names : List String) : Option Item :=
  if names = [] then some .directory else tree.items.lookup names

/-- Sets the item under some names. -/
def set (tree : FileTree) (names : List String) (item : Item) : FileTree :=
  ⟨(names, item) :: tree.items.filter (·.1 ≠ names)⟩

/-- Makes a directory under some names, unless there is something already. -/
def addDirectory (tree : FileTree) (names : List String) : FileTree :=
  if (tree.item? names).isSome then tree else tree.set names .directory

/-- Puts an item at a path, with the directories on the way to it. A file takes the place of an
older one; a directory that is there already stays as it is. -/
def put (tree : FileTree) (path : String) (item : Item) : FileTree :=
  let names := Path.components path
  let tree := (List.range names.length).foldl
    (fun tree count => tree.addDirectory (names.take count)) tree
  match item with
  | .file _ => tree.set names item
  | .directory => tree.addDirectory names

/-- Removes what is at a path, with all that is in it. -/
def remove (tree : FileTree) (path : String) : FileTree :=
  ⟨tree.items.filter fun entry => !(Path.components path).isPrefixOf entry.1⟩

/-- Walks from the directory under some names along further ones, `..` leading back. -/
def walk (tree : FileTree) : (place names : List String) → Except IoError (List String)
  | place, [] => .ok place
  | place, name :: names =>
    match tree.item? place with
    | none => .error .notFound
    | some (.file _) => .error .notADirectory
    | some .directory =>
      if name = ".." then tree.walk place.dropLast names
      else if Path.maxNameSize < name.utf8ByteSize then .error .nameTooLong
      else if (tree.item? (place ++ [name])).isSome then tree.walk (place ++ [name]) names
      else .error .notFound

/-- What is at a path, and the names that lead to it. -/
def find (tree : FileTree) (path : String) : Except IoError (List String × Item) :=
  match Path.fault? path with
  | some fault => .error fault
  | none =>
    match tree.walk [] (Path.components path) with
    | .error error => .error error
    | .ok names =>
      match tree.item? names with
      | none => .error .notFound
      | some .directory => .ok (names, .directory)
      | some (.file content) =>
        if Path.endsInDirectory path then .error .notADirectory else .ok (names, .file content)

/-- The content of the file at a path. -/
def content (tree : FileTree) (path : String) : Except IoError ByteArray :=
  match tree.find path with
  | .error error => .error error
  | .ok (_, .file content) => .ok content
  | .ok (_, .directory) => .error .isADirectory

/-- The name of an item, if it is in the directory under some names. -/
def nameIn? (directory names : List String) : Option String :=
  if names.dropLast = directory then names.getLast? else none

/-- The names in the directory at a path. -/
def list (tree : FileTree) (path : String) : Except IoError (List String) :=
  match tree.find path with
  | .error error => .error error
  | .ok (_, .file _) => .error .notADirectory
  | .ok (names, .directory) => .ok (tree.items.filterMap fun entry => nameIn? names entry.1)

/-- The answers of a tree. -/
def answer (tree : FileTree) : (question : Files.Question) → Files.Answer question
  | .isThere path => (tree.find path).isOk
  | .read path => tree.content path
  | .list path => tree.list path
  | .ordinarySize path => (tree.find path).map fun entry => entry.2.size?
  | .length path => (tree.content path).map (·.size)
  | .slice path position length =>
    (tree.content path).bind fun content => readExact content position length

end FileTree

end BootExtents
