import JsonShape.Fields
import JsonShape.Files

/-!
# Files in memory

A file tree holds files and folders; a disk is a tree with a working folder. Reading a path
follows its names: an empty name and a single point stay in a folder, two points lead to the
folder above, and the root lies above itself.
-/
namespace JsonShape

/-- A file or a folder. -/
inductive FileTree where
  /-- A file with its content. -/
  | file (content : ByteArray)
  /-- A folder with its entries. -/
  | folder (entries : List (String × FileTree))

namespace FileTree

/-- The part of a tree to which names lead. -/
def at? : List String → FileTree → Option FileTree
  | [], tree => some tree
  | name :: rest, .folder entries => Fields.get? name entries >>= at? rest
  | _ :: _, .file _ => none

/-- Put a tree in the place to which names lead, making folders that are missing on the way. -/
def put (tree : FileTree) : List String → FileTree → FileTree
  | [], _ => tree
  | name :: rest, .folder entries =>
    .folder (Fields.insert name (put tree rest ((Fields.get? name entries).getD (.folder [])))
      entries)
  | _ :: _, .file content => .file content

end FileTree

/-- A tree and the names that lead to its working folder. -/
structure Disk where
  /-- Everything. -/
  root : FileTree
  /-- The names from the root to the working folder. -/
  here : List String

namespace Disk

/-- The names to which further names lead from a place. Every name must stand in a folder. -/
def walk (root : FileTree) (place : List String) :
    List String → Except FileFault (List String)
  | [] => .ok place
  | name :: rest =>
    match root.at? place with
    | some (.folder entries) =>
      if name = "" || name = "." then walk root place rest
      else if name = ".." then walk root place.dropLast rest
      else if (Fields.get? name entries).isSome then walk root (place ++ [name]) rest
      else .error .notFound
    | some (.file _) => .error .notFolder
    | none => .error .notFound

/-- Where the names of a path start. -/
def start (disk : Disk) (path : String) : List String :=
  if path.startsWith "/" then [] else disk.here

/-- The names from the root to what a path leads to. -/
def place (disk : Disk) (path : String) : Except FileFault (List String) :=
  if path.isEmpty then .error .notFound
  else walk disk.root (disk.start path) (Files.components path)

/-- What a path leads to. -/
def find (disk : Disk) (path : String) : Except FileFault FileTree := do
  let place ← disk.place path
  match disk.root.at? place with
  | some tree => .ok tree
  | none => .error .notFound

/-- The content of a file. -/
def read (disk : Disk) (path : String) : Except FileFault ByteArray := do
  match ← disk.find path with
  | .file content => .ok content
  | .folder _ => .error .isFolder

/-- Whether a path is that of a folder. -/
def isFolder (disk : Disk) (path : String) : Bool :=
  match disk.find path with
  | .ok (.folder _) => true
  | _ => false

/-- The names of the entries of a folder in order. -/
def names (disk : Disk) (path : String) : Except FileFault (List String) := do
  match ← disk.find path with
  | .folder entries => .ok ((Fields.names entries).mergeSort fun left right => left ≤ right)
  | .file _ => .error .notFolder

/-- A disk as a file system that can be asked. -/
def view (disk : Disk) : FileView Id where
  read := disk.read
  present path := (disk.find path).toBool
  isFolder := disk.isFolder
  names := disk.names

/-- A place where something new may stand: the names to its folder and its own name. -/
structure Vacancy where
  /-- The names from the root to the folder. -/
  folder : List String
  /-- The name in the folder. -/
  name : String
  /-- Whether the path insists on a folder. -/
  folderOnly : Bool

/-- The place of a path's last name, none when the path leads to an existing folder by a name
that stands for it. -/
def vacancy (disk : Disk) (path : String) : Except FileFault (Option Vacancy) := do
  if path.isEmpty then .error .notFound
  let all := Files.components path
  let named := (all.reverse.dropWhile (· = "")).reverse
  match named.getLast? with
  | none => return none
  | some name =>
    let folder ← walk disk.root (disk.start path) named.dropLast
    match disk.root.at? folder with
    | some (.folder _) =>
      if name = "." || name = ".." then return none
      else return some ⟨folder, name, named.length < all.length⟩
    | some (.file _) => .error .notFolder
    | none => .error .notFound

/-- Put a tree on a disk. -/
def put (disk : Disk) (place : List String) (tree : FileTree) : Disk :=
  { disk with root := FileTree.put tree place disk.root }

/-- Make one folder. -/
def makeFolder (disk : Disk) (path : String) : Except FileFault Disk := do
  match ← disk.vacancy path with
  | none => .error .alreadyExists
  | some vacancy =>
    let place := vacancy.folder ++ [vacancy.name]
    if (disk.root.at? place).isSome then .error .alreadyExists
    else .ok (disk.put place (.folder []))

/-- Make a folder unless there is one. -/
def ensureFolder (disk : Disk) (path : String) : Except FileFault Disk :=
  match disk.makeFolder path with
  | .ok disk => .ok disk
  | .error fault => if disk.isFolder path then .ok disk else .error fault

/-- Make a folder and those above it that are missing, at most `fuel` of them. -/
def ensureFolders : Nat → String → Disk → Except FileFault Disk
  | 0, _, _ => .error .notFound
  | fuel + 1, path, disk =>
    if path.isEmpty then .ok disk
    else
      match disk.ensureFolder path, Files.parent? path with
      | .error .notFound, some above => do
        let disk ← ensureFolders fuel above disk
        disk.ensureFolder path
      | outcome, _ => outcome

/-- Make a folder and those above it that are missing. -/
def createFolders (disk : Disk) (path : String) : Except FileFault Disk :=
  ensureFolders ((Files.components path).length + 1) path disk

/-- Write a file, in place of the one that has the path already. -/
def write (disk : Disk) (path : String) (content : ByteArray) : Except FileFault Disk := do
  match ← disk.vacancy path with
  | none => .error .isFolder
  | some vacancy =>
    let place := vacancy.folder ++ [vacancy.name]
    match disk.root.at? place with
    | some (.folder _) => .error .isFolder
    | _ =>
      if vacancy.folderOnly then .error .isFolder
      else .ok (disk.put place (.file content))

end Disk

end JsonShape
