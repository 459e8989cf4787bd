import JsonShape.Files
import JsonShape.Glob

/-!
# Paths that a pattern means

A pattern means the paths of the existing files and folders that its names lead to, a folder
before what it holds and entries in the order of their names. The search ends at the first folder
whose entries it needs and cannot read.
-/
namespace JsonShape.Glob

/-- A folder that a search could not read. -/
structure SearchFault where
  /-- The path of the folder. -/
  folder : String
  /-- Why it cannot be read. -/
  fault : FileFault

/-- The wording of a failed search. -/
def SearchFault.message (failed : SearchFault) : String :=
  "attempting to read `" ++ failed.folder ++ "` resulted in an error: " ++ failed.fault.message

/-- Questions to a file system up to a folder that cannot be read. -/
abbrev Search (m : Type → Type) := ExceptT SearchFault m

variable {m : Type → Type} [Monad m]

/-- The names of the entries of a folder that is searched. -/
def entryNames (files : FileView m) (folder : String) : Search m (List String) := do
  match ← files.names folder with
  | .ok names => return names
  | .error fault => throw ⟨folder, fault⟩

/-- How deep folders are searched. A path has at most 4096 bytes, hence at most half as many
names. -/
def deepest : Nat := 2048

/-- Whether a path names the working folder, by a point or by several ones. -/
def isWorkingFolder (path : String) : Bool :=
  (Text.parts '/' path.toList).all (· = ['.'])

/-- The path of an entry of a searched folder. Entries of the working folder go by their name. -/
def searched (folder name : String) : String :=
  if isWorkingFolder folder then name else Files.entry folder name

/-- Visit everything below a folder, each folder before its entries. -/
def visitBelow (files : FileView m) (visit : String → String → Search m (List String)) :
    Nat → String → Search m (List String)
  | 0, _ => pure []
  | depth + 1, folder => do
    if ← files.isFolder folder then
      (← entryNames files folder).flatMapM fun name => do
        let path := searched folder name
        return (← visit name path) ++ (← visitBelow files visit depth path)
    else return []

/-- A path that the last name of a pattern led to. -/
def found (files : FileView m) (foldersOnly : Bool) (path : String) :
    Search m (List String) := do
  if foldersOnly then
    if ← files.isFolder path then return [path] else return []
  else return [path]

/-- The names that stand for a folder itself and the one above it, which a pattern means only if
it starts with a point. -/
def dotNames : List Piece → List String
  | .char '.' :: rest =>
    ["..", "."].filter fun name => matchesName (.char '.' :: rest) name.toList
  | _ => []

/-- The paths that names lead to from a folder. -/
def expandFrom (files : FileView m) (foldersOnly : Bool) :
    List (List Piece) → String → Search m (List String)
  | [], path => found files foldersOnly path
  | [[.anyFolders]], folder =>
    visitBelow files (fun _ path => found files true path) deepest folder
  | [.anyFolders] :: pattern :: rest, folder =>
    visitBelow files (fun name path =>
      if matchesName pattern name.toList then expandFrom files foldersOnly rest path
      else pure []) deepest folder
  | pattern :: rest, folder => do
    match literal? pattern with
    | some name =>
      let name := String.ofList name
      let path := searched folder name
      let leads ← if name = "." || name = ".." then files.isFolder folder else files.present path
      if leads then expandFrom files foldersOnly rest path else return []
    | none =>
      if ← files.isFolder folder then
        let names ← entryNames files folder
        let dots ← (dotNames pattern).flatMapM fun name =>
          expandFrom files foldersOnly rest (Files.entry folder name)
        let entries ← names.flatMapM fun name =>
          if matchesName pattern name.toList then
            expandFrom files foldersOnly rest (searched folder name)
          else pure []
        return dots ++ entries
      else return []

/-- The paths that a pattern means. -/
def Pattern.expand (files : FileView m) (pattern : Pattern) : Search m (List String) :=
  expandFrom files pattern.foldersOnly pattern.names (if pattern.rooted then "/" else ".")

end JsonShape.Glob
