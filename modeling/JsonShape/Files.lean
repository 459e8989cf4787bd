import JsonShape.Text.Parts

/-!
# Files

What the commands need to know of a file system, in whatever monad it is asked, and the texts of
paths. The names on a path stand between slashes; a path that starts with a slash starts at the
root, any other at the working folder.
-/
namespace JsonShape

/-- Why a file system refuses. -/
inductive FileFault where
  /-- Nothing has this path. -/
  | notFound
  /-- Something has this path already. -/
  | alreadyExists
  /-- A name on the path is the name of no folder. -/
  | notFolder
  /-- A folder has this path. -/
  | isFolder
  /-- The content is no UTF-8 text. -/
  | notText
  /-- Anything else, in the words of the system. -/
  | refused (words : String)
deriving DecidableEq

/-- The wording of a fault. -/
def FileFault.message : FileFault → String
  | .notFound => "No such file or directory (os error 2)"
  | .alreadyExists => "File exists (os error 17)"
  | .notFolder => "Not a directory (os error 20)"
  | .isFolder => "Is a directory (os error 21)"
  | .notText => "stream did not contain valid UTF-8"
  | .refused words => words

/-- Questions to a file system. -/
structure FileView (m : Type → Type) where
  /-- The content of a file. -/
  read : String → m (Except FileFault ByteArray)
  /-- Whether anything has a path. -/
  present : String → m Bool
  /-- Whether a path is that of a folder. -/
  isFolder : String → m Bool
  /-- The names of the entries of a folder, in the order of their bytes. -/
  names : String → m (Except FileFault (List String))

/-- The text of a file's content. -/
def fileText (content : Except FileFault ByteArray) : Except FileFault String := do
  let bytes ← content
  match String.fromUTF8? bytes with
  | some text => .ok text
  | none => .error .notText

namespace Files

/-- The path of a name in a folder. -/
def entry (folder name : String) : String :=
  if folder.isEmpty || folder.endsWith "/" then folder ++ name else folder ++ "/" ++ name

/-- The names on a path; the first one is empty when the path starts at the root. -/
def components (path : String) : List String :=
  Text.stringParts '/' path

/-- Names without those at the end that lead nowhere. The first name is kept. -/
def trimmed (names : List String) : List String :=
  let kept := names.drop 1
  names.take 1 ++ (kept.reverse.dropWhile fun name => name = "" || name = ".").reverse

/-- The path that leads to the last name of a path; the root and the empty path have none. -/
def parent? (path : String) : Option String :=
  match trimmed (components path) with
  | [] => none
  | [name] => if name.isEmpty then none else some ""
  | names =>
    match trimmed names.dropLast with
    | [""] => some "/"
    | above => some (String.intercalate "/" above)

end Files

end JsonShape
