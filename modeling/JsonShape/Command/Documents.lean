import JsonShape.Command.Event
import JsonShape.Command.Settings
import JsonShape.Json.Pointer
import JsonShape.Json.Reader
import JsonShape.Unicode.WhiteSpace

/-!
# Loading documents

The inputs of a command are resolved to paths, the files of the paths are read, and each text is
cut into documents. The pointer selects a part of a document, and the filter, of whatever library
there is, makes documents of that part; where the pointer selects nothing, an absent document takes
its place. Documents are loaded in order until a first problem.
-/
namespace JsonShape.Command

/-! ## Inputs -/

/-- A path with what reading its file gave. -/
structure Source where
  /-- The path. -/
  path : String
  /-- The text or the fault. -/
  text : Except FileFault String

/-- Read the text of a file. -/
def readText {m : Type → Type} [Monad m] (files : FileView m) (path : String) :
    m (Except FileFault String) := do
  return fileText (← files.read path)

/-- The paths that an input means. -/
def resolveInput {m : Type → Type} [Monad m] (files : FileView m) (input : String) :
    m (Except Problem (List String)) := do
  if Glob.isPattern input then
    match Glob.Pattern.ofText input.toList with
    | .error error => return .error (.patternInvalid error)
    | .ok pattern =>
      match ← (pattern.expand files).run with
      | .error failed => return .error (.searchFailed failed)
      | .ok paths => return if paths.isEmpty then .error (.nothingMatched input) else .ok paths
  else return .ok [input]

/-- The paths that inputs mean, or the first problem. -/
def resolveInputs {m : Type → Type} [Monad m] (files : FileView m) :
    List String → m (Except Problem (List String))
  | [] => return .ok []
  | input :: rest => do
    match ← resolveInput files input with
    | .error problem => return .error problem
    | .ok paths => return (← resolveInputs files rest).map (paths ++ ·)

/-- The sources of paths. -/
def readSources {m : Type → Type} [Monad m] (files : FileView m) (paths : List String) :
    m (List Source) :=
  paths.mapM fun path => return ⟨path, ← readText files path⟩

/-- The sources that inputs mean, or the problem in resolving them. -/
def gather {m : Type → Type} [Monad m] (files : FileView m) (inputs : List String) :
    m (Except Problem (List Source)) := do
  match ← resolveInputs files inputs with
  | .error problem => return .error problem
  | .ok paths => return .ok (← readSources files paths)

/-! ## Documents -/

/-- A document with the name of where it comes from. -/
structure Document where
  /-- The name. -/
  source : String
  /-- The document, absent where the pointer selects nothing. -/
  value : Slot

/-- Whether a line is empty or holds white space only. -/
def isBlankLine (line : List Char) : Bool :=
  line.all Unicode.isWhiteSpace

/-- The texts of the documents of a text: the text itself, or its lines that are not blank. -/
def documentTexts (byLine : Bool) (text : String) : List (List Char) :=
  if byLine then (Text.lines text.toList).filter fun line => !isBlankLine line else [text.toList]

/-- The name of a document of a source. -/
def documentName (settings : InputSettings) (path : String) (index : Nat) : String :=
  if settings.byLine then s!"{path}:{index + 1}" else path

/-- The part of a document that is meant. -/
def select (settings : InputSettings) (document : Json) : Slot :=
  match settings.pointer with
  | none => some document
  | some pointer => document.at? pointer

/-- What the filter makes of a part of a document. -/
def filtered (library : Jq.Library) (settings : InputSettings) (source : String) (value : Json) :
    Except Problem (List Document) :=
  match settings.filter with
  | none => .ok [⟨source, some value⟩]
  | some filter => do
    let outputs ← (library.run filter value).mapError (.filterFailed source)
    return outputs.zipIdx.map fun (output, index) => ⟨s!"{source}#{index}", some output⟩

/-- The documents that a text gives. -/
def documentsOfText (library : Jq.Library) (settings : InputSettings) (path : String)
    (index : Nat) (text : List Char) : Except Problem (List Document) := do
  let document ← (Json.ofText text).mapError (.documentInvalid path index)
  let source := documentName settings path index
  match select settings document with
  | none => return [⟨source, none⟩]
  | some value => filtered library settings source value

/-- For each text of a source in order, the documents that it gives. -/
def documentsOfSource (library : Jq.Library) (settings : InputSettings) (source : Source) :
    List (Except Problem (List Document)) :=
  match source.text with
  | .error fault => [.error (.inputUnread source.path fault)]
  | .ok text =>
    (documentTexts settings.byLine text).zipIdx.map fun (text, index) =>
      documentsOfText library settings source.path index text

/-- Documents up to a first problem. -/
structure Loading where
  /-- The documents. -/
  documents : List Document
  /-- The problem that ended the loading. -/
  problem : Option Problem

/-- The documents before the first problem. -/
def Loading.ofSteps : List (Except Problem (List Document)) → Loading
  | [] => ⟨[], none⟩
  | .error problem :: _ => ⟨[], some problem⟩
  | .ok documents :: rest =>
    let further := ofSteps rest
    ⟨documents ++ further.documents, further.problem⟩

/-- Load the documents of sources. -/
def load (library : Jq.Library) (settings : InputSettings) (sources : List Source) : Loading :=
  .ofSteps (sources.flatMap (documentsOfSource library settings))

/-- What is logged of a document while it is loaded. -/
def selectionEvents (settings : InputSettings) (document : Document) : List Event :=
  match document.value, settings.pointer with
  | none, some pointer => [.nothingSelected document.source pointer]
  | _, _ => []

/-- What is logged while documents are loaded. -/
def Loading.events (settings : InputSettings) (loading : Loading) : List Event :=
  loading.documents.flatMap (selectionEvents settings) ++
    match loading.problem with
    | none => [.loaded loading.documents.length]
    | some _ => []

end JsonShape.Command
