import JsonShape.Command

/-!
# The host

The outer layer of the commands: it asks the system for files and for the environment, and it
prints, writes and logs what a command gives. Filters are run by the interpreter of this project.
-/
namespace JsonShape.Host

/-- The fault of an error. The number of the system, which may come negated, tells a name that is
no folder from one that is. -/
def faultOf : IO.Error → FileFault
  | .noFileOrDirectory .. => .notFound
  | .alreadyExists .. => .alreadyExists
  | .inappropriateType _ code _ =>
    if code = 20 || code = 0 - 20 then .notFolder else .isFolder
  | error => .refused (toString error)

/-- What the system does, or why it refuses. -/
def attempt {α : Type} (action : IO α) : IO (Except FileFault α) := do
  try
    return .ok (← action)
  catch error =>
    return .error (faultOf error)

/-- Whether a path leads to a folder. -/
def isFolder (path : String) : IO Bool := do
  return (← attempt do (← IO.FS.realPath path).isDir) matches .ok true

/-- Read a file, which no folder is. -/
def readFile (path : String) : IO (Except FileFault ByteArray) := do
  if ← isFolder path then return .error .isFolder
  attempt (IO.FS.readBinFile path)

/-- The names of the entries of a folder in order. -/
def names (path : String) : IO (Except FileFault (List String)) := do
  let entries ← attempt do (← IO.FS.realPath path).readDir
  return entries.map fun entries =>
    (entries.toList.map (·.fileName)).mergeSort fun left right => left ≤ right

/-- The files of the system. -/
def files : FileView IO where
  read := readFile
  present path := return (← attempt (IO.FS.realPath path)).toBool
  isFolder := isFolder
  names := names

/-- Write a file and the folders above it. -/
def save (path content : String) : IO (Except Command.Problem Unit) := do
  if let some folder := Files.parent? path then
    if !folder.isEmpty then
      if let .error fault ← attempt (IO.FS.createDirAll folder) then
        return .error (.folderNotMade folder fault)
  return (← attempt (IO.FS.writeFile path content)).mapError (.outputNotWritten path)

/-- Write the file of an outcome, if it has one. -/
def settle (outcome : Command.Outcome) : IO Command.Outcome := do
  match outcome.output with
  | none => return outcome
  | some (path, content) =>
    match ← save path content with
    | .ok _ => return outcome
    | .error problem => return outcome.withoutOutput problem

/-- Run an invocation and give its exit status. -/
def perform (invocation : Command.Invocation) : IO UInt32 := do
  let output ← IO.getStdout
  let outcome ← settle (← Command.run Jq.interpreter files (← output.isTty) invocation)
  let filter := Command.logFilter invocation.verbosity (← IO.getEnv "RUST_LOG")
  for line in outcome.logLines filter (Command.logStyle invocation) do
    IO.eprintln line
  output.putStr outcome.printed
  output.flush
  return outcome.status.toUInt32

end JsonShape.Host
