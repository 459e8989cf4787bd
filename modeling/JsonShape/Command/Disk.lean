import JsonShape.Command
import JsonShape.Files.Disk

/-!
# Commands on a disk

A command reads the files of a disk and leaves a disk behind. The folders above an output file are
made if they are missing; a command that meets a problem leaves the disk as it is.
-/
namespace JsonShape.Command

/-- The disk with a file and the folders above it. -/
def save (disk : Disk) (path content : String) : Except Problem Disk := do
  let disk ← match Files.parent? path with
    | none => .ok disk
    | some folder => (disk.createFolders folder).mapError (.folderNotMade folder)
  (disk.write path content.toUTF8).mapError (.outputNotWritten path)

/-- The disk that an outcome leaves behind. -/
def Outcome.settle (outcome : Outcome) (disk : Disk) : Outcome × Disk :=
  match outcome.output with
  | none => (outcome, disk)
  | some (path, content) =>
    match save disk path content with
    | .ok disk => (outcome, disk)
    | .error problem => (outcome.withoutOutput problem, disk)

/-- What an invocation gives on a disk, and the disk that it leaves behind. -/
def runWith (library : Jq.Library) (disk : Disk) (terminal : Bool) (invocation : Invocation) :
    Outcome × Disk :=
  let outcome : Outcome := Id.run (run library disk.view terminal invocation)
  outcome.settle disk

/-- What it gives with the interpreter of this project. -/
def runOn (disk : Disk) (terminal : Bool) (invocation : Invocation) : Outcome × Disk :=
  runWith Jq.interpreter disk terminal invocation

end JsonShape.Command
