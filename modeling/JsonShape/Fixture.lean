import JsonShape.Files
import JsonShape.Fixture.Case
import JsonShape.Text.Shown

/-!
# Running recorded cases

Every file of a folder whose name ends in `.json` is read as a case, and its value is reported
against its shape. A case passes when the reported lines are those that it records. A file that
holds no case counts as failed, and the others are run all the same. The run succeeds when there
is a file and none failed.
-/
namespace JsonShape.Fixture

/-- What became of a file. -/
inductive Verdict where
  /-- The file cannot be read. -/
  | unread (path : String) (fault : FileFault)
  /-- The text of the file starts with no case. -/
  | rejected (path : String) (text : List Char) (rejection : CaseRejection)
  /-- The reported lines are those that the case records. -/
  | passed (case : Case)
  /-- The reported lines are others. -/
  | failed (case : Case)

namespace Verdict

/-- What becomes of a case. -/
def ofCase (case : Case) : Verdict :=
  if case.reported = case.expected then .passed case else .failed case

/-- What becomes of a file. -/
def ofFile (path : String) : Except FileFault String → Verdict
  | .error fault => .unread path fault
  | .ok text =>
    match Case.ofText text.toList with
    | .error rejection => .rejected path text.toList rejection
    | .ok case => ofCase case

/-- Whether the case of a file passed. -/
def isPassed : Verdict → Bool
  | .passed _ => true
  | _ => false

/-- Texts as a list, each shown on a line of its own. -/
def shownList (texts : List String) : String :=
  if texts.isEmpty then "[]"
  else
    "[\n" ++ String.join (texts.map fun text =>
      "    " ++ String.ofList (Text.shown text.toList) ++ ",\n") ++ "]"

/-- The texts that tell what became of a file; names are painted if `painting` is set. -/
def texts (painting : Bool) : Verdict → List String
  | .unread path fault => ["❌ " ++ path ++ ": failed to read: " ++ fault.message]
  | .rejected path text rejection =>
    ["❌ " ++ path ++ ": " ++ rejectionMessage text rejection]
  | .passed case => ["✅ " ++ Console.paint painting "32" case.name]
  | .failed case =>
    ["❌ " ++ Console.paint painting "31" case.name,
      "   expected: " ++ shownList case.expected,
      "   got:      " ++ shownList case.reported]

end Verdict

/-- The verdicts on files. -/
def verdicts (files : List (String × Except FileFault String)) : List Verdict :=
  files.map fun file => .ofFile file.1 file.2

/-- How many files failed. -/
def failedCount (verdicts : List Verdict) : Nat :=
  verdicts.countP fun verdict => !verdict.isPassed

/-- Whether a run succeeds. -/
def succeeds (verdicts : List Verdict) : Bool :=
  !verdicts.isEmpty && failedCount verdicts = 0

/-- The last text of a run. -/
def summary (verdicts : List Verdict) : String :=
  s!"—— {verdicts.length} cases, {failedCount verdicts} failed ——"

/-- The texts that tell about a run. -/
def texts (painting : Bool) (verdicts : List Verdict) : List String :=
  verdicts.flatMap (Verdict.texts painting) ++ [summary verdicts]

/-- The name of the folder of cases. -/
def folder : String := "fixtures"

/-- The files of the folder of cases with their texts, in the order of their names. A folder that
cannot be read counts as empty. -/
def gather {m : Type → Type} [Monad m] (files : FileView m) :
    m (List (String × Except FileFault String)) := do
  let names := (← files.names folder).toOption.getD []
  (names.filter fun name => name.endsWith ".json").mapM fun name => do
    let path := Files.entry folder name
    return (path, fileText (← files.read path))

/-- Run the cases of a folder. -/
def run {m : Type → Type} [Monad m] (files : FileView m) : m (List Verdict) := do
  return verdicts (← gather files)

end JsonShape.Fixture
