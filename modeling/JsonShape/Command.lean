import JsonShape.Command.Documents
import JsonShape.Inference

/-!
# Commands

What a command does depends on its settings, on the library that runs its filter and on the sources
that it reads, and on nothing else. It gives events to log, a text to print, perhaps a text to write
to a file, and an end.
-/
namespace JsonShape.Command

/-- How a command ends. -/
inductive Ending where
  /-- Its work is done. -/
  | success
  /-- Its work is done and shows a failure. -/
  | failure
  /-- It could not do its work. -/
  | problem (problem : Problem)

/-- What a command gives. -/
structure Outcome where
  /-- What is logged, in order. -/
  events : List Event
  /-- What is printed. -/
  printed : String
  /-- The path and the content of the file that is to be written. -/
  output : Option (String × String)
  /-- The end, if the file can be written. -/
  ending : Ending

namespace Outcome

/-- A command that could not do its work. -/
def ofProblem (events : List Event) (problem : Problem) : Outcome :=
  ⟨events, "", none, .problem problem⟩

/-- What follows the loading of documents, unless that met a problem. -/
def afterLoading (library : Jq.Library) (settings : InputSettings)
    (sources : Except Problem (List Source)) (next : List Document → Outcome) : Outcome :=
  match sources with
  | .error problem => .ofProblem [] problem
  | .ok sources =>
    let loading := load library settings sources
    match loading.problem with
    | some problem => .ofProblem (loading.events settings) problem
    | none =>
      let outcome := next loading.documents
      { outcome with events := loading.events settings ++ outcome.events }

end Outcome

/-! ## Checking -/

/-- The shape that a file writes. -/
def loadShape (path : String) (text : Except FileFault String) : Except Problem Shape := do
  let text ← text.mapError (.shapeUnread path)
  (Shape.read text).mapError (.shapeInvalid path)

/-- A document with its failures. -/
structure Verdict where
  /-- The name of the document. -/
  source : String
  /-- Its failures. -/
  failures : List Failure

namespace Verdict

/-- The verdict of a shape on a document. -/
def ofDocument (shape : Shape) (document : Document) : Verdict :=
  ⟨document.source, shape.check document.value⟩

/-- Whether the document does not conform. -/
def isFailed (verdict : Verdict) : Bool := !verdict.failures.isEmpty

/-- What is logged of a verdict. -/
def event (verdict : Verdict) : Event :=
  if verdict.isFailed then .differs verdict.source verdict.failures.length
  else .conforms verdict.source

/-- The lines that report a verdict. -/
def lines (rootLabel : String) (verdict : Verdict) : List String :=
  verdict.failures.map (Failure.diagnostic rootLabel)

end Verdict

/-- Report verdicts. -/
def report (settings : CheckSettings) (console : Console.Settings) (verdicts : List Verdict) :
    Outcome :=
  let failed := verdicts.countP Verdict.isFailed
  { events := verdicts.map Verdict.event ++ [.checked verdicts.length failed]
    printed := Console.printed console (verdicts.flatMap (Verdict.lines settings.rootLabel))
    output := none
    ending := if settings.strict ∧ 0 < failed then .failure else .success }

/-- Check the documents of sources against the shape that a text writes. -/
def check (library : Jq.Library) (settings : CheckSettings) (console : Console.Settings)
    (shape : Except FileFault String) (sources : Except Problem (List Source)) : Outcome :=
  match loadShape settings.shape shape with
  | .error problem => .ofProblem [] problem
  | .ok shape =>
    .afterLoading library settings.documents sources fun documents =>
      report settings console (documents.map (Verdict.ofDocument shape))

/-! ## Inferring -/

/-- The documents that are there. -/
def presentValues (documents : List Document) : List Json :=
  documents.filterMap (·.value)

/-- What is logged of absent documents. -/
def skipEvents (documents : List Document) : List Event :=
  (documents.filter (·.value.isNone)).map fun document => .skipped document.source

/-- Print a shape, or have it written to a file. -/
def emit (out : Option String) (events : List Event) (shape : Shape) : Outcome :=
  match out with
  | none => ⟨events, shape.pretty ++ "\n", none, .success⟩
  | some path => ⟨events, "", some (path, shape.pretty), .success⟩

/-- Infer a shape from documents. -/
def inferFrom (settings : InferSettings) (documents : List Document) : Outcome :=
  let inference := Inference.start.observeAll (presentValues documents)
  match inference.shape? with
  | none => .ofProblem (skipEvents documents) .nothingToInfer
  | some shape =>
    emit settings.out (skipEvents documents ++ [.inferred inference.samples.toNat]) shape

/-- Infer a shape from the documents of sources. -/
def infer (library : Jq.Library) (settings : InferSettings)
    (sources : Except Problem (List Source)) : Outcome :=
  .afterLoading library settings.documents sources (inferFrom settings)

/-! ## Running -/

/-- How a task's lines are shown on a console, which may be able to paint. -/
def console (invocation : Invocation) (terminal : Bool) : Console.Settings :=
  ⟨!invocation.plain, terminal && !invocation.plain⟩

/-- What an invocation gives when its files are read. The notation of the shape is read first. -/
def run {m : Type → Type} [Monad m] (library : Jq.Library) (files : FileView m) (terminal : Bool)
    (invocation : Invocation) : m Outcome := do
  match invocation.task with
  | .check settings =>
    let shape ← readText files settings.shape
    let sources ← gather files settings.documents.inputs
    return check library settings (console invocation terminal) shape sources
  | .infer settings =>
    let sources ← gather files settings.documents.inputs
    return infer library settings sources

namespace Outcome

/-- The outcome when the file could not be written. -/
def withoutOutput (outcome : Outcome) (problem : Problem) : Outcome :=
  { outcome with output := none, ending := .problem problem }

/-- The problem that ended a command. -/
def problem? (outcome : Outcome) : Option Problem :=
  match outcome.ending with
  | .problem problem => some problem
  | _ => none

/-- The exit status, zero for success. -/
def status (outcome : Outcome) : Nat :=
  match outcome.ending with
  | .success => 0
  | _ => 1

/-- Everything that is logged, the problem at last. -/
def allEvents (outcome : Outcome) : List Event :=
  outcome.events ++ outcome.problem?.toList.map Event.failed

/-- The lines of a log. -/
def logLines (filter : Log.Filter) (style : Log.Style) (outcome : Outcome) : List String :=
  ((outcome.allEvents.map Event.entry).filter filter.admits).map (Log.Entry.line style)

end Outcome

/-- How a log is written: it tells targets at the highest verbosity. -/
def logStyle (invocation : Invocation) : Log.Style :=
  ⟨!invocation.plain, 1 < invocation.verbosity⟩

end JsonShape.Command
