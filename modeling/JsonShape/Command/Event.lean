import JsonShape.Command.Problem
import JsonShape.Log.Filter
import JsonShape.Text.Shown

/-!
# Events of commands

What a command logs while it works.
-/
namespace JsonShape.Command

/-- What happens in a command. -/
inductive Event where
  /-- The pointer selects nothing of a document. -/
  | nothingSelected (source pointer : String)
  /-- All documents are loaded. -/
  | loaded (documents : Nat)
  /-- A document conforms. -/
  | conforms (source : String)
  /-- A document has mismatches. -/
  | differs (source : String) (mismatches : Nat)
  /-- All documents are checked. -/
  | checked (documents failed : Nat)
  /-- Of a document there is nothing to infer a shape from. -/
  | skipped (source : String)
  /-- A shape is inferred. -/
  | inferred (samples : Nat)
  /-- The command fails. -/
  | failed (problem : Problem)

namespace Event

/-- The target of what happens inside a command. -/
def innerTarget : String := "json_shapecheck::cli"

/-- The log entry of an event. -/
def entry : Event → Log.Entry
  | .nothingSelected source pointer =>
    ⟨.debug, innerTarget, "json pointer selected nothing",
      [("source", source), ("pointer", String.ofList (Text.shown pointer.toList))]⟩
  | .loaded documents =>
    ⟨.debug, innerTarget, "loaded input documents", [("documents", toString documents)]⟩
  | .conforms source => ⟨.debug, innerTarget, "document conforms", [("source", source)]⟩
  | .differs source mismatches =>
    ⟨.info, innerTarget, "document does not conform",
      [("source", source), ("mismatches", toString mismatches)]⟩
  | .checked documents failures =>
    ⟨.info, innerTarget, "check finished",
      [("documents", toString documents), ("failed", toString failures)]⟩
  | .skipped source =>
    ⟨.warn, innerTarget, "skipping document without a selected value", [("source", source)]⟩
  | .inferred samples =>
    ⟨.info, innerTarget, "inferred spec", [("samples", toString samples)]⟩
  | .failed problem => ⟨.error, Log.rootTarget, problem.text, []⟩

end Event

/-- The filter for a verbosity. -/
def defaultFilter (verbosity : Nat) : Log.Filter :=
  match verbosity with
  | 0 => .upTo .info
  | 1 => .upTo .debug
  | _ => .upTo .trace

/-- The filter that a text asks for, if there is one and it is a filter, or else that of the
verbosity. -/
def logFilter (verbosity : Nat) (asked : Option String) : Log.Filter :=
  (asked.bind Log.Filter.ofText?).getD (defaultFilter verbosity)

end JsonShape.Command
