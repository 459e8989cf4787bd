import JsonShape.Report

/-!
# Commands and their settings

Two commands: checking documents against a shape, and inferring a shape from documents.
-/
namespace JsonShape.Command

/-- Where documents come from. -/
structure InputSettings where
  /-- Paths and path patterns. -/
  inputs : List String
  /-- Whether each line is a document. -/
  byLine : Bool
  /-- The pointer to the part of each document that is meant. -/
  pointer : Option String
  /-- The filter that each document passes. -/
  filter : Option String
deriving DecidableEq

/-- How documents are checked. -/
structure CheckSettings where
  /-- The documents. -/
  documents : InputSettings
  /-- The path of the shape's notation. -/
  shape : String
  /-- The label of the root in reports. -/
  rootLabel : String
  /-- Whether a document that does not conform is a failure. -/
  strict : Bool
deriving DecidableEq

/-- How a shape is inferred. -/
structure InferSettings where
  /-- The documents. -/
  documents : InputSettings
  /-- The path of the file that the notation is written to, if not to the output. -/
  out : Option String
deriving DecidableEq

/-- What is to be done. -/
inductive Task where
  /-- Check documents. -/
  | check (settings : CheckSettings)
  /-- Infer a shape. -/
  | infer (settings : InferSettings)
deriving DecidableEq

/-- Where the documents of a task come from. -/
def Task.documents : Task → InputSettings
  | .check settings => settings.documents
  | .infer settings => settings.documents

/-- A task and how it is accompanied. -/
structure Invocation where
  /-- How much is logged: results, steps, details. -/
  verbosity : Nat
  /-- Whether nothing is painted or marked. -/
  plain : Bool
  /-- What is to be done. -/
  task : Task
deriving DecidableEq

end JsonShape.Command
