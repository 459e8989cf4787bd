import JsonShape.Files
import JsonShape.Glob.Expansion
import JsonShape.Jq
import JsonShape.Shape.Notation

/-!
# Problems of commands

Why a command could not do its work. A problem is told as a chain of messages, from what the
command was doing to the cause.
-/
namespace JsonShape.Command

/-- Why a command fails. -/
inductive Problem where
  /-- The file of the shape cannot be read. -/
  | shapeUnread (path : String) (fault : FileFault)
  /-- The file of the shape holds no notation. -/
  | shapeInvalid (path : String) (error : ShapeError)
  /-- An input looks like a pattern and is none. -/
  | patternInvalid (error : Glob.PatternError)
  /-- A folder that a pattern leads to cannot be read. -/
  | searchFailed (failed : Glob.SearchFault)
  /-- A pattern means no path. -/
  | nothingMatched (pattern : String)
  /-- An input cannot be read. -/
  | inputUnread (path : String) (fault : FileFault)
  /-- The text of a document, counted from zero in its file, is no document. -/
  | documentInvalid (path : String) (index : Nat) (error : Text.ReadError)
  /-- The filter gives no documents. -/
  | filterFailed (source : String) (error : Jq.FilterError)
  /-- There is no document to infer a shape from. -/
  | nothingToInfer
  /-- The folder of the output cannot be made. -/
  | folderNotMade (path : String) (fault : FileFault)
  /-- The output cannot be written. -/
  | outputNotWritten (path : String) (fault : FileFault)

namespace Problem

/-- What the command was doing while it resolved its inputs. -/
def resolving : String := "failed to resolve input file paths"

/-- The messages of a problem, the cause last. -/
def messages : Problem → List String
  | .shapeUnread path fault => ["failed to read spec file (" ++ path ++ ")", fault.message]
  | .shapeInvalid path error => ["failed to load spec file (" ++ path ++ ")", error.message]
  | .patternInvalid error => [resolving, error.message]
  | .searchFailed failed => [resolving, failed.message]
  | .nothingMatched pattern => [resolving, "glob pattern matched no files: " ++ pattern]
  | .inputUnread path fault => ["failed to read source file (" ++ path ++ ")", fault.message]
  | .documentInvalid path index error =>
    [s!"failed to parse JSON source file ({path}) document #{index}", error.message]
  | .filterFailed source error =>
    ("failed to apply jq expression to source file (" ++ source ++ ")") :: error.messages
  | .nothingToInfer => ["no documents to infer a spec from"]
  | .folderNotMade path fault => ["failed to create " ++ path, fault.message]
  | .outputNotWritten path fault => ["failed to write " ++ path, fault.message]

/-- The messages of a problem in one line. -/
def text (problem : Problem) : String := ": ".intercalate problem.messages

end Problem

end JsonShape.Command
