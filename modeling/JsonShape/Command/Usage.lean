import JsonShape.Command.Settings

/-!
# Reading the command line

The words of a command line are read in order. Words before the command's name are read with the
options that every command shares, those behind it with the options of the command too. An option
that takes values collects the words behind it that look like no option; a value that is attached
to the option ends the collection. What was collected is judged when the next option or the end
is reached.
-/
namespace JsonShape.Command

/-- Why a command line is no invocation. -/
inductive UsageError where
  /-- Help was asked for. -/
  | help
  /-- There are no words at all. -/
  | nothing
  /-- No command is named. -/
  | missingCommand
  /-- A word in the place of a command names none. -/
  | unknownCommand
  /-- A word is neither an option nor a value of one. -/
  | unknownArgument
  /-- A required option is missing. -/
  | missingArgument
  /-- An option has no value, or an empty one where a path is due. -/
  | invalidValue
  /-- An option that takes no value is given one. -/
  | tooManyValues
  /-- An option that may stand once stands again. -/
  | conflict
deriving DecidableEq

/-- The wording of a usage error. -/
def UsageError.message : UsageError → String
  | .help => "help was asked for"
  | .nothing => "no command is given; try --help"
  | .missingCommand => "no command is given; try --help"
  | .unknownCommand => "unknown command; try --help"
  | .unknownArgument => "unknown argument; try --help"
  | .missingArgument => "a required option is missing; try --help"
  | .invalidValue => "an option needs a value; try --help"
  | .tooManyValues => "an option that takes no value has one; try --help"
  | .conflict => "an option that may stand once stands again; try --help"

/-- An option without value. -/
inductive Flag where
  /-- Log more; may be repeated. -/
  | verbose
  /-- Paint and mark nothing. -/
  | plain
  /-- Show help. -/
  | help
  /-- Each line is a document. -/
  | byLine
  /-- A document that does not conform is a failure. -/
  | strict
deriving DecidableEq

/-- An option with a value. -/
inductive Setting where
  /-- The path of the shape. -/
  | shape
  /-- The inputs; takes many values and may be repeated. -/
  | inputs
  /-- The pointer into documents. -/
  | pointer
  /-- The filter of documents. -/
  | filter
  /-- The label of the root. -/
  | rootLabel
  /-- The path of the output. -/
  | out
deriving DecidableEq

/-- Whether an option takes many values. -/
def Setting.many (setting : Setting) : Bool := setting = .inputs

/-- Whether the value of an option is a path of its own. -/
def Setting.isPath (setting : Setting) : Bool := setting = .shape || setting = .out

/-- What an option is. -/
inductive Switch where
  /-- Without value. -/
  | flag (flag : Flag)
  /-- With a value. -/
  | setting (setting : Setting)
deriving DecidableEq

/-- An option with its long name and, if it has one, its letter. -/
structure Named where
  /-- The name behind two hyphens. -/
  name : String
  /-- The letter behind one hyphen. -/
  letter : Option Char
  /-- The option. -/
  switch : Switch

/-- The options that may be used in a place. -/
abbrev Vocabulary := List Named

namespace Vocabulary

/-- The options of every command. -/
def shared : Vocabulary :=
  [⟨"verbose", some 'v', .flag .verbose⟩, ⟨"no-color", none, .flag .plain⟩,
    ⟨"help", some 'h', .flag .help⟩]

/-- The options for documents. -/
def forDocuments : Vocabulary :=
  [⟨"input", some 'i', .setting .inputs⟩, ⟨"ndjson", none, .flag .byLine⟩,
    ⟨"json-pointer", none, .setting .pointer⟩, ⟨"jq-expr", none, .setting .filter⟩]

/-- The options for checking. -/
def forCheck : Vocabulary :=
  [⟨"spec", some 's', .setting .shape⟩, ⟨"root-label", none, .setting .rootLabel⟩,
    ⟨"strict", none, .flag .strict⟩] ++ forDocuments ++ shared

/-- The options for inferring. -/
def forInfer : Vocabulary :=
  [⟨"out", some 'o', .setting .out⟩] ++ forDocuments ++ shared

/-- The option of a long name. -/
def byName? (vocabulary : Vocabulary) (name : String) : Option Switch :=
  (vocabulary.find? fun named => named.name = name).map (·.switch)

/-- The option of a letter. -/
def byLetter? (vocabulary : Vocabulary) (letter : Char) : Option Switch :=
  (vocabulary.find? fun named => named.letter = some letter).map (·.switch)

end Vocabulary

/-- What the words of one place gave. -/
structure Given where
  /-- The options without value, in order. -/
  flags : List Flag
  /-- The options with their values, in order. -/
  values : List (Setting × List String)

namespace Given

/-- Nothing yet. -/
def nothing : Given := ⟨[], []⟩

/-- The values of an option. -/
def all (given : Given) (setting : Setting) : List String :=
  (given.values.filter fun entry => entry.1 = setting).flatMap (·.2)

/-- The value of an option that may stand once. -/
def value? (given : Given) (setting : Setting) : Option String :=
  (given.all setting).head?

/-- Whether an option without value was given. -/
def has (given : Given) (flag : Flag) : Bool := given.flags.contains flag

/-- An option without value. All but the verbose one may stand once. -/
def withFlag (given : Given) (flag : Flag) : Except UsageError Given :=
  if flag = .help then .error .help
  else if flag ≠ .verbose && given.has flag then .error .conflict
  else .ok { given with flags := given.flags ++ [flag] }

/-- An option with the values that were collected for it. -/
def withValues (given : Given) (setting : Setting) (values : List String) :
    Except UsageError Given :=
  if values.isEmpty then .error .invalidValue
  else if !setting.many && (given.values.any fun entry => entry.1 = setting) then .error .conflict
  else if setting.isPath && values.contains "" then .error .invalidValue
  else .ok { given with values := given.values ++ [(setting, values)] }

end Given

/-- The text that shows how the commands are used. -/
def helpText : String :=
  "\n".intercalate
    ["check JSON documents against a shape, or infer a shape from documents", "",
      "  check -s SPEC -i INPUT...   report every mismatch",
      "  infer -i INPUT... [-o OUT]  write the shape of the documents", "",
      "  -i, --input INPUT...        paths or path patterns",
      "      --ndjson                each line is a document",
      "      --json-pointer POINTER  the part of each document that is meant",
      "      --jq-expr FILTER        a filter that each document passes",
      "  -s, --spec SPEC             the file of the shape",
      "      --root-label LABEL      what each reported path starts with",
      "      --strict                fail when a document does not conform",
      "  -o, --out OUT               the file that the shape is written to",
      "  -v, --verbose               log more; may be repeated",
      "      --no-color              neither colours nor marks",
      "  -h, --help                  show this text"]

/-- What was given, and the option whose values are being collected. -/
structure Progress where
  /-- What is settled. -/
  given : Given
  /-- The option and its values so far. -/
  collecting : Option (Setting × List String)
  /-- Whether the option takes the next word if that looks like no option. -/
  waiting : Bool

namespace Progress

/-- Nothing is being collected. -/
def idle (given : Given) : Progress := ⟨given, none, false⟩

/-- Judge what was collected. -/
def settle (progress : Progress) : Except UsageError Given :=
  match progress.collecting with
  | none => .ok progress.given
  | some (setting, values) => progress.given.withValues setting values

/-- Go on with an option without value. -/
def flag (progress : Progress) (flag : Flag) : Except UsageError Progress := do
  return idle (← (← progress.settle).withFlag flag)

/-- Go on with an option that has a value attached, or whose values follow. -/
def setting (progress : Progress) (setting : Setting) :
    Option String → Except UsageError Progress
  | some value => do return idle (← (← progress.settle).withValues setting [value])
  | none => do return ⟨← progress.settle, some (setting, []), true⟩

/-- Go on with a word that looks like no option. -/
def word (progress : Progress) (word : String) : Except UsageError Progress :=
  match progress.waiting, progress.collecting with
  | true, some (setting, values) =>
    .ok ⟨progress.given, some (setting, values ++ [word]), setting.many⟩
  | _, _ => .error .unknownArgument

/-- Go on with a long name and the value behind its equals sign. -/
def long (vocabulary : Vocabulary) (progress : Progress) (name : String)
    (attached : Option String) : Except UsageError Progress :=
  match vocabulary.byName? name, attached with
  | none, _ => .error .unknownArgument
  | some (.flag _), some _ => .error .tooManyValues
  | some (.flag flag), none => progress.flag flag
  | some (.setting setting), attached => progress.setting setting attached

/-- Go on with letters. Behind the letter of an option with a value, the rest is its value, with or
without an equals sign. -/
def letters (vocabulary : Vocabulary) (progress : Progress) :
    List Char → Except UsageError Progress
  | [] => .ok progress
  | letter :: rest =>
    match vocabulary.byLetter? letter with
    | none => .error .unknownArgument
    | some (.flag flag) => do
      let progress ← progress.flag flag
      letters vocabulary progress rest
    | some (.setting setting) =>
      match rest with
      | [] => progress.setting setting none
      | '=' :: value => progress.setting setting (some (String.ofList value))
      | value => progress.setting setting (some (String.ofList value))

end Progress

/-- What a word looks like. -/
inductive Word where
  /-- The end of the options. -/
  | ending
  /-- A long name with an attached value. -/
  | long (name : String) (attached : Option String)
  /-- Letters. -/
  | letters (letters : List Char)
  /-- No option. -/
  | plain (text : String)

/-- The look of a word. A hyphen alone is no option. -/
def Word.ofText (text : String) : Word :=
  match text.toList with
  | ['-', '-'] => .ending
  | '-' :: '-' :: rest =>
    let name := String.ofList (rest.takeWhile (· ≠ '='))
    match rest.dropWhile (· ≠ '=') with
    | [] => .long name none
    | _ :: value => .long name (some (String.ofList value))
  | '-' :: letter :: rest => .letters (letter :: rest)
  | _ => .plain text

/-- What the words behind a command's name give. -/
def readOptions (vocabulary : Vocabulary) (progress : Progress) :
    List String → Except UsageError Given
  | [] => progress.settle
  | text :: rest =>
    match Word.ofText text with
    | .ending => if rest.isEmpty then progress.settle else .error .unknownArgument
    | .long name attached => do
      readOptions vocabulary (← progress.long vocabulary name attached) rest
    | .letters letters => do
      readOptions vocabulary (← progress.letters vocabulary letters) rest
    | .plain text => do readOptions vocabulary (← progress.word text) rest

/-- A value that must be given. -/
def required {α : Type} : Option α → Except UsageError α
  | some value => .ok value
  | none => .error .missingArgument

/-- The settings for documents. At least one input must be given. -/
def Given.documents (given : Given) : Except UsageError InputSettings :=
  let inputs := given.all .inputs
  if inputs.isEmpty then .error .missingArgument
  else .ok ⟨inputs, given.has .byLine, given.value? .pointer, given.value? .filter⟩

/-- A command. -/
inductive Name where
  /-- Check documents. -/
  | check
  /-- Infer a shape. -/
  | infer
deriving DecidableEq

namespace Name

/-- The options of a command. -/
def vocabulary : Name → Vocabulary
  | .check => .forCheck
  | .infer => .forInfer

/-- The task of a command. -/
def task (given : Given) : Name → Except UsageError Task
  | .check => do
    let documents ← given.documents
    let shape ← required (given.value? .shape)
    let rootLabel := (given.value? .rootLabel).getD defaultRootLabel
    return .check ⟨documents, shape, rootLabel, given.has .strict⟩
  | .infer => do
    let documents ← given.documents
    return .infer ⟨documents, given.value? .out⟩

/-- The command of a name. -/
def ofText? (text : String) : Option Name :=
  if text = "check" then some .check
  else if text = "infer" then some .infer
  else none

end Name

/-- The name of the command that shows help. -/
def helpName : String := "help"

/-- What the words behind the help command ask for: help with at most one command. -/
def readHelp : List String → UsageError
  | [] => .help
  | [name] => if (Name.ofText? name).isSome || name = helpName then .help else .unknownCommand
  | _ => .unknownCommand

/-- How much is logged: a count behind the command's name replaces one before it. -/
def verbosity (before behind : Given) : Nat :=
  let count (given : Given) : Nat := min 255 (given.flags.count .verbose)
  if behind.has .verbose then count behind else count before

/-- The invocation that words before and behind a command's name give. -/
def invocation (before : Given) (name : Name) (words : List String) :
    Except UsageError Invocation := do
  let behind ← readOptions name.vocabulary (.idle .nothing) words
  let task ← name.task behind
  return ⟨verbosity before behind, before.has .plain || behind.has .plain, task⟩

/-- The invocation of the words from the first one that is no option on. -/
def readCommand (before : Given) (text : String) (rest : List String) :
    Except UsageError Invocation :=
  match Name.ofText? text with
  | some name => invocation before name rest
  | none => if text = helpName then .error (readHelp rest) else .error .unknownCommand

/-- Why words without a command are no invocation. -/
def missing (before : Given) : UsageError :=
  if before.flags.isEmpty then .nothing else .missingCommand

/-- The invocation of a command line, of which the words before the command gave something. -/
def readWords (before : Given) : List String → Except UsageError Invocation
  | [] => .error (missing before)
  | text :: rest =>
    match Word.ofText text with
    | .ending =>
      match rest with
      | [] => .error (missing before)
      | next :: _ =>
        if (Name.ofText? next).isSome || next = helpName then .error .unknownArgument
        else .error .unknownCommand
    | .long name attached => do
      let progress ← (Progress.idle before).long .shared name attached
      readWords (← progress.settle) rest
    | .letters letters => do
      let progress ← (Progress.idle before).letters .shared letters
      readWords (← progress.settle) rest
    | .plain text => readCommand before text rest

/-- The invocation of a command line. -/
def Invocation.ofWords (words : List String) : Except UsageError Invocation :=
  readWords .nothing words

end JsonShape.Command
