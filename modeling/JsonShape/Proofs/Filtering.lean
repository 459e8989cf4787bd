import JsonShape.Proofs.Checking
import JsonShape.Proofs.Decimals
import JsonShape.Proofs.Framing
import JsonShape.Proofs.Nesting

/-!
# Documents behind a filter

A document goes through a filter as a value, and what comes out is written and read again. A value
is written like a document but for two control characters, which have letters there and
hexadecimal digits here, so whatever was read of a text is read again as itself: its strings and
keys, the order of its members and its nesting, and its numbers as far as their own texts are read
as them. A library that hands documents on then gives them back, and a check of the elements of an
array tells what a check of the same documents, one on a line, tells. The text of a double can be
read as a neighbour of the double, and such a number is changed.
-/
namespace JsonShape

namespace Jq

namespace Value

/-! ## Values as they are written -/

/-- Two control characters that have letters of their own in documents have none in values. -/
theorem escaped_eq (c : Char) :
    escaped c = if c = '\x08' ∨ c = '\x0c' then Text.hexEscape c else Text.escaped c := by
  by_cases backspace : c = '\x08'
  · subst backspace
    rfl
  by_cases formFeed : c = '\x0c'
  · subst formFeed
    rfl
  simp [escaped, Text.escaped, backspace, formFeed]

/-- The spelling of a filter's output is one that is read back. -/
theorem isSpelling_escaped : Text.IsSpelling escaped where
  some c := by
    rw [escaped_eq]
    split
    · simp [Text.hexEscape]
    · exact Text.isSpelling_escaped.some c
  read fuel c text := by
    rw [escaped_eq]
    split
    · rename_i either
      have control : c.toNat < 32 := by rcases either with rfl | rfl <;> decide
      exact Text.readCharacters_hexEscape control fuel text
    · exact Text.isSpelling_escaped.read fuel c text

/-- Numbers are written as in documents, whether or not they fit a signed word. -/
theorem text_ofNumber (value : Number) : (ofNumber value).text = value.text := by
  cases value with
  | integer value lower upper =>
    rw [ofNumber]
    split <;> rfl
  | double value => rfl

/-- A filter prints a value without parts in that spelling. -/
theorem text_ofScalar (value : Scalar) : (ofScalar value).text = value.spelled escaped := by
  cases value with
  | null => rfl
  | bool value => cases value <;> rfl
  | number value => exact text_ofNumber value
  | string value => rfl

/-- The texts of an array are those of its elements. -/
theorem itemTexts_ofItems (items : List Json) :
    itemTexts (ofItems items) = items.map fun item => (ofJson item).text := by
  induction items with
  | nil => rfl
  | cons item rest ih => rw [ofItems, itemTexts, ih, List.map_cons]

/-- The texts of an object are those of its members, each behind its name. -/
theorem fieldTexts_ofMembers (members : List (String × Json)) :
    fieldTexts (ofMembers members) =
      members.map fun member => quoted member.1.toList ++ ':' :: (ofJson member.2).text := by
  induction members with
  | nil => rfl
  | cons member rest ih => rw [ofMembers, fieldTexts, ih, List.map_cons]

/-- What stands between brackets without blanks. -/
theorem bracketed_compact (level : Nat) (opening closing : Char) (items : List (List Char)) :
    Text.bracketed .compact level opening closing items =
      opening :: (Text.separated [] items ++ [closing]) := by
  cases items with
  | nil => rfl
  | cons first others =>
    show opening :: (Text.separated [] (first :: others) ++ [] ++ [closing]) = _
    rw [List.append_nil]

/-- Documents are written as values in the compact style. -/
theorem isWriter_ofJson : Text.IsWriter .compact escaped fun _ value => (ofJson value).text where
  blank := Text.Style.blank_compact
  spells := isSpelling_escaped
  scalar level value := text_ofScalar value
  array level items := by rw [ofJson, text, itemTexts_ofItems, bracketed_compact]
  object level members := by
    rw [ofJson, text, fieldTexts_ofMembers, bracketed_compact]
    simp [quoted, Text.Style.compact]

/-- A document that was written as a value is read again as itself, if the texts of its numbers
are. -/
theorem ofText_ofJson {document : Json} (distinct : document.Distinct)
    (fits : document.depth ≤ Text.nestingLimit) (rereads : document.EachScalar Scalar.Rereads) :
    Json.ofText (ofJson document).text = .ok document :=
  Json.ofText_write isWriter_ofJson distinct fits rereads

end Value

/-! ## Outputs -/

/-- Outputs that are documents are those documents. -/
theorem documents_ofJson {outputs : List Json} (position : Nat)
    (each : ∀ output ∈ outputs, output.Distinct ∧ output.depth ≤ Text.nestingLimit ∧
      output.EachScalar Scalar.Rereads) :
    documents position (outputs.map fun output => .ok (.ofJson output)) = .ok outputs := by
  induction outputs generalizing position with
  | nil => rfl
  | cons output rest ih =>
    obtain ⟨⟨distinct, fits, rereads⟩, others⟩ := List.forall_mem_cons.mp each
    rw [List.map_cons, documents, Value.ofText_ofJson distinct fits rereads,
      ih (position + 1) others]
    rfl

/-- The elements of a document as values are those of its elements. -/
theorem ofItems_eq_map (items : List Json) : Value.ofItems items = items.map .ofJson := by
  induction items with
  | nil => rfl
  | cons item rest ih => rw [Value.ofItems, ih, List.map_cons]

end Jq

namespace Json

variable {text : List Char} {document : Json} {items : List Json}

/-- What is asked of a document that goes through a filter holds of every one that was read, but
for its numbers. -/
theorem bounds_ofText (read : Json.ofText text = .ok document)
    (rereads : document.EachScalar Scalar.Rereads) :
    document.Distinct ∧ document.depth ≤ Text.nestingLimit ∧
      document.EachScalar Scalar.Rereads :=
  ⟨distinct_ofText read, depth_ofText read, rereads⟩

/-- It holds of the elements of an array, too. -/
theorem bounds_of_array (read : Json.ofText text = .ok (.array items))
    (rereads : ∀ item ∈ items, item.EachScalar Scalar.Rereads) :
    ∀ item ∈ items, item.Distinct ∧ item.depth ≤ Text.nestingLimit ∧
      item.EachScalar Scalar.Rereads := by
  intro item there
  have distinct := distinct_array_iff.mp (distinct_ofText read) item there
  have inner : Json.itemsDepth items ≤ Text.nestingLimit := Nat.le_of_succ_le (depth_ofText read)
  exact ⟨distinct, itemsDepth_le_iff.mp inner item there, rereads item there⟩

/-- The number that a document is. -/
def number? : Json → Option Number
  | .number value => some value
  | _ => none

/-- The only element of an array. -/
def onlyElement? : Json → Option Json
  | .array [item] => some item
  | _ => none

/-- A number is the only document that has it as its number. -/
theorem eq_of_number? {document : Json} {value : Number} (here : document.number? = some value) :
    document = .number value := by
  unfold number? at here
  split at here
  · rw [Option.some.inj here]
  · cases here

/-- An array of one element is the only document that has it as its only element. -/
theorem eq_of_onlyElement? {document item : Json} (here : document.onlyElement? = some item) :
    document = .array [item] := by
  unfold onlyElement? at here
  split at here
  · rw [Option.some.inj here]
  · cases here

/-- A text of which a part was read is the text of the only document with that part. -/
theorem ofText_of_part {α : Type} {text : List Char} {part : Json → Option α} {found : α}
    {document : Json} (read : (Json.ofText text).toOption.bind part = some found)
    (only : ∀ other, part other = some found → other = document) :
    Json.ofText text = .ok document := by
  cases outcome : Json.ofText text with
  | error error =>
    rw [outcome] at read
    cases read
  | ok other =>
    rw [outcome] at read
    rw [only other read]

/-- A text of which a number was read is the text of the number. -/
theorem ofText_of_number? {value : Number}
    (found : (Json.ofText text).toOption.bind number? = some value) :
    Json.ofText text = .ok (.number value) :=
  ofText_of_part found fun _ => eq_of_number?

/-- A text of which an array of one number was read is the text of the array. -/
theorem ofText_of_onlyElement? {value : Number}
    (found : ((Json.ofText text).toOption.bind onlyElement?).bind number? = some value) :
    Json.ofText text = .ok (.array [.number value]) := by
  obtain ⟨item, inside, here⟩ := Option.bind_eq_some_iff.mp found
  rw [← eq_of_number? here]
  exact ofText_of_part inside fun _ => eq_of_onlyElement?

end Json

namespace Jq

namespace Library

variable {library : Library}

/-- The filter of a point yields its input. -/
def YieldsInput (library : Library) : Prop :=
  ∃ filter, library.compile "." = .ok filter ∧ ∀ value, filter value = [.ok value]

/-- The filter of all parts yields the elements of an array in their order. -/
def YieldsElements (library : Library) : Prop :=
  ∃ filter, library.compile ".[]" = .ok filter ∧
    ∀ items, filter (.array items) = items.map .ok

/-- What a library that yields its input makes of a document is what the document's text as a value
is read as. -/
theorem YieldsInput.run_eq (yields : library.YieldsInput) (document : Json) :
    library.run "." document = documents 0 [.ok (.ofJson document)] := by
  obtain ⟨filter, compiled, here⟩ := yields
  rw [run, compiled, ← here]
  rfl

/-- What a library that yields elements makes of an array is what the elements are read as. -/
theorem YieldsElements.run_eq (yields : library.YieldsElements) (items : List Json) :
    library.run ".[]" (.array items) =
      documents 0 (items.map fun item => .ok (.ofJson item)) := by
  obtain ⟨filter, compiled, each⟩ := yields
  have parts : filter (.ofJson (.array items)) = items.map fun item => .ok (.ofJson item) := by
    rw [Value.ofJson, each, ofItems_eq_map, List.map_map]
    rfl
  rw [run, compiled, ← parts]
  rfl

/-- A single number comes back exactly if its text is read as the number. -/
theorem YieldsInput.run_number_iff (yields : library.YieldsInput) (value : Number) :
    library.run "." (.number value) = .ok [.number value] ↔ (Scalar.number value).Rereads := by
  have written : (Value.ofJson (.number value)).text = value.text := Value.text_ofNumber value
  rw [yields.run_eq, documents, written, Scalar.Rereads]
  cases Json.ofText value.text with
  | error error => constructor <;> rintro ⟨⟩
  | ok document =>
    constructor
    · rintro ⟨⟩
      rfl
    · rintro ⟨⟩
      rfl

end Library

/-! ## The interpreter -/

/-- The filter of all parts takes an array to its elements. -/
theorem run_each (items : List Value) :
    (Filter.path .identity [.each false]).run [] (.array items) = items.map .ok := by
  have parts : (PathPart.each false).follow (.array items) = items.map .ok := rfl
  calc (Filter.path .identity [.each false]).run [] (.array items)
    _ = PathPart.followAll [.each false] (.array items) := by
      simp [Filter.run, Filter.runParts, Outcomes.andThen, Choice.parts, bind, Except.bind, pure,
        Except.pure]
    _ = items.flatMap fun item => [.ok item] := by
      rw [PathPart.followAll, parts, Outcomes.andThen, List.flatMap_map]
      rfl
    _ = items.map .ok := List.map_eq_flatMap.symm

/-- The interpreter yields the input of the filter that is a point. -/
theorem interpreter_yieldsInput : interpreter.YieldsInput :=
  ⟨_, rfl, fun _ => rfl⟩

/-- The interpreter yields the elements of an array for the filter of all parts. -/
theorem interpreter_yieldsElements : interpreter.YieldsElements :=
  ⟨_, rfl, run_each⟩

end Jq

namespace Command

/-! ## Checks that tell the same -/

/-- Two outcomes that print the same and end in the same way. -/
structure Outcome.Alike (outcome other : Outcome) : Prop where
  /-- The same lines are printed. -/
  printed : outcome.printed = other.printed
  /-- The commands end alike, in the same problem if there is one. -/
  ending : outcome.ending = other.ending

/-- A report depends on the slots of its documents alone. -/
theorem report_alike (settings : CheckSettings) (console : Console.Settings) (shape : Shape)
    {documents others : List Document}
    (same : documents.map (·.value) = others.map (·.value)) :
    (report settings console (documents.map (Verdict.ofDocument shape))).Alike
      (report settings console (others.map (Verdict.ofDocument shape))) := by
  have lines (documents : List Document) :
      (documents.map (Verdict.ofDocument shape)).flatMap (Verdict.lines settings.rootLabel) =
        (documents.map (·.value)).flatMap fun slot =>
          (shape.check slot).map (Failure.diagnostic settings.rootLabel) := by
    rw [List.flatMap_map, List.flatMap_map]
    rfl
  have failed (documents : List Document) :
      (documents.map (Verdict.ofDocument shape)).countP Verdict.isFailed =
        (documents.map (·.value)).countP fun slot => !(shape.check slot).isEmpty := by
    rw [List.countP_map, List.countP_map]
    rfl
  constructor
  · simp only [report, lines, same]
  · simp only [report, failed, same]

variable {library : Jq.Library} {files : FileView Id}

/-- Checks of inputs that load the same slots tell the same, whatever becomes of their shape. -/
theorem check_alike (settings : CheckSettings) (console : Console.Settings)
    {inputs others : InputSettings} {slots : List Slot} (loads : Loads library files inputs slots)
    (also : Loads library files others slots) :
    (check library { settings with documents := inputs } console (readText files settings.shape).run
        (gather files inputs.inputs).run).Alike
      (check library { settings with documents := others } console
        (readText files settings.shape).run (gather files others.inputs).run) := by
  obtain ⟨sources, documents, gathered, loaded, values⟩ := loads_iff.mp loads
  obtain ⟨sources', documents', gathered', loaded', values'⟩ := loads_iff.mp also
  simp only [check, gathered, gathered', Outcome.afterLoading]
  cases loadShape settings.shape (readText files settings.shape).run with
  | error problem => exact ⟨rfl, rfl⟩
  | ok shape =>
    obtain ⟨printed, ending⟩ := report_alike settings console shape (values.trans values'.symm)
    simp only [loaded, loaded']
    exact ⟨printed, ending⟩

/-- A check that is run is the check of the files that it reads. -/
theorem run_check (library : Jq.Library) (files : FileView Id) (terminal plain : Bool)
    (verbosity : Nat) (settings : CheckSettings) :
    (run library files terminal ⟨verbosity, plain, .check settings⟩).run =
      check library settings ⟨!plain, terminal && !plain⟩ (readText files settings.shape).run
        (gather files settings.documents.inputs).run :=
  rfl

/-! ## One document a line, or all in an array -/

/-- A file holds an array of documents. -/
def HoldsArray (files : FileView Id) (path : String) (documents : List Json) : Prop :=
  ∃ text, (readText files path).run = .ok text ∧ Json.ofText text.toList = .ok (.array documents)

/-- A file holds documents, one on each line that is not blank. -/
def HoldsLines (files : FileView Id) (path : String) (documents : List Json) : Prop :=
  ∃ text, (readText files path).run = .ok text ∧
    (documentTexts true text).map Json.ofText = documents.map .ok

/-- Documents that are written compactly, each on a line of its own, are held by lines. -/
theorem holdsLines_of_frames {path : String} {text : List Char} {documents : List Json}
    (read : (readText files path).run = .ok (String.ofList text)) (frames : Frames documents text)
    (bounds : ∀ document ∈ documents, document.Distinct ∧ document.depth ≤ Text.nestingLimit ∧
      document.EachScalar Scalar.Rereads) :
    HoldsLines files path documents :=
  ⟨_, read, ofText_documentTexts_of_frames frames bounds⟩

section Loads

variable {input path : String} {documents : List Json}

/-- What the filter that takes an array apart makes of it is loaded. -/
theorem HoldsArray.loads {outputs : List Json} (holds : HoldsArray files path documents)
    (means : Means files input [path])
    (ran : library.run ".[]" (.array documents) = .ok outputs) :
    Loads library files ⟨[input], false, none, some ".[]"⟩ (outputs.map some) := by
  obtain ⟨text, found, read⟩ := holds
  have puts : Puts library ⟨[input], false, none, some ".[]"⟩ text.toList (outputs.map some) :=
    .filtered read rfl rfl ran
  exact .singleton ⟨_, means, .singleton ⟨text, found, .singleton puts⟩⟩

/-- Documents on lines of their own are loaded line by line. -/
theorem HoldsLines.loads (holds : HoldsLines files path documents)
    (means : Means files input [path]) :
    Loads library files ⟨[input], true, none, none⟩ (documents.map some) := by
  obtain ⟨text, found, read⟩ := holds
  have puts : InOrder (Puts library ⟨[input], true, none, none⟩) (documentTexts true text)
      (documents.map some) := by
    generalize documentTexts true text = parts at read
    induction parts generalizing documents with
    | nil =>
      obtain rfl : documents = [] := List.map_eq_nil_iff.mp read.symm
      exact .nil
    | cons part rest ih =>
      cases documents with
      | nil => cases read
      | cons document others =>
        obtain ⟨here, further⟩ := List.cons.inj read
        exact .cons (.whole here rfl rfl) (ih further)
  exact .singleton ⟨_, means, .singleton ⟨text, found, puts⟩⟩

end Loads

/-- A library that yields its input, and the elements of arrays, hands documents on whose numbers'
texts are read as the numbers. The filter of a point gives every such document that was read of a
text back, and only it; the filter of all parts gives the elements of every such array that was read
of a text, in their order. So an array loads through that filter what its elements load that are
read line by line, and a check of one prints the same and ends in the same way as a check of the
other. -/
theorem filter_carries_documents (library : Jq.Library) (input : library.YieldsInput)
    (elements : library.YieldsElements) :
    (∀ (text : List Char) (document : Json), Json.ofText text = .ok document →
      document.EachScalar Scalar.Rereads → library.run "." document = .ok [document]) ∧
    (∀ (text : List Char) (items : List Json), Json.ofText text = .ok (.array items) →
      (∀ item ∈ items, item.EachScalar Scalar.Rereads) →
      library.run ".[]" (.array items) = .ok items) ∧
    ∀ (files : FileView Id) (terminal plain : Bool) (verbosity : Nat) (settings : CheckSettings)
      (arrayInput arrayPath linesInput linesPath : String) (documents : List Json),
      (∀ document ∈ documents, document.EachScalar Scalar.Rereads) →
      Means files arrayInput [arrayPath] → HoldsArray files arrayPath documents →
      Means files linesInput [linesPath] → HoldsLines files linesPath documents →
      let outcome (inputs : InputSettings) :=
        (run library files terminal
          ⟨verbosity, plain, .check { settings with documents := inputs }⟩).run
      let taken : InputSettings := ⟨[arrayInput], false, none, some ".[]"⟩
      let byLine : InputSettings := ⟨[linesInput], true, none, none⟩
      Loads library files taken (documents.map some) ∧
        Loads library files byLine (documents.map some) ∧
        (outcome taken).Alike (outcome byLine) := by
  have carried (text : List Char) (items : List Json) (read : Json.ofText text = .ok (.array items))
      (rereads : ∀ item ∈ items, item.EachScalar Scalar.Rereads) :
      library.run ".[]" (.array items) = .ok items := by
    rw [elements.run_eq]
    exact Jq.documents_ofJson 0 (Json.bounds_of_array read rereads)
  refine ⟨fun text document read rereads => ?_, carried, ?_⟩
  · rw [input.run_eq]
    exact Jq.documents_ofJson 0 (List.forall_mem_singleton.mpr (Json.bounds_ofText read rereads))
  · intro files terminal plain verbosity settings arrayInput arrayPath linesInput linesPath
      documents rereads meansArray array meansLines lines outcome taken byLine
    have ⟨text, _, read⟩ := array
    have loads : Loads library files taken (documents.map some) :=
      array.loads meansArray (carried _ documents read rereads)
    have also : Loads library files byLine (documents.map some) := lines.loads meansLines
    refine ⟨loads, also, ?_⟩
    simp only [outcome, run_check]
    exact check_alike settings _ loads also

/-- Two documents: one with an integer past the signed range behind a key that comes late in the
alphabet and with control characters, the other with the negative zero. They come out of both
filters of the interpreter as they are, and neither is a string. -/
theorem filter_carries_documents_mixed :
    let large : Number := .integer 18446744073709551615 (by decide) (by decide)
    let zero : Number := .double (.zero true)
    let first : Json := .object [("b\x08", .number large), ("a", .string "\x0c\x01\u00e9")]
    let second : Json := .array [.number zero, .null]
    let whole : Json := .array [first, second]
    let rows : List Char :=
      first.text .compact 0 ++ Text.LineBreak.lineFeed.text ++ second.text .compact 0
    let files := filesOfTexts [("s.json", "\"string\""),
      ("array.json", String.ofList (whole.text .compact 0)), ("rows.json", String.ofList rows)]
    let outcome (inputs : InputSettings) :=
      (run Jq.interpreter files false ⟨0, true, .check ⟨inputs, "s.json", "row", true⟩⟩).run
    let taken : InputSettings := ⟨["array.json"], false, none, some ".[]"⟩
    let byLine : InputSettings := ⟨["rows.json"], true, none, none⟩
    let told :=
      "row is not a string: \x7b\"b\\b\":18446744073709551615,\"a\":\"\\f\\u0001\u00e9\"\x7d\n" ++
        "row is not a string: [-0.0,null]\n"
    Jq.interpreter.YieldsInput ∧ Jq.interpreter.YieldsElements ∧
      String.ofList (whole.text .compact 0) =
        "[\x7b\"b\\b\":18446744073709551615,\"a\":\"\\f\\u0001\u00e9\"\x7d,[-0.0,null]]" ∧
      (Jq.Value.ofJson whole).display =
        "[\x7b\"b\\u0008\":18446744073709551615,\"a\":\"\\u000c\\u0001\u00e9\"\x7d,[-0.0,null]]" ∧
      Json.ofText (whole.text .compact 0) = .ok whole ∧ whole.EachScalar Scalar.Rereads ∧
      Jq.run "." whole = .ok [whole] ∧ Jq.run ".[]" whole = .ok [first, second] ∧
      HoldsArray files "array.json" [first, second] ∧
      HoldsLines files "rows.json" [first, second] ∧
      Loads Jq.interpreter files taken [some first, some second] ∧
      Loads Jq.interpreter files byLine [some first, some second] ∧
      (outcome taken).Alike (outcome byLine) ∧ (outcome byLine).printed = told := by
  intro large zero first second whole rows files outcome taken byLine told
  have distinct : whole.Distinct := by
    simp [whole, first, second, Json.Distinct, Json.DistinctMembers, Json.DistinctItems,
      Fields.Distinct]
  have integer : (Scalar.number large).Rereads := Number.rereads_of_isNear trivial
  have decimal : (Scalar.number zero).Rereads := Number.rereads_of_isNear (by decide)
  have rereads : whole.EachScalar Scalar.Rereads := by
    refine Json.eachScalar_array_iff.mpr (List.forall_mem_cons.mpr ⟨?_, ?_⟩)
    · simpa [first, Scalar.Rereads] using integer
    · simpa [second, Scalar.Rereads] using decimal
  have text : Json.ofText (whole.text .compact 0) = .ok whole :=
    Json.ofText_compact distinct (by decide) rereads
  have array : HoldsArray files "array.json" [first, second] := by
    refine ⟨_, readText_filesOfTexts rfl, ?_⟩
    rw [String.toList_ofList]
    exact text
  have parts := Json.eachScalar_array_iff.mp rereads
  have lines : HoldsLines files "rows.json" [first, second] :=
    holdsLines_of_frames (readText_filesOfTexts rfl)
      (.document first .lineFeed (.last second)) (Json.bounds_of_array text parts)
  have writes : Writes files "s.json" .string := ⟨_, readText_filesOfTexts rfl, by rfl⟩
  have meansArray : Means files "array.json" ["array.json"] := .path (by decide)
  have meansLines : Means files "rows.json" ["rows.json"] := .path (by decide)
  let settings : CheckSettings := ⟨byLine, "s.json", "row", true⟩
  obtain ⟨identity, elements, checks⟩ := filter_carries_documents Jq.interpreter
    Jq.interpreter_yieldsInput Jq.interpreter_yieldsElements
  obtain ⟨loads, also, alike⟩ :=
    checks files false true 0 settings _ _ _ _ _ parts meansArray array meansLines lines
  have ran : outcome byLine = check Jq.interpreter settings ⟨false, false⟩
      (readText files settings.shape).run (gather files settings.documents.inputs).run :=
    run_check Jq.interpreter files false true 0 settings
  have failures : String.join ([some first, some second].flatMap fun slot =>
      (Shape.string.check slot).map fun failure => "row" ++ failure.text ++ "\n") = told := by
    decide +kernel
  refine ⟨Jq.interpreter_yieldsInput, Jq.interpreter_yieldsElements, by decide +kernel,
    by decide +kernel, text, rereads, identity _ _ text rereads, elements _ _ text parts, array,
    lines, loads, also, alike, ?_⟩
  rw [ran]
  exact (check_tells writes also).printed.trans failures

/-- A double that does not come back: the text that it is written with is read as its neighbour. The
filter of a point gives the neighbour, so does the filter of all parts, and of the checks of an
array and of a line that hold the number one prints the neighbour and the other the number. -/
theorem filter_alters_number :
    let number : Number := .double
      ⟨false, 5172527603246449 * Nat.pow 2 1025, by decide +kernel, by decide +kernel⟩
    let neighbour : Number := .double
      ⟨false, 5172527603246450 * Nat.pow 2 1025, by decide +kernel, by decide +kernel⟩
    let files := filesOfTexts [("s.json", "\"string\""),
      ("array.json", "[9.188254785013414]"), ("rows.json", "9.188254785013414")]
    let outcome (inputs : InputSettings) :=
      (run Jq.interpreter files false ⟨0, true, .check ⟨inputs, "s.json", "row", true⟩⟩).run
    let taken : InputSettings := ⟨["array.json"], false, none, some ".[]"⟩
    let byLine : InputSettings := ⟨["rows.json"], true, none, none⟩
    Jq.interpreter.YieldsInput ∧ Jq.interpreter.YieldsElements ∧ number ≠ neighbour ∧
      Json.ofText "9.188254785013414".toList = .ok (.number number) ∧
      Jq.run "." (.number number) = .ok [.number neighbour] ∧
      Json.ofText "[9.188254785013414]".toList = .ok (.array [.number number]) ∧
      Jq.run ".[]" (.array [.number number]) = .ok [.number neighbour] ∧
      HoldsArray files "array.json" [.number number] ∧
      HoldsLines files "rows.json" [.number number] ∧
      (outcome taken).printed = "row is not a string: 9.188254785013417\n" ∧
      (outcome byLine).printed = "row is not a string: 9.188254785013415\n" := by
  intro number neighbour files outcome taken byLine
  have read : Json.ofText "9.188254785013414".toList = .ok (.number number) :=
    Json.ofText_of_number? (by decide +kernel)
  have inside : Json.ofText "[9.188254785013414]".toList = .ok (.array [.number number]) :=
    Json.ofText_of_onlyElement? (by decide +kernel)
  have written : number.text = "9.188254785013415".toList := by decide +kernel
  have reread : Json.ofText number.text = .ok (.number neighbour) := by
    rw [written]
    exact Json.ofText_of_number? (by decide +kernel)
  have strays : Jq.documents 0 [.ok (.ofJson (.number number))] = .ok [.number neighbour] := by
    have text : (Jq.Value.ofJson (.number number)).text = number.text :=
      Jq.Value.text_ofNumber number
    rw [Jq.documents, text, reread]
    rfl
  have identity : Jq.run "." (.number number) = .ok [.number neighbour] :=
    (Jq.interpreter_yieldsInput.run_eq _).trans strays
  have elements : Jq.run ".[]" (.array [.number number]) = .ok [.number neighbour] :=
    (Jq.interpreter_yieldsElements.run_eq _).trans strays
  have array : HoldsArray files "array.json" [.number number] :=
    ⟨_, readText_filesOfTexts rfl, inside⟩
  have lines : HoldsLines files "rows.json" [.number number] := by
    have parts : documentTexts true "9.188254785013414" = ["9.188254785013414".toList] := by rfl
    refine ⟨_, readText_filesOfTexts rfl, ?_⟩
    rw [parts, List.map_singleton, read]
    rfl
  have writes : Writes files "s.json" .string := ⟨_, readText_filesOfTexts rfl, by rfl⟩
  have loads : Loads Jq.interpreter files taken [some (.number neighbour)] :=
    array.loads (.path (by decide)) elements
  have also : Loads Jq.interpreter files byLine [some (.number number)] :=
    lines.loads (.path (by decide))
  refine ⟨Jq.interpreter_yieldsInput, Jq.interpreter_yieldsElements, by decide +kernel, read,
    identity, inside, elements, array, lines, ?_, ?_⟩
  · simp only [outcome, run_check]
    exact (check_tells writes loads).printed.trans (by decide +kernel)
  · simp only [outcome, run_check]
    exact (check_tells writes also).printed.trans (by decide +kernel)

end Command

end JsonShape
