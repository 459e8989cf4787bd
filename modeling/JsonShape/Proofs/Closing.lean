import JsonShape.Command
import JsonShape.Proofs.Inferred
import JsonShape.Proofs.Loading

/-!
# Checking against an inferred shape

A shape is inferred from inputs, the text that the command gives is kept in a file, and the same
inputs are checked against that file. Every document conforms to the inferred shape; what can go
wrong is the way through the text, because a notation is nested deeper than the documents are. It
reads back up to the nesting limit, which documents of 64 levels can pass and shallower ones cannot.
-/
namespace JsonShape.Command

/-- Inputs that give documents, one at least, of which every one is meant as a whole. -/
structure Supplies (library : Jq.Library) (files : FileView Id) (settings : InputSettings)
    (documents : List Document) : Prop where
  /-- Neither a pointer nor a filter is set. -/
  plain : settings.Plain
  /-- There is a document. -/
  nonempty : documents ≠ []
  /-- The inputs mean sources that load without a problem. -/
  loaded : ∃ sources, (gather files settings.inputs).run = .ok sources ∧
    load library settings sources = ⟨documents, none⟩

/-- The text that a command gives, printed or for a file. -/
def Outcome.emitted (outcome : Outcome) : String :=
  match outcome.output with
  | some (_, content) => content
  | none => outcome.printed

/-- A shape is inferred from inputs, and the inputs are checked strictly against a file. -/
structure Round where
  /-- The library that would run a filter. -/
  library : Jq.Library
  /-- The inputs of both commands. -/
  settings : InputSettings
  /-- How much both commands log. -/
  verbosity : Nat
  /-- Whether nothing is painted or marked. -/
  plain : Bool
  /-- Whether the output is a terminal. -/
  terminal : Bool
  /-- The path that the notation is written to, if not to the output. -/
  out : Option String
  /-- The path that the notation is read from. -/
  shape : String
  /-- The label of the root in reports. -/
  rootLabel : String
  /-- The files when the shape is inferred. -/
  before : FileView Id
  /-- The files when the inputs are checked. -/
  after : FileView Id

namespace Round

/-- Inferring from the inputs. -/
def inferring (round : Round) : Invocation :=
  ⟨round.verbosity, round.plain, .infer ⟨round.settings, round.out⟩⟩

/-- Checking the inputs strictly. -/
def checking (round : Round) : Invocation :=
  ⟨round.verbosity, round.plain, .check ⟨round.settings, round.shape, round.rootLabel, true⟩⟩

/-- What inferring gives. -/
def inferred (round : Round) : Outcome :=
  (run round.library round.before round.terminal round.inferring).run

/-- What checking gives. -/
def checked (round : Round) : Outcome :=
  (run round.library round.after round.terminal round.checking).run

/-- The inputs are as they were, and the file of the shape holds what inferring gave. -/
structure Kept (round : Round) : Prop where
  /-- The inputs mean the same sources. -/
  inputs : (gather round.after round.settings.inputs).run =
    (gather round.before round.settings.inputs).run
  /-- The file holds the text. -/
  shape : (round.after.read round.shape).run = .ok round.inferred.emitted.toUTF8

/-- The text reads back as the shape, and checking finds nothing to report. -/
structure Closes (round : Round) (shape : Shape) : Prop where
  /-- Inferring succeeds. -/
  inferred : round.inferred.ending = .success
  /-- The text is the notation of the shape. -/
  reads : Shape.read round.inferred.emitted = .ok shape
  /-- Nothing is printed. -/
  printed : round.checked.printed = ""
  /-- Checking succeeds. -/
  checked : round.checked.ending = .success

/-- The text is refused for its nesting, and so is the file in checking. -/
structure Refused (round : Round) : Prop where
  /-- Inferring succeeds. -/
  inferred : round.inferred.ending = .success
  /-- The text is no notation. -/
  reads : ∃ trail position, Shape.read round.inferred.emitted =
    .error (.invalid trail (.fault .nestingLimit) (some position))
  /-- Nothing is printed. -/
  printed : round.checked.printed = ""
  /-- Checking ends in the same fault. -/
  checked : ∃ trail position, round.checked.ending = .problem
    (.shapeInvalid round.shape (.invalid trail (.fault .nestingLimit) (some position)))

end Round

/-! ## The two commands -/

section Commands

variable {library : Jq.Library} {settings : InputSettings} {documents : List Document}
  {sources : List Source} {shape : Shape}

/-- From documents that have a shape it is inferred with success, and its notation is emitted. -/
theorem infer_emits (loaded : load library settings sources = ⟨documents, none⟩)
    (found : Shape.infer? (presentValues documents) = some shape) (out : Option String) :
    let outcome := infer library ⟨settings, out⟩ (.ok sources)
    outcome.ending = .success ∧
      outcome.emitted = if out.isSome then shape.pretty else shape.pretty ++ "\n" := by
  have lowered : (Inference.start.observeAll (presentValues documents)).shape? = some shape := found
  cases out <;>
    simp [infer, Outcome.afterLoading, loaded, inferFrom, lowered, emit, Outcome.emitted]

/-- Verdicts without failures are reported with success, and nothing is printed. -/
theorem report_conforming {verdicts : List Verdict}
    (each : ∀ verdict ∈ verdicts, verdict.failures = []) (settings : CheckSettings)
    (console : Console.Settings) :
    (report settings console verdicts).printed = "" ∧
      (report settings console verdicts).ending = .success := by
  have none : verdicts.countP Verdict.isFailed = 0 := by
    refine List.countP_eq_zero.mpr fun verdict among => ?_
    simp [Verdict.isFailed, each verdict among]
  have silent : verdicts.flatMap (Verdict.lines settings.rootLabel) = [] := by
    refine List.flatMap_eq_nil_iff.mpr fun verdict among => ?_
    rw [Verdict.lines, each verdict among, List.map_nil]
  rw [report, none, silent]
  exact ⟨rfl, by simp⟩

/-- Documents without failures are checked with success, and nothing is printed. -/
theorem check_conforming (loaded : load library settings sources = ⟨documents, none⟩)
    (valid : ∀ document ∈ documents, shape.check document.value = []) {text : String}
    (read : Shape.read text = .ok shape) (path rootLabel : String) (console : Console.Settings) :
    let outcome := check library ⟨settings, path, rootLabel, true⟩ console (.ok text) (.ok sources)
    outcome.printed = "" ∧ outcome.ending = .success := by
  have known : loadShape path (.ok text) = .ok shape := by
    rw [loadShape]
    show (Shape.read text).mapError _ = _
    rw [read]
    rfl
  have each : ∀ verdict ∈ documents.map (Verdict.ofDocument shape), verdict.failures = [] := by
    intro verdict among
    obtain ⟨document, there, rfl⟩ := List.mem_map.mp among
    exact valid document there
  have reported := report_conforming each ⟨settings, path, rootLabel, true⟩ console
  rw [check, known]
  simpa [Outcome.afterLoading, loaded] using reported

/-- A file that holds no notation ends checking before anything is printed. -/
theorem check_refused {text : String} {error : ShapeError} (read : Shape.read text = .error error)
    (library : Jq.Library) (settings : CheckSettings) (console : Console.Settings)
    (sources : Except Problem (List Source)) :
    let outcome := check library settings console (.ok text) sources
    outcome.printed = "" ∧ outcome.ending = .problem (.shapeInvalid settings.shape error) := by
  have unknown : loadShape settings.shape (.ok text) =
      .error (.shapeInvalid settings.shape error) := by
    rw [loadShape]
    show (Shape.read text).mapError _ = _
    rw [read]
    rfl
  rw [check, unknown]
  exact ⟨rfl, rfl⟩

end Commands

/-! ## Supplied documents -/

namespace Supplies

variable {library : Jq.Library} {files : FileView Id} {settings : InputSettings}
  {documents : List Document}

/-- Every supplied document is present, and no object of it has two members of one name. -/
theorem value_of_mem (supplies : Supplies library files settings documents) {document : Document}
    (there : document ∈ documents) : ∃ value, document.value = some value ∧ value.Distinct := by
  obtain ⟨sources, _, loaded⟩ := supplies.loaded
  obtain ⟨text, value, read, same⟩ := mem_load_plain supplies.plain loaded there
  exact ⟨value, same, Json.distinct_ofText read⟩

/-- Supplied documents hold a value at least. -/
theorem presentValues_ne_nil (supplies : Supplies library files settings documents) :
    presentValues documents ≠ [] := by
  obtain ⟨first, there⟩ := List.exists_mem_of_ne_nil documents supplies.nonempty
  obtain ⟨value, same, _⟩ := supplies.value_of_mem there
  exact List.ne_nil_of_mem (List.mem_filterMap.mpr ⟨first, there, same⟩)

/-- No object of a supplied value has two members of one name. -/
theorem distinct (supplies : Supplies library files settings documents) :
    ∀ value ∈ presentValues documents, value.Distinct := by
  intro value among
  obtain ⟨document, there, same⟩ := List.mem_filterMap.mp among
  obtain ⟨other, also, distinct⟩ := supplies.value_of_mem there
  obtain rfl : value = other := Option.some.inj (same.symm.trans also)
  exact distinct

/-- What every value satisfies, every document satisfies. -/
theorem check_of_validate (supplies : Supplies library files settings documents) {shape : Shape}
    (valid : ∀ value ∈ presentValues documents, shape.validate value = []) :
    ∀ document ∈ documents, shape.check document.value = [] := by
  intro document there
  obtain ⟨value, same, _⟩ := supplies.value_of_mem there
  rw [same]
  exact valid value (List.mem_filterMap.mpr ⟨document, there, same⟩)

end Supplies

/-! ## Rounds -/

namespace Round

variable {round : Round} {documents : List Document} {shape : Shape}

/-- Inferring from supplied documents emits the notation of their shape. -/
theorem inferred_emits (supplies : Supplies round.library round.before round.settings documents)
    (found : Shape.infer? (presentValues documents) = some shape) :
    round.inferred.ending = .success ∧ round.inferred.emitted =
      if round.out.isSome then shape.pretty else shape.pretty ++ "\n" := by
  obtain ⟨sources, gathered, loaded⟩ := supplies.loaded
  have ran : round.inferred = infer round.library ⟨round.settings, round.out⟩ (.ok sources) := by
    rw [← gathered]
    rfl
  rw [ran]
  exact infer_emits loaded found round.out

/-- The emitted text is that of the shape, with blanks behind it. -/
theorem toList_emitted (supplies : Supplies round.library round.before round.settings documents)
    (found : Shape.infer? (presentValues documents) = some shape) :
    ∃ blanks, blanks.all Text.isBlank ∧
      round.inferred.emitted.toList = shape.text .pretty 0 ++ blanks := by
  rw [(inferred_emits supplies found).2]
  cases round.out with
  | none => exact ⟨['\n'], rfl, by simp [Shape.pretty]⟩
  | some path => exact ⟨[], rfl, by simp [Shape.pretty]⟩

/-- Checking reads the text that inferring gave, and the sources that it was inferred from. -/
theorem checked_eq (kept : round.Kept) :
    round.checked = check round.library ⟨round.settings, round.shape, round.rootLabel, true⟩
      (console round.checking round.terminal) (.ok round.inferred.emitted)
      (gather round.before round.settings.inputs).run := by
  have text : (readText round.after round.shape).run = .ok round.inferred.emitted := by
    show fileText (round.after.read round.shape).run = _
    rw [kept.shape, fileText_toUTF8]
  rw [← text, ← kept.inputs]
  rfl

/-- A shape whose notation is nested within the limit is read from the emitted text. -/
theorem read_emitted (supplies : Supplies round.library round.before round.settings documents)
    (found : Shape.infer? (presentValues documents) = some shape)
    (wellFormed : shape.WellFormed) (fits : shape.toJson.depth ≤ Text.nestingLimit) :
    Shape.read round.inferred.emitted = .ok shape := by
  obtain ⟨blanks, all, text⟩ := toList_emitted supplies found
  rw [Shape.read, text]
  exact Shape.ofText_text Text.Style.blank_pretty wellFormed fits all

/-- A shape that is read from the emitted text and accepts the documents closes the round. -/
theorem closes_of_read (supplies : Supplies round.library round.before round.settings documents)
    (kept : round.Kept) (found : Shape.infer? (presentValues documents) = some shape)
    (read : Shape.read round.inferred.emitted = .ok shape)
    (valid : ∀ value ∈ presentValues documents, shape.validate value = []) :
    round.Closes shape := by
  obtain ⟨sources, gathered, loaded⟩ := supplies.loaded
  obtain ⟨printed, ending⟩ := check_conforming loaded (supplies.check_of_validate valid) read
    round.shape round.rootLabel (console round.checking round.terminal)
  rw [← gathered, ← checked_eq kept] at printed ending
  exact ⟨(inferred_emits supplies found).1, read, printed, ending⟩

/-- A shape whose notation is nested past the limit is refused. -/
theorem refused_of_deep (supplies : Supplies round.library round.before round.settings documents)
    (kept : round.Kept) (found : Shape.infer? (presentValues documents) = some shape)
    (wellFormed : shape.WellFormed) (deep : Text.nestingLimit < shape.toJson.depth) :
    round.Refused := by
  obtain ⟨blanks, all, text⟩ := toList_emitted supplies found
  obtain ⟨trail, position, refused⟩ :=
    Shape.ofText_tooDeep Text.Style.blank_pretty wellFormed deep all
  have read : Shape.read round.inferred.emitted =
      .error (.invalid trail (.fault .nestingLimit) (some position)) := by
    rw [Shape.read, text, refused]
  obtain ⟨printed, ending⟩ := check_refused read round.library
    ⟨round.settings, round.shape, round.rootLabel, true⟩ (console round.checking round.terminal)
    (gather round.before round.settings.inputs).run
  rw [← checked_eq kept] at printed ending
  exact ⟨(inferred_emits supplies found).1, ⟨trail, position, read⟩, printed,
    ⟨trail, position, ending⟩⟩

end Round

/-! ## A file of one document -/

/-- Files of texts under their paths, without folders. -/
def filesOfTexts (texts : List (String × String)) : FileView Id where
  read path :=
    match Fields.get? path texts with
    | some text => .ok text.toUTF8
    | none => .error .notFound
  present path := (Fields.get? path texts).isSome
  isFolder _ := false
  names _ := .error .notFound

/-- A kept text is read. -/
theorem readText_filesOfTexts {texts : List (String × String)} {path text : String}
    (kept : Fields.get? path texts = some text) :
    (readText (filesOfTexts texts) path).run = .ok text := by
  have read : (filesOfTexts texts).read path = .ok text.toUTF8 := by
    simp only [filesOfTexts, kept]
  show fileText ((filesOfTexts texts).read path) = .ok text
  rw [read]
  exact fileText_toUTF8 text

/-- The round of a file that holds a document, the notation of a shape being kept beside it. -/
def Round.ofFile (document : Json) (shape : Shape) : Round where
  library := Jq.interpreter
  settings := ⟨["d.json"], false, none, none⟩
  verbosity := 0
  plain := true
  terminal := false
  out := some "s.json"
  shape := "s.json"
  rootLabel := "object"
  before := filesOfTexts [("d.json", document.compact)]
  after := filesOfTexts [("d.json", document.compact), ("s.json", shape.pretty)]

/-- A single path means the file that it leads to. -/
theorem gather_file (texts : List (String × String)) {text : String}
    (found : Fields.get? "d.json" texts = some text) :
    (gather (filesOfTexts texts) ["d.json"]).run = .ok [⟨"d.json", .ok text⟩] := by
  have read : fileText ((filesOfTexts texts).read "d.json") = .ok text :=
    readText_filesOfTexts found
  have literal : Glob.isPattern "d.json" = false := by decide
  have resolved : (resolveInputs (filesOfTexts texts) ["d.json"]).run = .ok ["d.json"] := by
    simp [resolveInputs, resolveInput, literal]
    rfl
  rw [gather, Id.run_bind, resolved]
  show Except.ok [Source.mk "d.json" (fileText ((filesOfTexts texts).read "d.json"))] = _
  rw [read]

namespace Round

variable {document : Json}

/-- The single file supplies its document, when that reads back within the nesting limit. -/
theorem supplies_ofFile (distinct : document.Distinct)
    (scalars : document.EachScalar Scalar.ReadsBack) (fits : document.depth ≤ Text.nestingLimit)
    (shape : Shape) :
    Supplies (ofFile document shape).library (ofFile document shape).before
      (ofFile document shape).settings [⟨"d.json", some document⟩] := by
  have read := Json.ofText_text Text.Style.blank_compact distinct scalars fits
    (show ([] : List Char).all Text.isBlank from rfl)
  rw [List.append_nil] at read
  refine ⟨⟨rfl, rfl⟩, List.cons_ne_nil _ _, _, gather_file _ rfl, ?_⟩
  have one : documentsOfText (ofFile document shape).library (ofFile document shape).settings
      "d.json" 0 (document.text .compact 0) = .ok [⟨"d.json", some document⟩] := by
    rw [documentsOfText, read]
    rfl
  have steps : documentsOfSource (ofFile document shape).library (ofFile document shape).settings
      ⟨"d.json", .ok document.compact⟩ = [.ok [⟨"d.json", some document⟩]] := by
    show [documentsOfText _ _ "d.json" 0 document.compact.toList] = _
    rw [Json.compact, String.toList_ofList, one]
  rw [load, List.flatMap_cons, List.flatMap_nil, List.append_nil, steps]
  rfl

/-- The file beside it holds what inferring the shape prints. -/
theorem kept_ofFile {shape : Shape} (inferred : Shape.infer? [document] = some shape)
    (supplies : Supplies (ofFile document shape).library (ofFile document shape).before
      (ofFile document shape).settings [⟨"d.json", some document⟩]) :
    (ofFile document shape).Kept := by
  have emitted : (ofFile document shape).inferred.emitted = shape.pretty :=
    (inferred_emits supplies inferred).2
  refine ⟨?_, ?_⟩
  · exact (gather_file _ rfl).trans (gather_file _ rfl).symm
  · rw [emitted]
    rfl

end Round

/-! ## Closing -/

/-- Inferring from supplied documents succeeds and emits the notation of a shape. If that is nested
within the limit, as it is when no document is nested deeper than 63 levels, it reads back as the
shape, and a strict check of the documents prints nothing and succeeds as long as they hold fewer
objects than words; otherwise it is refused, and checking ends in that problem. -/
theorem infer_then_check (round : Round) (documents : List Document)
    (supplies : Supplies round.library round.before round.settings documents) (kept : round.Kept) :
    ∃ shape, Shape.infer? (presentValues documents) = some shape ∧
      round.inferred.ending = .success ∧
      (round.inferred.emitted = if round.out.isSome then shape.pretty else shape.pretty ++ "\n") ∧
      (shape.toJson.depth ≤ Text.nestingLimit →
        Shape.read round.inferred.emitted = .ok shape ∧
          (Json.itemsObjectCount (presentValues documents) < 2 ^ 64 → round.Closes shape)) ∧
      (Text.nestingLimit < shape.toJson.depth → round.Refused) ∧
      ((∀ value ∈ presentValues documents, value.depth ≤ 63) →
        shape.toJson.depth ≤ Text.nestingLimit) := by
  obtain ⟨shape, found, wellFormed, nested⟩ :=
    Shape.infer?_spec supplies.presentValues_ne_nil supplies.distinct
  obtain ⟨succeeds, emitted⟩ := Round.inferred_emits supplies found
  refine ⟨shape, found, succeeds, emitted, fun fits => ?_,
    Round.refused_of_deep supplies kept found wellFormed, nested 63⟩
  have read := Round.read_emitted supplies found wellFormed fits
  -- Reading back needs no bound on the counters; that the documents conform does.
  exact ⟨read, fun few => Round.closes_of_read supplies kept found read
    (Shape.infer?_validates found supplies.distinct few)⟩

/-- An object with an array of two kinds of elements closes the round. -/
theorem infer_then_check_object :
    let document : Json := .object [("name", .string "x"), ("tags", .array [.null, .bool true])]
    let shape : Shape := .object [("name", .string), ("tags", .array (.union [.boolean, .null]))]
    let round := Round.ofFile document shape
    Supplies round.library round.before round.settings [⟨"d.json", some document⟩] ∧ round.Kept ∧
      round.Closes shape := by
  intro document shape round
  have distinct : document.Distinct := by
    simp [document, Json.Distinct, Json.DistinctMembers, Json.DistinctItems, Fields.Distinct]
  have scalars : document.EachScalar Scalar.ReadsBack := by
    simp [document, Scalar.ReadsBack]
  have inferred : Shape.infer? [document] = some shape := rfl
  have supplies := Round.supplies_ofFile distinct scalars (by decide) shape
  have kept : round.Kept := Round.kept_ofFile inferred supplies
  obtain ⟨other, found, _, _, fits, _, _⟩ := infer_then_check round _ supplies kept
  obtain rfl : shape = other := Option.some.inj (inferred.symm.trans found)
  exact ⟨supplies, kept, (fits (by decide)).2 (by decide)⟩

/-- Arrays of 64 levels, half of what the reader takes, give a notation of 128: it is refused, and
the round does not close. -/
theorem infer_then_check_nested :
    let round := Round.ofFile (.nestedPairs 63) (.nestedPairs 63)
    let documents : List Document := [⟨"d.json", some (.nestedPairs 63)⟩]
    (Json.nestedPairs 63).depth = 64 ∧
      Supplies round.library round.before round.settings documents ∧ round.Kept ∧ round.Refused ∧
      ¬∃ shape, Shape.infer? (presentValues documents) = some shape ∧ round.Closes shape := by
  intro round documents
  have inferred : Shape.infer? (presentValues documents) = some (.nestedPairs 63) :=
    Shape.infer?_nestedPairs 63
  have depth : (Json.nestedPairs 63).depth = 64 := Json.depth_nestedPairs 63
  have fits : (Json.nestedPairs 63).depth ≤ Text.nestingLimit := by
    rw [depth]
    decide
  have deep : Text.nestingLimit < (Shape.nestedPairs 63).toJson.depth := by
    rw [Shape.depth_nestedPairs]
    decide
  have supplies := Round.supplies_ofFile (Json.distinct_nestedPairs 63)
    (Json.readsBack_nestedPairs 63) fits (.nestedPairs 63)
  have kept : round.Kept := Round.kept_ofFile inferred supplies
  have refused : round.Refused :=
    Round.refused_of_deep supplies kept inferred (Shape.wellFormed_nestedPairs 63) deep
  refine ⟨depth, supplies, kept, refused, ?_⟩
  rintro ⟨shape, _, closes⟩
  obtain ⟨_, _, read⟩ := refused.reads
  cases read.symm.trans closes.reads

end JsonShape.Command
