import JsonShape.Proofs.Closing

/-!
# Checking all documents or none

The documents of a check are said without steps: an input means paths, a path leads to a text, a
text holds documents, and a document puts slots forward, all of them in order. A check that can load
them all prints one line for each failure and nothing else; strictness alone makes failures a
failure of the command. If a single part cannot be loaded, wherever it stands, nothing is printed
and the command fails.
-/
namespace JsonShape.Command

/-! ## Lists gathered in order -/

section InOrder

variable {α β γ : Type}

/-- A list that things give, each a stretch of it, in their order. -/
inductive InOrder (Gives : α → List β → Prop) : List α → List β → Prop where
  /-- Nothing gives nothing. -/
  | nil : InOrder Gives [] []
  /-- The first thing gives the first stretch. -/
  | cons {first : α} {rest : List α} {here further : List β} :
      Gives first here → InOrder Gives rest further →
      InOrder Gives (first :: rest) (here ++ further)

namespace InOrder

variable {Gives : α → List β → Prop} {givers others : List α} {given : List β}

/-- No givers give nothing. -/
theorem nil_iff : InOrder Gives [] given ↔ given = [] := by
  constructor
  · intro none
    cases none
    rfl
  · rintro rfl
    exact .nil

/-- What givers give in order is what the first gives, and then what the others give. -/
theorem cons_iff {first : α} : InOrder Gives (first :: others) given ↔
    ∃ here further, Gives first here ∧ InOrder Gives others further ∧ given = here ++ further := by
  constructor
  · intro both
    cases both with
    | cons gives further => exact ⟨_, _, gives, further, rfl⟩
  · rintro ⟨here, further, gives, rest, rfl⟩
    exact .cons gives rest

/-- A single giver gives what it gives alone. -/
theorem singleton {giver : α} (gives : Gives giver given) : InOrder Gives [giver] given :=
  cons_iff.mpr ⟨given, [], gives, .nil, (List.append_nil given).symm⟩

/-- What two lists of givers give in order splits between them. -/
theorem append_iff : InOrder Gives (givers ++ others) given ↔
    ∃ here further, InOrder Gives givers here ∧ InOrder Gives others further ∧
      given = here ++ further := by
  induction givers generalizing given with
  | nil => simp [nil_iff]
  | cons first rest ih =>
    simp only [List.cons_append, cons_iff, ih]
    constructor
    · rintro ⟨here, _, gives, ⟨more, further, below, behind, rfl⟩, rfl⟩
      exact ⟨_, further, ⟨here, more, gives, below, rfl⟩, behind, (List.append_assoc ..).symm⟩
    · rintro ⟨_, further, ⟨here, more, gives, below, rfl⟩, behind, rfl⟩
      exact ⟨here, _, gives, ⟨more, further, below, behind, rfl⟩, List.append_assoc ..⟩

/-- Things that are themselves given in order give what their givers give. -/
theorem flatMap_iff {f : γ → List α} {sources : List γ} :
    InOrder Gives (sources.flatMap f) given ↔
      InOrder (fun source => InOrder Gives (f source)) sources given := by
  induction sources generalizing given with
  | nil => simp [nil_iff]
  | cons source rest ih => simp only [List.flatMap_cons, append_iff, cons_iff, ih]

/-- Givers made from sources give what the sources give through them. -/
theorem map_iff {f : γ → α} {sources : List γ} :
    InOrder Gives (sources.map f) given ↔
      InOrder (fun source => Gives (f source)) sources given := by
  induction sources generalizing given with
  | nil => simp [nil_iff]
  | cons source rest ih => simp only [List.map_cons, cons_iff, ih]

/-- Givers that give alike give alike in order. -/
theorem congr {Others : α → List β → Prop}
    (same : ∀ giver given, Gives giver given ↔ Others giver given) :
    InOrder Gives givers given ↔ InOrder Others givers given := by
  have equal : Gives = Others := funext₂ fun giver given => propext (same giver given)
  rw [equal]

/-- Giving by way of things in between. -/
theorem through_iff {Leads : γ → List α → Prop} {sources : List γ} :
    InOrder (fun source given => ∃ givers, Leads source givers ∧ InOrder Gives givers given)
        sources given ↔
      ∃ givers, InOrder Leads sources givers ∧ InOrder Gives givers given := by
  induction sources generalizing given with
  | nil => simp [nil_iff]
  | cons source rest ih =>
    simp only [cons_iff, ih]
    constructor
    · rintro ⟨here, further, ⟨first, leads, gives⟩, ⟨more, below, behind⟩, rfl⟩
      exact ⟨first ++ more, ⟨first, more, leads, below, rfl⟩,
        append_iff.mpr ⟨here, further, gives, behind, rfl⟩⟩
    · rintro ⟨_, ⟨first, more, leads, below, rfl⟩, both⟩
      obtain ⟨here, further, gives, behind, rfl⟩ := append_iff.mp both
      exact ⟨here, further, ⟨first, leads, gives⟩, ⟨more, below, behind⟩, rfl⟩

/-- Things give a list when each of them gives one. -/
theorem exists_iff : (∃ given, InOrder Gives givers given) ↔
    ∀ giver ∈ givers, ∃ here, Gives giver here := by
  induction givers with
  | nil => simp [nil_iff]
  | cons first rest ih =>
    rw [List.forall_mem_cons, ← ih]
    constructor
    · rintro ⟨_, both⟩
      obtain ⟨here, further, gives, behind, rfl⟩ := cons_iff.mp both
      exact ⟨⟨here, gives⟩, further, behind⟩
    · rintro ⟨⟨here, gives⟩, further, behind⟩
      exact ⟨_, .cons gives behind⟩

end InOrder

end InOrder

/-! ## What is to be loaded -/

/-- The paths that an input means: the input itself or, if it is a pattern, those that exist and
match, of which there is one at least. -/
inductive Means (files : FileView Id) (input : String) : List String → Prop where
  /-- A path. -/
  | path : Glob.isPattern input = false → Means files input [input]
  /-- A pattern. -/
  | pattern {pattern : Glob.Pattern} {paths : List String} : Glob.isPattern input = true →
      Glob.Pattern.ofText input.toList = .ok pattern →
      (pattern.expand files).run.run = .ok paths → paths ≠ [] → Means files input paths

/-- The slots that the text of a document puts forward. The filter is run where the pointer selects
something, and nowhere else. -/
inductive Puts (library : Jq.Library) (settings : InputSettings) (text : List Char) :
    List Slot → Prop where
  /-- The pointer selects nothing: an absent document. -/
  | absent {document : Json} : Json.ofText text = .ok document →
      select settings document = none → Puts library settings text [none]
  /-- There is no filter: what is selected. -/
  | whole {document value : Json} : Json.ofText text = .ok document →
      select settings document = some value → settings.filter = none →
      Puts library settings text [some value]
  /-- There is a filter: its outputs. -/
  | filtered {document value : Json} {filter : String} {outputs : List Json} :
      Json.ofText text = .ok document → select settings document = some value →
      settings.filter = some filter → library.run filter value = .ok outputs →
      Puts library settings text (outputs.map some)

/-- The slots of a file: it can be read, and its documents put them forward. -/
def FilePuts (library : Jq.Library) (files : FileView Id) (settings : InputSettings)
    (path : String) (slots : List Slot) : Prop :=
  ∃ text, (readText files path).run = .ok text ∧
    InOrder (Puts library settings) (documentTexts settings.byLine text) slots

/-- The slots of inputs, in the order of the inputs, of their paths and of the documents. -/
def Loads (library : Jq.Library) (files : FileView Id) (settings : InputSettings)
    (slots : List Slot) : Prop :=
  InOrder (fun input slots => ∃ paths, Means files input paths ∧
    InOrder (FilePuts library files settings) paths slots) settings.inputs slots

/-- The file of a path can be read and writes a shape. -/
def Writes (files : FileView Id) (path : String) (shape : Shape) : Prop :=
  ∃ text, (readText files path).run = .ok text ∧ Shape.read text = .ok shape

/-- The inputs mean a path. -/
def LeadsTo (files : FileView Id) (settings : InputSettings) (path : String) : Prop :=
  ∃ input ∈ settings.inputs, ∃ paths, Means files input paths ∧ path ∈ paths

/-- A file that the inputs mean holds the text of a document. -/
def Holds (files : FileView Id) (settings : InputSettings) (part : List Char) : Prop :=
  ∃ path text, LeadsTo files settings path ∧ (readText files path).run = .ok text ∧
    part ∈ documentTexts settings.byLine text

/-- Something that the inputs need is not to be had. -/
inductive Unloadable (library : Jq.Library) (files : FileView Id) (settings : InputSettings) :
    Prop where
  /-- An input is to be a pattern and is none. -/
  | patternInvalid {input : String} {error : Glob.PatternError} : input ∈ settings.inputs →
      Glob.isPattern input = true → Glob.Pattern.ofText input.toList = .error error →
      Unloadable library files settings
  /-- A folder that a pattern leads to cannot be read. -/
  | searchFailed {input : String} {pattern : Glob.Pattern} {failed : Glob.SearchFault} :
      input ∈ settings.inputs → Glob.isPattern input = true →
      Glob.Pattern.ofText input.toList = .ok pattern →
      (pattern.expand files).run.run = .error failed → Unloadable library files settings
  /-- A pattern matches nothing. -/
  | nothingMatched {input : String} {pattern : Glob.Pattern} : input ∈ settings.inputs →
      Glob.isPattern input = true → Glob.Pattern.ofText input.toList = .ok pattern →
      (pattern.expand files).run.run = .ok [] → Unloadable library files settings
  /-- A file of the inputs cannot be read. -/
  | inputUnread {path : String} {fault : FileFault} : LeadsTo files settings path →
      (readText files path).run = .error fault → Unloadable library files settings
  /-- The text of a document is none. -/
  | documentInvalid {part : List Char} {error : Text.ReadError} : Holds files settings part →
      Json.ofText part = .error error → Unloadable library files settings
  /-- The filter fails on what is selected of a document. -/
  | filterFailed {part : List Char} {document value : Json} {filter : String}
      {error : Jq.FilterError} : Holds files settings part → Json.ofText part = .ok document →
      select settings document = some value → settings.filter = some filter →
      library.run filter value = .error error → Unloadable library files settings

/-- Something that a check needs is not to be had. -/
inductive Obstructed (library : Jq.Library) (files : FileView Id) (settings : CheckSettings) :
    Prop where
  /-- The file of the shape cannot be read. -/
  | shapeUnread {fault : FileFault} : (readText files settings.shape).run = .error fault →
      Obstructed library files settings
  /-- The file of the shape writes none. -/
  | shapeInvalid {text : String} {error : ShapeError} :
      (readText files settings.shape).run = .ok text → Shape.read text = .error error →
      Obstructed library files settings
  /-- The inputs need something that is not to be had. -/
  | unloadable : Unloadable library files settings.documents → Obstructed library files settings

/-! ## What is loaded -/

variable {library : Jq.Library} {files : FileView Id} {settings : InputSettings}

section Resolving

variable {input : String} {paths : List String}

/-- A path means itself. -/
theorem means_iff_of_path (asked : Glob.isPattern input = false) :
    Means files input paths ↔ paths = [input] := by
  constructor
  · intro means
    cases means with
    | path => rfl
    | pattern isPattern => cases asked.symm.trans isPattern
  · rintro rfl
    exact .path asked

/-- A pattern means what the search for it finds, which must be something. -/
theorem means_iff_of_pattern (asked : Glob.isPattern input = true) :
    Means files input paths ↔ ∃ pattern, Glob.Pattern.ofText input.toList = .ok pattern ∧
      (pattern.expand files).run.run = .ok paths ∧ paths ≠ [] := by
  constructor
  · intro means
    cases means with
    | path isPath => cases asked.symm.trans isPath
    | pattern _ valid found nonempty => exact ⟨_, valid, found, nonempty⟩
  · rintro ⟨pattern, valid, found, nonempty⟩
    exact .pattern asked valid found nonempty

/-- A pattern is resolved by reading it and searching for it. -/
theorem resolveInput_of_pattern (asked : Glob.isPattern input = true) :
    (resolveInput files input).run = (do
      let pattern ← (Glob.Pattern.ofText input.toList).mapError .patternInvalid
      let paths ← (pattern.expand files).run.run.mapError .searchFailed
      if paths.isEmpty then .error (.nothingMatched input) else .ok paths) := by
  cases read : Glob.Pattern.ofText input.toList with
  | error error =>
    have refused : (resolveInput files input).run = .error (.patternInvalid error) := by
      simp [resolveInput, asked, read]
    exact refused
  | ok pattern =>
    cases searched : (pattern.expand files).run.run with
    | error failed =>
      have refused : (resolveInput files input).run = .error (.searchFailed failed) := by
        simp [resolveInput, asked, read, searched]
      simpa [searched, Except.mapError, bind, Except.bind] using refused
    | ok found =>
      have resolved : (resolveInput files input).run =
          if found.isEmpty then .error (.nothingMatched input) else .ok found := by
        simp [resolveInput, asked, read, searched]
      simpa [searched, Except.mapError, bind, Except.bind] using resolved

/-- An input is resolved to the paths that it means. -/
theorem resolveInput_eq_ok_iff :
    (resolveInput files input).run = .ok paths ↔ Means files input paths := by
  cases asked : Glob.isPattern input with
  | false =>
    have resolved : (resolveInput files input).run = .ok [input] := by
      simp [resolveInput, asked]
    rw [resolved, means_iff_of_path asked, Except.ok.injEq, eq_comm]
  | true =>
    have some (found : List String) :
        (if found.isEmpty then .error (.nothingMatched input) else .ok found :
          Except Problem (List String)) = .ok paths ↔ found = paths ∧ paths ≠ [] := by
      by_cases none : found = []
      · subst none
        simp +contextual [eq_comm]
      · have there : found.isEmpty = false := List.isEmpty_eq_false_iff.mpr none
        simp only [there, Bool.false_eq_true, if_false, Except.ok.injEq]
        exact ⟨fun same => ⟨same, same ▸ none⟩, fun both => both.1⟩
    rw [resolveInput_of_pattern asked, means_iff_of_pattern asked]
    simp only [bind_eq_ok, mapError_eq_ok, some]
    refine exists_congr fun pattern => and_congr_right fun _ => ?_
    constructor
    · rintro ⟨found, searched, rfl, nonempty⟩
      exact ⟨searched, nonempty⟩
    · rintro ⟨searched, nonempty⟩
      exact ⟨paths, searched, rfl, nonempty⟩

end Resolving

/-- Inputs are resolved to the paths that they mean, in order. -/
theorem resolveInputs_eq_ok_iff {inputs paths : List String} :
    (resolveInputs files inputs).run = .ok paths ↔ InOrder (Means files) inputs paths := by
  induction inputs generalizing paths with
  | nil =>
    rw [InOrder.nil_iff]
    constructor
    · rintro ⟨⟩
      rfl
    · rintro rfl
      rfl
  | cons input rest ih =>
    simp only [InOrder.cons_iff, ← ih, ← resolveInput_eq_ok_iff]
    have stepwise : (resolveInputs files (input :: rest)).run =
        (resolveInput files input).run >>= fun here =>
          (resolveInputs files rest).run.map (here ++ ·) := by
      rw [resolveInputs, Id.run_bind]
      cases (resolveInput files input).run <;> rfl
    rw [stepwise, bind_eq_ok]
    refine exists_congr fun here => ?_
    cases (resolveInputs files rest).run with
    | error problem => simp [Except.map]
    | ok further => simp [Except.map, eq_comm]

/-- The sources of inputs are what reading the paths that they mean gives. -/
theorem gather_eq_ok_iff {inputs : List String} {sources : List Source} :
    (gather files inputs).run = .ok sources ↔ ∃ paths, InOrder (Means files) inputs paths ∧
      sources = paths.map fun path => ⟨path, (readText files path).run⟩ := by
  have read (paths : List String) : (readSources files paths).run =
      paths.map fun path => ⟨path, (readText files path).run⟩ :=
    List.idRun_mapM
  have gathered : (gather files inputs).run =
      (resolveInputs files inputs).run.map fun paths =>
        paths.map fun path => ⟨path, (readText files path).run⟩ := by
    rw [gather, Id.run_bind]
    cases (resolveInputs files inputs).run with
    | error problem => rfl
    | ok paths => exact congrArg Except.ok (read paths)
  simp only [gathered, ← resolveInputs_eq_ok_iff]
  cases (resolveInputs files inputs).run with
  | error problem => simp [Except.map]
  | ok paths => simp [Except.map, eq_comm]

/-- A step of a loading gives the slots of its documents. -/
def StepPuts (step : Except Problem (List Document)) (slots : List Slot) : Prop :=
  ∃ documents, step = .ok documents ∧ documents.map (·.value) = slots

/-- The documents that a filter's outputs make hold the outputs. -/
theorem map_value_filtered (source : String) (outputs : List Json) :
    (outputs.zipIdx.map fun (output, index) =>
      Document.mk s!"{source}#{index}" (some output)).map (·.value) = outputs.map some := by
  calc (outputs.zipIdx.map fun (output, index) =>
      Document.mk s!"{source}#{index}" (some output)).map (·.value)
    _ = outputs.zipIdx.map (some ∘ Prod.fst) := by rw [List.map_map]; rfl
    _ = (outputs.zipIdx.map Prod.fst).map some := (List.map_map ..).symm
    _ = outputs.map some := by rw [List.zipIdx_map_fst]

/-- A selected value is put forward itself or, if there is a filter, as its outputs. -/
theorem filtered_iff {source : String} {value : Json} {slots : List Slot} :
    StepPuts (filtered library settings source value) slots ↔
      (settings.filter = none ∧ slots = [some value]) ∨
        ∃ filter outputs, settings.filter = some filter ∧ library.run filter value = .ok outputs ∧
          slots = outputs.map some := by
  rw [filtered]
  cases asked : settings.filter with
  | none => simp [StepPuts, eq_comm]
  | some filter =>
    constructor
    · rintro ⟨documents, given, rfl⟩
      obtain ⟨outputs, ran, made⟩ := bind_eq_ok.mp given
      obtain rfl := Except.ok.inj made
      exact .inr ⟨filter, outputs, rfl, mapError_eq_ok.mp ran, map_value_filtered source outputs⟩
    · rintro (⟨unasked, _⟩ | ⟨_, outputs, same, ran, rfl⟩)
      · cases unasked
      · obtain rfl := Option.some.inj same
        exact ⟨_, bind_eq_ok.mpr ⟨outputs, mapError_eq_ok.mpr ran, rfl⟩,
          map_value_filtered source outputs⟩

/-- Nothing that is selected makes an absent document. -/
theorem documentsOfText_absent {path : String} {index : Nat} {text : List Char} {document : Json}
    (read : Json.ofText text = .ok document) (selected : select settings document = none) :
    documentsOfText library settings path index text =
      .ok [⟨documentName settings path index, none⟩] := by
  rw [documentsOfText, read]
  simp only [Except.mapError, bind, Except.bind, selected]
  rfl

/-- Something that is selected goes to the filter. -/
theorem documentsOfText_present {path : String} {index : Nat} {text : List Char}
    {document value : Json} (read : Json.ofText text = .ok document)
    (selected : select settings document = some value) :
    documentsOfText library settings path index text =
      filtered library settings (documentName settings path index) value := by
  rw [documentsOfText, read]
  simp only [Except.mapError, bind, Except.bind, selected]

/-- Loading a document gives the slots that its text puts forward. -/
theorem documentsOfText_iff {path : String} {index : Nat} {text : List Char} {slots : List Slot} :
    StepPuts (documentsOfText library settings path index text) slots ↔
      Puts library settings text slots := by
  constructor
  · intro given
    have ⟨documents, same, _⟩ := given
    rw [documentsOfText] at same
    obtain ⟨document, read, _⟩ := bind_eq_ok.mp same
    have read := mapError_eq_ok.mp read
    cases selected : select settings document with
    | none =>
      rw [documentsOfText_absent read selected] at given
      obtain ⟨_, ⟨⟩, rfl⟩ := given
      exact .absent read selected
    | some value =>
      rw [documentsOfText_present read selected] at given
      rcases filtered_iff.mp given with ⟨unasked, rfl⟩ | ⟨filter, outputs, asked, ran, rfl⟩
      · exact .whole read selected unasked
      · exact .filtered read selected asked ran
  · intro puts
    cases puts with
    | absent read selected => exact ⟨_, documentsOfText_absent read selected, rfl⟩
    | whole read selected unasked =>
      rw [documentsOfText_present read selected]
      exact filtered_iff.mpr (.inl ⟨unasked, rfl⟩)
    | filtered read selected asked ran =>
      rw [documentsOfText_present read selected]
      exact filtered_iff.mpr (.inr ⟨_, _, asked, ran, rfl⟩)

/-- A loading without a problem has the slots that its steps give in order. -/
theorem ofSteps_iff {steps : List (Except Problem (List Document))} {slots : List Slot} :
    (∃ documents, Loading.ofSteps steps = ⟨documents, none⟩ ∧ documents.map (·.value) = slots) ↔
      InOrder StepPuts steps slots := by
  induction steps generalizing slots with
  | nil => simp [Loading.ofSteps, InOrder.nil_iff, eq_comm]
  | cons step rest ih =>
    simp only [InOrder.cons_iff, ← ih]
    cases step with
    | error problem => simp [Loading.ofSteps, StepPuts]
    | ok here =>
      rw [Loading.ofSteps]
      constructor
      · rintro ⟨documents, whole, rfl⟩
        obtain ⟨rfl, none⟩ := Loading.mk.inj whole
        exact ⟨_, _, ⟨here, rfl, rfl⟩, ⟨_, congrArg (Loading.mk _) none, rfl⟩, List.map_append⟩
      · rintro ⟨_, _, ⟨_, same, rfl⟩, ⟨further, loaded, rfl⟩, rfl⟩
        obtain rfl := Except.ok.inj same
        exact ⟨here ++ further, by rw [loaded], List.map_append⟩

/-- The steps of a source give the slots of its file. -/
theorem documentsOfSource_iff {path : String} {slots : List Slot} :
    InOrder StepPuts (documentsOfSource library settings ⟨path, (readText files path).run⟩) slots ↔
      FilePuts library files settings path slots := by
  rw [documentsOfSource, FilePuts]
  cases (readText files path).run with
  | error fault => simp [InOrder.cons_iff, StepPuts]
  | ok text =>
    let parts := documentTexts settings.byLine text
    calc InOrder StepPuts
          (parts.zipIdx.map fun part => documentsOfText library settings path part.2 part.1) slots
      _ ↔ InOrder (fun part : List Char × Nat => Puts library settings part.1) parts.zipIdx slots :=
        InOrder.map_iff.trans (InOrder.congr fun _ _ => documentsOfText_iff)
      _ ↔ InOrder (Puts library settings) (parts.zipIdx.map Prod.fst) slots := InOrder.map_iff.symm
      _ ↔ InOrder (Puts library settings) parts slots := by rw [List.zipIdx_map_fst]
      _ ↔ ∃ other, Except.ok text = .ok other ∧
          InOrder (Puts library settings) (documentTexts settings.byLine other) slots := by
        simp [parts]

/-- The inputs load when they are gathered without a problem and their sources are loaded without
one, and the slots are those of the documents. -/
theorem loads_iff {slots : List Slot} : Loads library files settings slots ↔
    ∃ sources documents, (gather files settings.inputs).run = .ok sources ∧
      load library settings sources = ⟨documents, none⟩ ∧ documents.map (·.value) = slots := by
  have sourced (paths : List String) : InOrder (FilePuts library files settings) paths slots ↔
      ∃ documents, load library settings (paths.map fun path => ⟨path, (readText files path).run⟩) =
        ⟨documents, none⟩ ∧ documents.map (·.value) = slots := by
    rw [load, ofSteps_iff, InOrder.flatMap_iff, InOrder.map_iff,
      InOrder.congr fun _ _ => documentsOfSource_iff]
  rw [Loads, InOrder.through_iff]
  simp only [gather_eq_ok_iff, sourced]
  constructor
  · rintro ⟨paths, means, documents, loaded, values⟩
    exact ⟨_, documents, ⟨paths, means, rfl⟩, loaded, values⟩
  · rintro ⟨_, documents, ⟨paths, means, rfl⟩, loaded, values⟩
    exact ⟨paths, means, documents, loaded, values⟩

/-! ## What loaded inputs have -/

/-- An input means one list of paths. -/
theorem Means.unique {input : String} {paths others : List String}
    (means : Means files input paths) (also : Means files input others) : paths = others :=
  Except.ok.inj ((resolveInput_eq_ok_iff.mpr means).symm.trans (resolveInput_eq_ok_iff.mpr also))

/-- Inputs load when each means paths of files that can be read and whose documents put slots
forward. -/
theorem exists_loads_iff : (∃ slots, Loads library files settings slots) ↔
    ∀ input ∈ settings.inputs, ∃ paths, Means files input paths ∧ ∀ path ∈ paths,
      ∃ text, (readText files path).run = .ok text ∧
        ∀ part ∈ documentTexts settings.byLine text, ∃ slots, Puts library settings part slots := by
  simp only [Loads, InOrder.exists_iff]
  refine forall₂_congr fun input _ => ?_
  rw [exists_comm]
  refine exists_congr fun paths => ?_
  rw [exists_and_left, InOrder.exists_iff]
  refine and_congr_right fun _ => forall₂_congr fun path _ => ?_
  unfold FilePuts
  rw [exists_comm]
  refine exists_congr fun text => ?_
  rw [exists_and_left, InOrder.exists_iff]

namespace Loads

variable {slots : List Slot}

/-- A pattern among loaded inputs can be read, and the search for it finds something. -/
theorem exists_pattern (loads : Loads library files settings slots) {input : String}
    (among : input ∈ settings.inputs) (asked : Glob.isPattern input = true) :
    ∃ pattern, Glob.Pattern.ofText input.toList = .ok pattern ∧
      ∃ paths, (pattern.expand files).run.run = .ok paths ∧ paths ≠ [] := by
  obtain ⟨paths, means, _⟩ := exists_loads_iff.mp ⟨slots, loads⟩ input among
  obtain ⟨pattern, valid, found, nonempty⟩ := (means_iff_of_pattern asked).mp means
  exact ⟨pattern, valid, paths, found, nonempty⟩

/-- A path that loaded inputs mean is that of a file whose documents put slots forward. -/
theorem exists_text (loads : Loads library files settings slots) {path : String}
    (leads : LeadsTo files settings path) : ∃ text, (readText files path).run = .ok text ∧
      ∀ part ∈ documentTexts settings.byLine text, ∃ slots, Puts library settings part slots := by
  obtain ⟨input, among, paths, means, there⟩ := leads
  obtain ⟨others, also, each⟩ := exists_loads_iff.mp ⟨slots, loads⟩ input among
  exact each path (means.unique also ▸ there)

/-- A document of loaded inputs puts slots forward. -/
theorem exists_puts (loads : Loads library files settings slots) {part : List Char}
    (holds : Holds files settings part) : ∃ slots, Puts library settings part slots := by
  obtain ⟨path, text, leads, read, inside⟩ := holds
  obtain ⟨other, also, each⟩ := loads.exists_text leads
  obtain rfl := Except.ok.inj (read.symm.trans also)
  exact each part inside

end Loads

/-! ## What is not to be had -/

/-- Inputs that need something which is not to be had do not load. -/
theorem Unloadable.not_loads (unloadable : Unloadable library files settings) {slots : List Slot}
    (loads : Loads library files settings slots) : False := by
  cases unloadable with
  | patternInvalid among asked invalid =>
    obtain ⟨pattern, valid, _⟩ := loads.exists_pattern among asked
    cases invalid.symm.trans valid
  | searchFailed among asked parsed failed =>
    obtain ⟨pattern, valid, paths, found, _⟩ := loads.exists_pattern among asked
    obtain rfl := Except.ok.inj (parsed.symm.trans valid)
    cases failed.symm.trans found
  | nothingMatched among asked parsed none =>
    obtain ⟨pattern, valid, paths, found, nonempty⟩ := loads.exists_pattern among asked
    obtain rfl := Except.ok.inj (parsed.symm.trans valid)
    exact nonempty (Except.ok.inj (found.symm.trans none))
  | inputUnread leads unread =>
    obtain ⟨_, read, _⟩ := loads.exists_text leads
    cases unread.symm.trans read
  | documentInvalid holds invalid =>
    obtain ⟨_, puts⟩ := loads.exists_puts holds
    cases puts with
    | absent valid | whole valid | filtered valid => cases invalid.symm.trans valid
  | filterFailed holds read selected asked failed =>
    obtain ⟨_, puts⟩ := loads.exists_puts holds
    cases puts with
    | absent also nothing =>
      obtain rfl := Except.ok.inj (read.symm.trans also)
      cases selected.symm.trans nothing
    | whole _ _ unasked => cases asked.symm.trans unasked
    | filtered also something alsoAsked ran =>
      obtain rfl := Except.ok.inj (read.symm.trans also)
      obtain rfl := Option.some.inj (selected.symm.trans something)
      obtain rfl := Option.some.inj (asked.symm.trans alsoAsked)
      cases failed.symm.trans ran

/-- Where all that the inputs need is to be had, every input means paths. -/
theorem exists_means (free : ¬Unloadable library files settings) {input : String}
    (among : input ∈ settings.inputs) : ∃ paths, Means files input paths := by
  cases asked : Glob.isPattern input with
  | false => exact ⟨_, .path asked⟩
  | true =>
    cases read : Glob.Pattern.ofText input.toList with
    | error error => exact absurd (.patternInvalid among asked read) free
    | ok pattern =>
      cases searched : (pattern.expand files).run.run with
      | error failed => exact absurd (.searchFailed among asked read searched) free
      | ok paths =>
        refine ⟨paths, .pattern asked read searched ?_⟩
        rintro rfl
        exact free (.nothingMatched among asked read searched)

/-- Where all that the inputs need is to be had, every document puts slots forward. -/
theorem exists_puts (free : ¬Unloadable library files settings) {part : List Char}
    (holds : Holds files settings part) : ∃ slots, Puts library settings part slots := by
  cases read : Json.ofText part with
  | error error => exact absurd (.documentInvalid holds read) free
  | ok document =>
    cases selected : select settings document with
    | none => exact ⟨_, .absent read selected⟩
    | some value =>
      cases asked : settings.filter with
      | none => exact ⟨_, .whole read selected asked⟩
      | some filter =>
        cases ran : library.run filter value with
        | error error => exact absurd (.filterFailed holds read selected asked ran) free
        | ok outputs => exact ⟨_, .filtered read selected asked ran⟩

/-- Inputs load exactly where all that they need is to be had. -/
theorem not_unloadable_iff :
    ¬Unloadable library files settings ↔ ∃ slots, Loads library files settings slots := by
  constructor
  · intro free
    refine exists_loads_iff.mpr fun input among => ?_
    obtain ⟨paths, means⟩ := exists_means free among
    refine ⟨paths, means, fun path there => ?_⟩
    have leads : LeadsTo files settings path := ⟨input, among, paths, means, there⟩
    cases read : (readText files path).run with
    | error fault => exact absurd (.inputUnread leads read) free
    | ok text =>
      exact ⟨text, rfl, fun part inside => exists_puts free ⟨path, text, leads, read, inside⟩⟩
  · rintro ⟨slots, loads⟩ unloadable
    exact unloadable.not_loads loads

section Obstructed

variable {settings : CheckSettings}

/-- A check is obstructed when its file writes no shape or its inputs need something which is not
to be had. -/
theorem obstructed_iff : Obstructed library files settings ↔
    (¬∃ shape, Writes files settings.shape shape) ∨
      Unloadable library files settings.documents := by
  constructor
  · intro obstructed
    cases obstructed with
    | shapeUnread unread =>
      refine .inl ?_
      rintro ⟨shape, text, read, _⟩
      cases read.symm.trans unread
    | shapeInvalid also invalid =>
      refine .inl ?_
      rintro ⟨shape, text, read, valid⟩
      obtain rfl := Except.ok.inj (read.symm.trans also)
      cases valid.symm.trans invalid
    | unloadable unloadable => exact .inr unloadable
  · rintro (none | unloadable)
    · cases read : (readText files settings.shape).run with
      | error fault => exact .shapeUnread read
      | ok text =>
        cases valid : Shape.read text with
        | error error => exact .shapeInvalid read valid
        | ok shape => exact absurd ⟨shape, text, read, valid⟩ none
    · exact .unloadable unloadable

/-- What obstructs a check leaves it without a shape or without slots. -/
theorem Obstructed.not_loads (obstructed : Obstructed library files settings) {shape : Shape}
    {slots : List Slot} (writes : Writes files settings.shape shape)
    (loads : Loads library files settings.documents slots) : False := by
  rcases obstructed_iff.mp obstructed with none | unloadable
  · exact none ⟨shape, writes⟩
  · exact unloadable.not_loads loads

/-- A check that nothing obstructs has a shape. -/
theorem exists_writes (free : ¬Obstructed library files settings) :
    ∃ shape, Writes files settings.shape shape :=
  not_not.mp fun none => free (obstructed_iff.mpr (.inl none))

/-- Inputs load where nothing obstructs a check. -/
theorem exists_loads (free : ¬Obstructed library files settings) :
    ∃ slots, Loads library files settings.documents slots :=
  not_unloadable_iff.mp fun unloadable => free (obstructed_iff.mpr (.inr unloadable))

end Obstructed

/-! ## What is printed -/

section Printing

variable {settings : CheckSettings} {shape : Shape}

/-- The shape of a check is the one that its file writes. -/
theorem loadShape_eq_ok_iff {path : String} :
    loadShape path (readText files path).run = .ok shape ↔ Writes files path shape := by
  simp only [loadShape, bind_eq_ok, mapError_eq_ok, Writes]

/-- An outcome that tells all failures of slots and nothing else. -/
structure Outcome.Tells (outcome : Outcome) (settings : CheckSettings) (shape : Shape)
    (slots : List Slot) : Prop where
  /-- The failures are printed in the order of the slots, each behind the label of the root and on
  a line of its own. -/
  printed : outcome.printed = String.join (slots.flatMap fun slot =>
    (shape.check slot).map fun failure => settings.rootLabel ++ failure.text ++ "\n")
  /-- The command succeeds or fails. -/
  ends : outcome.status = 0 ∨ outcome.status = 1
  /-- It fails exactly if it is strict and a slot has a failure. -/
  fails_iff : outcome.status = 1 ↔ settings.strict ∧ ∃ slot ∈ slots, shape.check slot ≠ []

/-- A plain report tells the failures of its documents. -/
theorem report_tells (documents : List Document) :
    (report settings ⟨false, false⟩ (documents.map (Verdict.ofDocument shape))).Tells settings shape
      (documents.map (·.value)) := by
  have failed : 0 < (documents.map (Verdict.ofDocument shape)).countP Verdict.isFailed ↔
      ∃ slot ∈ documents.map (·.value), shape.check slot ≠ [] := by
    simp [List.countP_pos_iff, Verdict.isFailed, Verdict.ofDocument]
  constructor
  · simp only [report, Console.printed, List.flatMap_map, List.map_flatMap, Verdict.lines,
      List.map_map]
    rfl
  · simp only [report, Outcome.status]
    split
    · exact .inl rfl
    · exact .inr rfl
  · rw [← failed]
    simp only [report, Outcome.status]
    split <;> simp_all

/-- An obstructed check prints nothing and fails. -/
theorem check_obstructed (obstructed : Obstructed library files settings)
    (console : Console.Settings) :
    let outcome := check library settings console (readText files settings.shape).run
      (gather files settings.documents.inputs).run
    outcome.printed = "" ∧ outcome.status = 1 := by
  rw [check]
  cases known : loadShape settings.shape (readText files settings.shape).run with
  | error problem => exact ⟨rfl, rfl⟩
  | ok shape =>
    cases gathered : (gather files settings.documents.inputs).run with
    | error problem => exact ⟨rfl, rfl⟩
    | ok sources =>
      simp only [Outcome.afterLoading]
      cases loaded : load library settings.documents sources with
      | mk documents problem =>
        cases problem with
        | some problem => exact ⟨rfl, rfl⟩
        | none =>
          have loads := loads_iff.mpr ⟨sources, documents, gathered, loaded, rfl⟩
          exact (obstructed.not_loads (loadShape_eq_ok_iff.mp known) loads).elim

/-- A plain check that loads a shape and slots tells their failures. -/
theorem check_tells {slots : List Slot} (writes : Writes files settings.shape shape)
    (loads : Loads library files settings.documents slots) :
    (check library settings ⟨false, false⟩ (readText files settings.shape).run
      (gather files settings.documents.inputs).run).Tells settings shape slots := by
  obtain ⟨sources, documents, gathered, loaded, rfl⟩ := loads_iff.mp loads
  rw [check, loadShape_eq_ok_iff.mpr writes, gathered]
  simp only [Outcome.afterLoading, loaded]
  -- Loading adds events only, and no part of what is told speaks of them.
  obtain ⟨printed, ends, fails_iff⟩ := report_tells documents
  exact ⟨printed, ends, fails_iff⟩

end Printing

/-- A check on a plain console prints all or nothing. If anything obstructs it, nothing is printed
and the command fails. Otherwise there are a shape and slots that load, and whichever they are,
their failures are printed and nothing else, and the command fails exactly if it is strict and there
is a failure. -/
theorem check_prints_all_or_nothing (library : Jq.Library) (files : FileView Id) (terminal : Bool)
    (verbosity : Nat) (settings : CheckSettings) :
    let outcome := (run library files terminal ⟨verbosity, true, .check settings⟩).run
    (Obstructed library files settings → outcome.printed = "" ∧ outcome.status = 1) ∧
      (¬Obstructed library files settings → ∃ shape slots, Writes files settings.shape shape ∧
        Loads library files settings.documents slots) ∧
      ∀ shape slots, Writes files settings.shape shape →
        Loads library files settings.documents slots → outcome.Tells settings shape slots := by
  intro outcome
  have ran : outcome = check library settings ⟨false, terminal && false⟩
      (readText files settings.shape).run (gather files settings.documents.inputs).run := rfl
  rw [Bool.and_false] at ran
  refine ⟨fun obstructed => ?_, fun free => ?_, fun shape slots writes loads => ?_⟩
  · rw [ran]
    exact check_obstructed obstructed ⟨false, false⟩
  · obtain ⟨shape, writes⟩ := exists_writes free
    obtain ⟨slots, loads⟩ := exists_loads free
    exact ⟨shape, slots, writes, loads⟩
  · rw [ran]
    exact check_tells writes loads

/-- Of two lines, the pointer selects nothing of the first and the filter takes the second apart:
two of three slots fail, and without strictness the command succeeds. The same first line is not
printed where the second one is no document. -/
theorem check_prints_all_or_nothing_lines :
    let files := filesOfTexts [("s.json", "\"string\""), ("bad.json", "null\n["),
      ("good.json", "null\n\n\x7b\"id\":[\"x\",true]\x7d")]
    let settings (input : String) : CheckSettings :=
      ⟨⟨[input], true, some "/id", some ".[]"⟩, "s.json", "row", false⟩
    let outcome (input : String) :=
      (run Jq.interpreter files false ⟨0, true, .check (settings input)⟩).run
    Obstructed Jq.interpreter files (settings "bad.json") ∧
      (outcome "bad.json").printed = "" ∧ (outcome "bad.json").status = 1 ∧
      Writes files "s.json" .string ∧
      Loads Jq.interpreter files (settings "good.json").documents
        [none, some (.string "x"), some (.bool true)] ∧
      (outcome "good.json").printed =
        "row is not a string: undefined\nrow is not a string: true\n" ∧
      (outcome "good.json").status = 0 := by
  intro files settings outcome
  have obstructed : Obstructed Jq.interpreter files (settings "bad.json") := by
    have means : Means files "bad.json" ["bad.json"] := .path (by decide)
    have leads : LeadsTo files (settings "bad.json").documents "bad.json" :=
      ⟨"bad.json", List.mem_singleton_self _, _, means, List.mem_singleton_self _⟩
    have parts : documentTexts true "null\n[" = ["null".toList, "[".toList] := by rfl
    have holds : Holds files (settings "bad.json").documents "[".toList :=
      ⟨_, _, leads, readText_filesOfTexts rfl,
        parts ▸ List.mem_cons_of_mem _ (List.mem_singleton_self _)⟩
    obtain ⟨error, invalid⟩ : ∃ error, Json.ofText "[".toList = .error error := ⟨_, by rfl⟩
    exact .unloadable (.documentInvalid holds invalid)
  have writes : Writes files "s.json" .string := ⟨_, readText_filesOfTexts rfl, by rfl⟩
  have loads : Loads Jq.interpreter files (settings "good.json").documents
      [none, some (.string "x"), some (.bool true)] := by
    have parts : documentTexts true "null\n\n\x7b\"id\":[\"x\",true]\x7d" =
        ["null".toList, "\x7b\"id\":[\"x\",true]\x7d".toList] := by rfl
    have first : Puts Jq.interpreter (settings "good.json").documents "null".toList [none] := by
      have read : Json.ofText "null".toList = .ok .null := by rfl
      exact .absent read (by rfl)
    have second : Puts Jq.interpreter (settings "good.json").documents
        "\x7b\"id\":[\"x\",true]\x7d".toList [some (.string "x"), some (.bool true)] := by
      let document : Json := .object [("id", .array [.string "x", .bool true])]
      have distinct : document.Distinct := by
        simp [document, Json.Distinct, Json.DistinctMembers, Json.DistinctItems, Fields.Distinct]
      have scalars : document.EachScalar Scalar.ReadsBack := by
        simp [document, Scalar.ReadsBack]
      have read : Json.ofText "\x7b\"id\":[\"x\",true]\x7d".toList = .ok document :=
        Json.ofText_text Text.Style.blank_compact distinct scalars (by decide)
          (show ([] : List Char).all Text.isBlank from rfl)
      have ran : Jq.interpreter.run ".[]" (.array [.string "x", .bool true]) =
          .ok [.string "x", .bool true] := by rfl
      exact .filtered read (by rfl) rfl ran
    have puts : FilePuts Jq.interpreter files (settings "good.json").documents "good.json"
        [none, some (.string "x"), some (.bool true)] := by
      refine ⟨_, readText_filesOfTexts rfl, ?_⟩
      show InOrder _ (documentTexts true "null\n\n\x7b\"id\":[\"x\",true]\x7d") _
      rw [parts]
      exact .cons first (.cons second .nil)
    have means : Means files "good.json" ["good.json"] := .path (by decide)
    exact .singleton ⟨_, means, .singleton puts⟩
  obtain ⟨nothing, failed⟩ :=
    (check_prints_all_or_nothing Jq.interpreter files false 0 (settings "bad.json")).1 obstructed
  have told :=
    (check_prints_all_or_nothing Jq.interpreter files false 0 (settings "good.json")).2.2 _ _
      writes loads
  refine ⟨obstructed, nothing, failed, writes, loads, told.printed.trans (by rfl), ?_⟩
  exact told.ends.resolve_right fun one => Bool.noConfusion (told.fails_iff.mp one).1

end JsonShape.Command
