import JsonShape.Files.Disk
import JsonShape.Fixture
import JsonShape.Proofs.Closing
import JsonShape.Proofs.Inside
import JsonShape.Proofs.Writing

/-!
# What a run of recorded cases says

Every file of the folder gets a verdict of its own, whatever becomes of the others, and the run
succeeds when there is a file and every file's text starts with a case whose lines are those that
are reported. A case is read from the start of a text: that nothing but blanks stands behind it is
not looked at, so a run can succeed over a file whose whole text is no case.
-/
namespace JsonShape.Fixture

/-- The names of the recorded cases' files, none if the folder cannot be read. -/
def recordedNames (files : FileView Id) : List String :=
  ((files.names folder).run.toOption.getD []).filter fun name => name.endsWith ".json"

/-- The text of the file of a name. -/
def recordedText (files : FileView Id) (name : String) : Except FileFault String :=
  fileText (files.read (Files.entry folder name)).run

/-- The verdict on the file of a name. -/
def verdictOn (files : FileView Id) (name : String) : Verdict :=
  .ofFile (Files.entry folder name) (recordedText files name)

/-- The lines that a case records are those that report its value. -/
def Case.Holds (case : Case) : Prop :=
  case.shape.report case.rootLabel case.value = case.expected

/-- A file can be read, and its text starts with a case that holds. -/
def StartsWithCase (files : FileView Id) (name : String) : Prop :=
  ∃ text case, recordedText files name = .ok text ∧ Case.ofText text.toList = .ok case ∧
    case.Holds

/-- Nothing but blanks stands behind the value that a text starts with. -/
def EndsBehindValue (text : List Char) : Prop :=
  (Text.Tree.ofText text).outcome >>= Text.endText = .ok ()

/-- A file can be read, and its whole text is a case that holds. -/
def IsCase (files : FileView Id) (name : String) : Prop :=
  ∃ text case, recordedText files name = .ok text ∧ Case.ofText text.toList = .ok case ∧
    EndsBehindValue text.toList ∧ case.Holds

variable {files : FileView Id}

/-- A file that holds the bytes of a text has that text. -/
theorem recordedText_of_read {name text : String}
    (read : (files.read (Files.entry folder name)).run = .ok text.toUTF8) :
    recordedText files name = .ok text := by
  rw [recordedText, read, fileText_toUTF8]

/-- A run gives one verdict on each file, in the order of their names. -/
theorem run_eq_map (files : FileView Id) :
    (run files).run = (recordedNames files).map (verdictOn files) := by
  have gathered : (gather files).run = (recordedNames files).map fun name =>
      (Files.entry folder name, recordedText files name) := List.idRun_mapM
  show verdicts (gather files).run = _
  rw [gathered, verdicts, List.map_map]
  rfl

/-- A file passes when its text starts with a case that holds. -/
theorem isPassed_verdictOn_iff {name : String} :
    (verdictOn files name).isPassed ↔ StartsWithCase files name := by
  rw [verdictOn, StartsWithCase]
  cases recordedText files name with
  | error fault => simp [Verdict.ofFile, Verdict.isPassed]
  | ok text =>
    rw [Verdict.ofFile]
    cases read : Case.ofText text.toList with
    | error rejection => simp [Verdict.isPassed, read]
    | ok case =>
      simp only [Verdict.ofCase]
      split
      · rename_i holds
        exact ⟨fun _ => ⟨text, case, rfl, read, holds⟩, fun _ => rfl⟩
      · rename_i differs
        refine ⟨fun passed => (Bool.noConfusion passed), ?_⟩
        rintro ⟨other, same, ⟨⟩, also, holds⟩
        cases read.symm.trans also
        exact absurd holds differs

/-- Verdicts are a success when there is one and all passed. -/
theorem succeeds_iff {verdicts : List Verdict} :
    succeeds verdicts ↔ verdicts ≠ [] ∧ ∀ verdict ∈ verdicts, verdict.isPassed := by
  simp [succeeds, failedCount, List.countP_eq_zero]

/-- Something is told of every file. -/
theorem Verdict.texts_ne_nil (painting : Bool) (verdict : Verdict) :
    verdict.texts painting ≠ [] := by
  cases verdict <;> exact List.cons_ne_nil _ _

/-- A run tells of every file and, at last, of all of them, whatever became of each. -/
theorem lt_length_texts (painting : Bool) (verdicts : List Verdict) :
    verdicts.length < (texts painting verdicts).length := by
  rw [texts, List.length_append]
  exact Nat.lt_succ_of_le (length_le_flatMap fun verdict _ => verdict.texts_ne_nil painting)

/-- A file whose whole text is a case that holds is one whose text starts with such a case and ends
behind it. -/
theorem isCase_iff {name : String} : IsCase files name ↔ StartsWithCase files name ∧
    ∀ text, recordedText files name = .ok text → EndsBehindValue text.toList := by
  constructor
  · rintro ⟨text, case, there, read, ends, holds⟩
    refine ⟨⟨text, case, there, read, holds⟩, fun other also => ?_⟩
    obtain rfl := Except.ok.inj (there.symm.trans also)
    exact ends
  · rintro ⟨⟨text, case, there, read, holds⟩, ends⟩
    exact ⟨text, case, there, read, ends text there, holds⟩

/-- A run gives each file a verdict of its own, and counts those that did not pass. It succeeds
exactly if there is a file and every file can be read and starts with a case whose lines are those
that are reported. That every whole text is such a case means, besides, that no text goes on behind
its case, which the run does not look at. -/
theorem run_succeeds_iff (files : FileView Id) :
    let names := recordedNames files
    let verdicts := (run files).run
    verdicts = names.map (verdictOn files) ∧
    (∀ name, (verdictOn files name).isPassed ↔ StartsWithCase files name) ∧
    failedCount verdicts = names.countP (fun name => !(verdictOn files name).isPassed) ∧
    (succeeds verdicts ↔ names ≠ [] ∧ ∀ name ∈ names, StartsWithCase files name) ∧
    ((names ≠ [] ∧ ∀ name ∈ names, IsCase files name) ↔
      succeeds verdicts ∧ ∀ name ∈ names, ∀ text, recordedText files name = .ok text →
        EndsBehindValue text.toList) := by
  intro names verdicts
  have ran : verdicts = names.map (verdictOn files) := run_eq_map files
  have success : succeeds verdicts ↔
      names ≠ [] ∧ ∀ name ∈ names, StartsWithCase files name := by
    rw [succeeds_iff, ran, List.forall_mem_map]
    simp only [isPassed_verdictOn_iff, ne_eq, List.map_eq_nil_iff]
  refine ⟨ran, fun _ => isPassed_verdictOn_iff, ?_, success, ?_⟩
  · rw [ran, failedCount, List.countP_map]
    rfl
  · rw [success]
    simp only [isCase_iff]
    constructor
    · rintro ⟨some, each⟩
      exact ⟨⟨some, fun name among => (each name among).1⟩, fun name among => (each name among).2⟩
    · rintro ⟨⟨some, each⟩, ends⟩
      exact ⟨some, fun name among => ⟨each name among, ends name among⟩⟩

/-- A folder of one file with a text. -/
def oneFile (text : String) : FileView Id :=
  Disk.view ⟨.folder [("fixtures", .folder [("a.json", .file text.toUTF8)])], []⟩

/-- A single recorded file is found under its name. -/
theorem recordedNames_oneFile (text : String) : recordedNames (oneFile text) = ["a.json"] := by
  let disk : Disk := ⟨.folder [("fixtures", .folder [("a.json", .file text.toUTF8)])], []⟩
  have parts : Files.components folder = ["fixtures"] := by decide +kernel
  have leads : disk.place folder = .ok ["fixtures"] :=
    Disk.place_at_root disk.root (by decide +kernel) parts
  have names : (oneFile text).names folder = .ok ["a.json"] :=
    (Disk.names_of_place leads rfl).trans (congrArg _ (List.mergeSort_singleton _))
  have ending : "a.json".endsWith ".json" = true := by decide +kernel
  rw [recordedNames, names]
  exact List.filter_cons_of_pos ending

/-- It is read as the text it was made of. -/
theorem recordedText_oneFile (text : String) :
    recordedText (oneFile text) "a.json" = .ok text := by
  let disk : Disk := ⟨.folder [("fixtures", .folder [("a.json", .file text.toUTF8)])], []⟩
  have path : Files.entry folder "a.json" = "fixtures/a.json" := by decide +kernel
  have parts : Files.components "fixtures/a.json" = ["fixtures", "a.json"] := by decide +kernel
  have leads : disk.place "fixtures/a.json" = .ok ["fixtures", "a.json"] :=
    Disk.place_at_root disk.root (by decide +kernel) parts
  refine recordedText_of_read ?_
  rw [path]
  exact Disk.read_of_place leads rfl

/-- A case that holds, and a letter behind it. -/
def trailedText : String :=
  "\x7b\"name\":\"a\",\"spec\":\"string\",\"value\":\"x\",\"expect\":[]\x7d x"

/-- A run succeeds over a file with a letter behind its case, so success does not mean that every
whole text is a case. -/
theorem run_succeeds_over_trailing :
    let files := oneFile trailedText
    recordedText files "a.json" = .ok trailedText ∧ succeeds (run files).run ∧
      ¬EndsBehindValue trailedText.toList ∧
      ¬(succeeds (run files).run ↔
        recordedNames files ≠ [] ∧ ∀ name ∈ recordedNames files, IsCase files name) := by
  intro files
  have names : recordedNames files = ["a.json"] := recordedNames_oneFile trailedText
  have there : recordedText files "a.json" = .ok trailedText := recordedText_oneFile trailedText
  have goesOn : ¬EndsBehindValue trailedText.toList := by
    have rest : (Text.Tree.ofText trailedText.toList).outcome = .ok [' ', 'x'] := by
      simp only [trailedText, String.reduceToList]
      rfl
    rw [EndsBehindValue, rest]
    rintro ⟨⟩
  have starts : StartsWithCase files "a.json" := by
    have case : Case.ofText trailedText.toList =
        .ok ⟨"a", .string, .string "x", "object", []⟩ := by
      simp only [trailedText, String.reduceToList]
      rfl
    exact ⟨trailedText, _, there, case, by rfl⟩
  have noCase : ¬IsCase files "a.json" :=
    fun whole => goesOn ((isCase_iff.mp whole).2 trailedText there)
  have success : succeeds (run files).run := by
    refine (run_succeeds_iff files).2.2.2.1.mpr ?_
    rw [names]
    exact ⟨List.cons_ne_nil _ _, List.forall_mem_singleton.mpr starts⟩
  refine ⟨there, success, goesOn, fun same => noCase ?_⟩
  rw [names] at same
  exact (same.mp success).2 "a.json" (List.mem_singleton_self _)

end JsonShape.Fixture
