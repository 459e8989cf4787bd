import JsonShape.Proofs.Checking
import JsonShape.Proofs.Grouping
import JsonShape.Proofs.Writing

/-!
# Inferring from all documents or none

The slots of an inference are those of a check: what the inputs load, in order. Absent slots are
skipped, and the shape is inferred from exactly the values that are left. Its notation is printed
with a line break or is the whole content of the output file. If a single part of the inputs cannot
be loaded, or no value is left, nothing is printed, the command fails and the disk stays as it is.
-/
namespace JsonShape.Command

variable {library : Jq.Library} {files : FileView Id} {documents : InputSettings} {disk : Disk}

/-- The present values of documents are those of their slots. -/
theorem presentValues_eq (loaded : List Document) :
    presentValues loaded = (loaded.map (·.value)).filterMap id := by
  rw [presentValues, List.filterMap_map]
  rfl

/-- Inferring fails silently: nothing is printed, and no file is to be written. -/
structure Outcome.Silent (outcome : Outcome) : Prop where
  /-- Nothing is printed. -/
  printed : outcome.printed = ""
  /-- There is no file to write. -/
  output : outcome.output = none
  /-- The command fails. -/
  fails : outcome.status = 1

/-- An outcome without a file leaves the disk as it is. -/
theorem Outcome.settle_of_no_output {outcome : Outcome} (none : outcome.output = none)
    (disk : Disk) : outcome.settle disk = (outcome, disk) := by
  rw [settle, none]

/-- An outcome whose file can be saved leaves it behind. -/
theorem Outcome.settle_of_save {outcome : Outcome} {path content : String} {after : Disk}
    (output : outcome.output = some (path, content)) (saved : save disk path content = .ok after) :
    outcome.settle disk = (outcome, after) := by
  rw [settle, output]
  simp only [saved]

/-- Inferring from inputs that do not load is silent. -/
theorem infer_unloadable (unloadable : Unloadable library files documents) (out : Option String) :
    (infer library ⟨documents, out⟩ (gather files documents.inputs).run).Silent := by
  rw [infer]
  cases gathered : (gather files documents.inputs).run with
  | error problem => exact ⟨rfl, rfl, rfl⟩
  | ok sources =>
    simp only [Outcome.afterLoading]
    cases loaded : load library documents sources with
    | mk found problem =>
      cases problem with
      | some problem => exact ⟨rfl, rfl, rfl⟩
      | none =>
        have loads := loads_iff.mpr ⟨sources, found, gathered, loaded, rfl⟩
        exact (unloadable.not_loads loads).elim

/-- Inferring from inputs of which every slot is absent is silent. -/
theorem infer_absent {slots : List Slot} (loads : Loads library files documents slots)
    (absent : slots.filterMap id = []) (out : Option String) :
    (infer library ⟨documents, out⟩ (gather files documents.inputs).run).Silent := by
  obtain ⟨sources, found, gathered, loaded, rfl⟩ := loads_iff.mp loads
  have nothing : (Inference.start.observeAll (presentValues found)).shape? = none := by
    rw [presentValues_eq, absent]
    rfl
  rw [infer, gathered]
  simp only [Outcome.afterLoading, loaded, inferFrom, nothing]
  exact ⟨rfl, rfl, rfl⟩

/-- Inferring from inputs that load gives the notation of the shape of what is present. -/
theorem infer_present {slots : List Slot} (loads : Loads library files documents slots)
    {shape : Shape} (inferred : Shape.infer? (slots.filterMap id) = some shape)
    (out : Option String) :
    ∃ events, infer library ⟨documents, out⟩ (gather files documents.inputs).run =
      emit out events shape := by
  obtain ⟨sources, found, gathered, loaded, rfl⟩ := loads_iff.mp loads
  have given : (Inference.start.observeAll (presentValues found)).shape? = some shape := by
    rw [presentValues_eq]
    exact inferred
  rw [infer, gathered]
  simp only [Outcome.afterLoading, loaded, inferFrom, given]
  cases out with
  | none => exact ⟨_, rfl⟩
  | some path => exact ⟨_, rfl⟩

/-- Inferring gives the notation of a shape or nothing. If the inputs need something which is not to
be had, or put forward absent slots only, nothing is printed, the command fails and the disk is left
as it was. Otherwise there are slots that load, and whichever they are, a shape is inferred from
exactly the values among them, in order. Without an output file its notation is printed, followed by
a line break, and the disk is left as it was; with one, if it can be saved, nothing is printed and
the notation is the whole content of the file. -/
theorem infer_gives_all_or_nothing (library : Jq.Library) (files : FileView Id) (disk : Disk)
    (terminal plain : Bool) (verbosity : Nat) (documents : InputSettings) :
    let left (out : Option String) :=
      (run library files terminal ⟨verbosity, plain, .infer ⟨documents, out⟩⟩).run.settle disk
    ((Unloadable library files documents ∨
        ∃ slots, Loads library files documents slots ∧ ∀ slot ∈ slots, slot = none) →
      ∀ out, (left out).1.printed = "" ∧ (left out).1.status = 1 ∧ (left out).2 = disk) ∧
    (¬Unloadable library files documents → ∃ slots, Loads library files documents slots) ∧
    ∀ slots, Loads library files documents slots → (∃ slot ∈ slots, slot ≠ none) →
      ∃ shape, Shape.infer? (slots.filterMap id) = some shape ∧
        ((left none).1.printed = shape.pretty ++ "\n" ∧ (left none).1.status = 0 ∧
          (left none).2 = disk) ∧
        ∀ path after, save disk path shape.pretty = .ok after →
          (left (some path)).1.printed = "" ∧ (left (some path)).1.status = 0 ∧
          (left (some path)).2 = after ∧ after.read path = .ok shape.pretty.toUTF8 := by
  intro left
  have ran (out : Option String) : left out =
      (infer library ⟨documents, out⟩ (gather files documents.inputs).run).settle disk := rfl
  refine ⟨fun failing out => ?_, not_unloadable_iff.mp, fun slots loads some => ?_⟩
  · have silent : (infer library ⟨documents, out⟩ (gather files documents.inputs).run).Silent := by
      rcases failing with unloadable | ⟨slots, loads, absent⟩
      · exact infer_unloadable unloadable out
      · refine infer_absent loads ?_ out
        exact List.filterMap_eq_nil_iff.mpr absent
    rw [ran, Outcome.settle_of_no_output silent.output]
    exact ⟨silent.printed, silent.fails, rfl⟩
  · have present : slots.filterMap id ≠ [] := by
      obtain ⟨slot, among, there⟩ := some
      obtain ⟨value, rfl⟩ := Option.ne_none_iff_exists'.mp there
      exact List.ne_nil_of_mem (List.mem_filterMap.mpr ⟨_, among, rfl⟩)
    obtain ⟨shape, inferred⟩ := Option.ne_none_iff_exists'.mp
      (mt Samples.infer?_eq_none_iff.mp present)
    refine ⟨shape, inferred, ?_, fun path after saved => ?_⟩
    · obtain ⟨events, given⟩ := infer_present loads inferred none
      rw [ran, given, Outcome.settle_of_no_output rfl]
      exact ⟨rfl, rfl, rfl⟩
    · obtain ⟨events, given⟩ := infer_present loads inferred (.some path)
      rw [ran, given, Outcome.settle_of_save rfl saved]
      exact ⟨rfl, rfl, rfl, read_of_save saved⟩

/-- Of two lines on a disk, the pointer selects nothing of the first and the filter takes the second
apart, so the shape is that of a string and null. A missing folder is made for it. An input that is
not on the disk leaves nothing behind. -/
theorem infer_gives_all_or_nothing_lines :
    let text := "null\n\x7b\"v\":[\"x\",null]\x7d"
    let spelled := "[\n  \"string\",\n  null\n]"
    let disk : Disk := ⟨.folder [("d.json", .file text.toUTF8)], []⟩
    let documents (input : String) : InputSettings := ⟨[input], true, some "/v", some ".[]"⟩
    let left (input : String) (out : Option String) :=
      runOn disk false ⟨0, true, .infer ⟨documents input, out⟩⟩
    Unloadable Jq.interpreter disk.view (documents "e.json") ∧
      (left "e.json" (some "out/s.json")).1.printed = "" ∧
      (left "e.json" (some "out/s.json")).1.status = 1 ∧
      (left "e.json" (some "out/s.json")).2 = disk ∧
      Loads Jq.interpreter disk.view (documents "d.json") [none, some (.string "x"), some .null] ∧
      (left "d.json" none).1.printed = spelled ++ "\n" ∧ (left "d.json" none).2 = disk ∧
      ∃ after, save disk "out/s.json" spelled = .ok after ∧
        (left "d.json" (some "out/s.json")).1.printed = "" ∧
        (left "d.json" (some "out/s.json")).2 = after ∧
        after.read "out/s.json" = .ok spelled.toUTF8 := by
  intro text spelled disk documents left
  have unloadable : Unloadable Jq.interpreter disk.view (documents "e.json") := by
    have means : Means disk.view "e.json" ["e.json"] := .path (by decide)
    have leads : LeadsTo disk.view (documents "e.json") "e.json" :=
      ⟨"e.json", List.mem_singleton_self _, _, means, List.mem_singleton_self _⟩
    have names : Files.components "e.json" = ["e.json"] := by decide +kernel
    have astray : disk.place "e.json" = .error .notFound :=
      Disk.place_at_root disk.root (by decide +kernel) names
    have missing : disk.read "e.json" = .error .notFound := by
      rw [Disk.read, Disk.find, astray]
      rfl
    have unread : (readText disk.view "e.json").run = .error .notFound := by
      show fileText (disk.read "e.json") = _
      rw [missing]
      rfl
    exact .inputUnread leads unread
  have loads : Loads Jq.interpreter disk.view (documents "d.json")
      [none, some (.string "x"), some .null] := by
    have parts : documentTexts true "null\n\x7b\"v\":[\"x\",null]\x7d" =
        ["null".toList, "\x7b\"v\":[\"x\",null]\x7d".toList] := by rfl
    have first : Puts Jq.interpreter (documents "d.json") "null".toList [none] := by
      have read : Json.ofText "null".toList = .ok .null := by rfl
      exact .absent read (by rfl)
    have second : Puts Jq.interpreter (documents "d.json") "\x7b\"v\":[\"x\",null]\x7d".toList
        [some (.string "x"), some .null] := by
      let document : Json := .object [("v", .array [.string "x", .null])]
      have distinct : document.Distinct := by
        simp [document, Json.Distinct, Json.DistinctMembers, Json.DistinctItems, Fields.Distinct]
      have scalars : document.EachScalar Scalar.ReadsBack := by
        simp [document, Scalar.ReadsBack]
      have read : Json.ofText "\x7b\"v\":[\"x\",null]\x7d".toList = .ok document :=
        Json.ofText_text Text.Style.blank_compact distinct scalars (by decide)
          (show ([] : List Char).all Text.isBlank from rfl)
      have ran : Jq.interpreter.run ".[]" (.array [.string "x", .null]) =
          .ok [.string "x", .null] := by rfl
      exact .filtered read (by rfl) rfl ran
    have puts : FilePuts Jq.interpreter disk.view (documents "d.json") "d.json"
        [none, some (.string "x"), some .null] := by
      have names : Files.components "d.json" = ["d.json"] := by decide +kernel
      have leads : disk.place "d.json" = .ok ["d.json"] :=
        Disk.place_at_root disk.root (by decide +kernel) names
      have there : disk.read "d.json" = .ok text.toUTF8 := Disk.read_of_place leads rfl
      have read : (readText disk.view "d.json").run = .ok text := by
        show fileText (disk.read "d.json") = _
        rw [there, fileText_toUTF8]
      refine ⟨text, read, ?_⟩
      show InOrder _ (documentTexts true "null\n\x7b\"v\":[\"x\",null]\x7d") _
      rw [parts]
      exact .cons first (.cons second .nil)
    have means : Means disk.view "d.json" ["d.json"] := .path (by decide)
    exact .singleton ⟨_, means, .singleton puts⟩
  obtain ⟨nothing, failed, same⟩ :=
    (infer_gives_all_or_nothing Jq.interpreter disk.view disk false true 0
      (documents "e.json")).1 (.inl unloadable) (some "out/s.json")
  obtain ⟨shape, inferred, printed, saved⟩ :=
    (infer_gives_all_or_nothing Jq.interpreter disk.view disk false true 0
      (documents "d.json")).2.2 _ loads ⟨some .null, by simp, by simp⟩
  obtain rfl : Shape.union [.string, .null] = shape := Option.some.inj inferred
  have written : (Shape.union [.string, .null]).pretty = spelled := by decide
  rw [written] at printed saved
  have possible : (save disk "out/s.json" spelled).toOption.isSome := by decide +kernel
  obtain ⟨after, kept⟩ : ∃ after, save disk "out/s.json" spelled = .ok after := by
    cases result : save disk "out/s.json" spelled with
    | ok after => exact ⟨after, rfl⟩
    | error fault =>
      rw [result] at possible
      cases possible
  obtain ⟨silent, _, leaves, content⟩ := saved "out/s.json" after kept
  exact ⟨unloadable, nothing, failed, same, loads, printed.1, printed.2.2, after, kept, silent,
    leaves, content⟩

end JsonShape.Command
