import JsonShape.Command.Documents
import JsonShape.Proofs.Decimals

/-!
# Documents line by line

Documents are written compactly, each on a line of its own, with blank lines before, between and
behind them. A compact text has no control character, so it does not break into lines, and it has a
visible character, so its line is not blank. The lines of such a text that are not blank are
therefore those of its documents, and each is read as its document.
-/
namespace JsonShape

/-! ## Lines -/

namespace Text

/-- How a line ends. -/
inductive LineBreak where
  /-- With a line feed. -/
  | lineFeed
  /-- With a carriage return and a line feed. -/
  | returnLineFeed

/-- The text of a line break. -/
def LineBreak.text : LineBreak → List Char
  | .lineFeed => ['\n']
  | .returnLineFeed => ['\r', '\n']

/-- A line without separators is its only part. -/
theorem parts_of_not_mem {separator : Char} {line : List Char} (unbroken : separator ∉ line) :
    parts separator line = [line] := by
  induction line with
  | nil => rfl
  | cons c line ih =>
    rw [List.mem_cons, not_or] at unbroken
    rw [parts, if_neg (Ne.symm unbroken.1), ih unbroken.2]

/-- What stands in front of the first separator is the first part. -/
theorem parts_append {separator : Char} {line : List Char} (unbroken : separator ∉ line)
    (rest : List Char) :
    parts separator (line ++ separator :: rest) = line :: parts separator rest := by
  induction line with
  | nil => exact if_pos rfl
  | cons c line ih =>
    rw [List.mem_cons, not_or] at unbroken
    rw [List.cons_append, parts, if_neg (Ne.symm unbroken.1), ih unbroken.2]

/-- A text without line feeds is one line, or none if it is empty. -/
theorem lines_of_not_mem {line : List Char} (unbroken : '\n' ∉ line) :
    lines line = if line.isEmpty then [] else [line] := by
  rw [lines, parts_of_not_mem unbroken, linesOfParts]

/-- What stands in front of the first line feed is the first line, but for a carriage return. -/
theorem lines_append {line : List Char} (unbroken : '\n' ∉ line) (rest : List Char) :
    lines (line ++ '\n' :: rest) = withoutReturn line :: lines rest := by
  rw [lines, lines, parts_append unbroken]
  cases found : parts '\n' rest with
  | nil => exact absurd found (parts_ne_nil '\n' rest)
  | cons part others => rfl

/-- A carriage return at the end of a line is dropped. -/
theorem withoutReturn_append_return (line : List Char) : withoutReturn (line ++ ['\r']) = line := by
  simp [withoutReturn]

/-- A line without carriage returns stays as it is. -/
theorem withoutReturn_of_not_mem {line : List Char} (other : '\r' ∉ line) :
    withoutReturn line = line :=
  if_neg fun last => other (List.mem_of_getLast? last)

/-- What stands in front of the first line break is the first line. Of its own characters, the line
break may take a carriage return at the end. -/
theorem lines_break {line : List Char} (unbroken : '\n' ∉ line) (ending : LineBreak)
    (rest : List Char) : ∃ kept, (kept = line ∨ kept = withoutReturn line) ∧
      lines (line ++ ending.text ++ rest) = kept :: lines rest := by
  cases ending with
  | lineFeed =>
    refine ⟨withoutReturn line, .inr rfl, ?_⟩
    rw [LineBreak.text, List.append_assoc]
    exact lines_append unbroken rest
  | returnLineFeed =>
    refine ⟨line, .inl rfl, ?_⟩
    have still : '\n' ∉ line ++ ['\r'] := by simp [unbroken]
    have first := lines_append still rest
    rw [withoutReturn_append_return, List.append_assoc] at first
    rw [LineBreak.text, List.append_assoc]
    exact first

end Text

/-! ## Compact texts -/

/-- A character that is no control character of ASCII. -/
def IsPrinted (c : Char) : Prop :=
  32 ≤ c.toNat

instance (c : Char) : Decidable (IsPrinted c) :=
  inferInstanceAs (Decidable (_ ≤ _))

/-- Visible characters are no control characters. -/
theorem IsVisible.isPrinted {c : Char} (visible : IsVisible c) : IsPrinted c :=
  Nat.le_trans (by decide) visible.1

namespace Text

/-- An escape in hexadecimal digits has no control characters. -/
theorem isPrinted_hexEscape (c : Char) : ∀ letter ∈ hexEscape c, IsPrinted letter := by
  have digits : ∀ value < 16, IsPrinted (hexDigit value) := by decide
  simp only [hexEscape, List.forall_mem_cons]
  exact ⟨by decide, by decide, by decide, by decide, digits _ (Nat.mod_lt _ (by decide)),
    digits _ (Nat.mod_lt _ (by decide)), fun _ none => by cases none⟩

/-- Control characters are escaped. -/
theorem isPrinted_escaped (c : Char) : ∀ letter ∈ escaped c, IsPrinted letter := by
  unfold escaped
  split_ifs with _ _ _ _ _ _ _ control
  iterate 7 · exact forall_mem_of_all (by decide)
  · exact isPrinted_hexEscape c
  · rw [List.forall_mem_singleton]
    exact Nat.le_of_not_lt control

/-- A quoted string has none, as it escapes those of the string. -/
theorem isPrinted_quoted (text : List Char) : ∀ c ∈ quoted text, IsPrinted c := by
  rw [quoted, List.forall_mem_cons, List.forall_mem_append, List.forall_mem_flatMap]
  exact ⟨by decide, fun c _ => isPrinted_escaped c, forall_mem_of_all (by decide)⟩

/-- Items without control characters have none when they are set apart by commas. -/
theorem isPrinted_separated {items : List (List Char)}
    (each : ∀ item ∈ items, ∀ c ∈ item, IsPrinted c) : ∀ c ∈ separated [] items, IsPrinted c := by
  induction items with
  | nil => exact fun _ none => by cases none
  | cons item rest ih =>
    obtain ⟨first, others⟩ := List.forall_mem_cons.mp each
    cases rest with
    | nil => exact first
    | cons second rest =>
      rw [separated, List.nil_append, List.forall_mem_append, List.forall_mem_cons]
      · exact ⟨first, by decide, ih others⟩
      · exact List.cons_ne_nil second rest

/-- Nor do they have any between brackets in the compact style. -/
theorem isPrinted_bracketed {items : List (List Char)} {opening closing : Char} (depth : Nat)
    (opens : IsPrinted opening) (closes : IsPrinted closing)
    (each : ∀ item ∈ items, ∀ c ∈ item, IsPrinted c) :
    ∀ c ∈ bracketed .compact depth opening closing items, IsPrinted c := by
  have ends : ∀ c ∈ [closing], IsPrinted c := List.forall_mem_singleton.mpr closes
  cases items with
  | nil => exact List.forall_mem_cons.mpr ⟨opens, ends⟩
  | cons item rest =>
    rw [bracketed, List.forall_mem_cons, List.forall_mem_append]
    · exact ⟨opens, by rw [Style.compact, List.append_nil]; exact isPrinted_separated each, ends⟩
    · exact List.cons_ne_nil item rest

/-- A key brings none in front of a value. -/
theorem isPrinted_keyed (key : String) {value : List Char} (printed : ∀ c ∈ value, IsPrinted c) :
    ∀ c ∈ keyed .compact key value, IsPrinted c := by
  rw [keyed, List.forall_mem_append, List.forall_mem_append]
  exact ⟨⟨isPrinted_quoted key.toList, forall_mem_of_all (by decide)⟩, printed⟩

end Text

/-- The text of a value without parts has no control characters. -/
theorem Scalar.isPrinted_text (value : Scalar) : ∀ c ∈ value.text, IsPrinted c := by
  cases value with
  | null => exact forall_mem_of_all (by decide)
  | bool value => cases value <;> exact forall_mem_of_all (by decide)
  | number value => exact fun c among => (value.isVisible_text c among).isPrinted
  | string value => exact Text.isPrinted_quoted value.toList

namespace Json

/-- A compact text has no control character. -/
theorem isPrinted_compact (value : Json) (depth : Nat) :
    ∀ c ∈ value.text .compact depth, IsPrinted c := by
  induction value generalizing depth with
  | scalar value => exact value.isPrinted_text
  | array items ih =>
    rw [text, itemTexts_eq_map]
    refine Text.isPrinted_bracketed depth (by decide) (by decide) (List.forall_mem_map.mpr ?_)
    exact fun item among => ih item among (depth + 1)
  | object members ih =>
    rw [text, memberTexts_eq_map]
    refine Text.isPrinted_bracketed depth (by decide) (by decide) (List.forall_mem_map.mpr ?_)
    exact fun member among => Text.isPrinted_keyed member.1 (ih member among (depth + 1))

/-- A text has a visible character, if only a bracket. -/
theorem exists_isVisible_text (value : Json) (style : Text.Style) (depth : Nat) :
    ∃ c ∈ value.text style depth, IsVisible c := by
  cases value with
  | scalar value =>
    cases value with
    | null => exact ⟨'n', List.mem_cons_self, by decide⟩
    | bool value =>
      cases value with
      | true => exact ⟨'t', List.mem_cons_self, by decide⟩
      | false => exact ⟨'f', List.mem_cons_self, by decide⟩
    | number value =>
      obtain ⟨c, rest, starts, _⟩ := value.text_starts
      have among : c ∈ value.text := starts ▸ List.mem_cons_self
      exact ⟨c, among, value.isVisible_text c among⟩
    | string value => exact ⟨'"', List.mem_cons_self, by decide⟩
  | array items =>
    refine ⟨'[', ?_, by decide⟩
    rw [text]
    cases itemTexts style (depth + 1) items <;> exact List.mem_cons_self
  | object members =>
    refine ⟨'\x7b', ?_, by decide⟩
    rw [text]
    cases memberTexts style (depth + 1) members <;> exact List.mem_cons_self

end Json

/-! ## Reading line by line -/

namespace Command

/-- The texts that have compactly written documents, and nothing else, on lines of their own. -/
inductive Frames : List Json → List Char → Prop where
  /-- No document, and a blank line at most that has no line break. -/
  | blank {line : List Char} : '\n' ∉ line → isBlankLine line → Frames [] line
  /-- A last document without a line break. -/
  | last (document : Json) : Frames [document] (document.text .compact 0)
  /-- A blank line in front. -/
  | blankLine {line rest : List Char} {documents : List Json} (ending : Text.LineBreak) :
      '\n' ∉ line → isBlankLine line → Frames documents rest →
      Frames documents (line ++ ending.text ++ rest)
  /-- The line of a document in front. -/
  | document {rest : List Char} {documents : List Json} (document : Json)
      (ending : Text.LineBreak) : Frames documents rest →
      Frames (document :: documents) (document.text .compact 0 ++ ending.text ++ rest)

/-- A blank line stays blank without its carriage return. -/
theorem isBlankLine_withoutReturn {line : List Char} (blank : isBlankLine line) :
    isBlankLine (Text.withoutReturn line) := by
  unfold Text.withoutReturn
  split
  · exact List.all_eq_true.mpr fun c among =>
      List.all_eq_true.mp blank c ((List.dropLast_sublist line).subset among)
  · exact blank

/-- No control character stands in a compact text. -/
theorem not_mem_compact (document : Json) {c : Char} (control : ¬ IsPrinted c) :
    c ∉ document.text .compact 0 :=
  fun among => control (document.isPrinted_compact 0 c among)

/-- A compact text is no blank line. -/
theorem isBlankLine_compact (document : Json) : isBlankLine (document.text .compact 0) = false := by
  obtain ⟨c, among, visible⟩ := document.exists_isVisible_text .compact 0
  refine List.all_eq_false.mpr ⟨c, among, ?_⟩
  rw [visible.isWhiteSpace_eq_false]
  decide

/-- The lines that are not blank are those of the documents. -/
theorem documentTexts_of_frames {documents : List Json} {text : List Char}
    (frames : Frames documents text) :
    documentTexts true (String.ofList text) = documents.map (·.text .compact 0) := by
  have byLine (text : List Char) : documentTexts true (String.ofList text) =
      (Text.lines text).filter fun line => !isBlankLine line := by
    rw [documentTexts, if_pos rfl, String.toList_ofList]
  rw [byLine]
  induction frames with
  | @blank line unbroken blank =>
    rw [Text.lines_of_not_mem unbroken]
    cases line with
    | nil => rfl
    | cons c line => simp [blank]
  | last document =>
    rw [Text.lines_of_not_mem (not_mem_compact document (by decide))]
    have some : (document.text .compact 0).isEmpty = false := by
      obtain ⟨c, among, _⟩ := document.exists_isVisible_text .compact 0
      exact List.isEmpty_eq_false_iff.mpr (List.ne_nil_of_mem among)
    simp [some, isBlankLine_compact]
  | @blankLine line rest documents ending unbroken blank _ ih =>
    obtain ⟨kept, same, cut⟩ := Text.lines_break unbroken ending rest
    have keptBlank : isBlankLine kept := by
      rcases same with rfl | rfl
      · exact blank
      · exact isBlankLine_withoutReturn blank
    rw [cut, List.filter_cons_of_neg (by simp [keptBlank]), ih]
  | @document rest documents document ending _ ih =>
    obtain ⟨kept, same, cut⟩ :=
      Text.lines_break (not_mem_compact document (by decide)) ending rest
    have whole : kept = document.text .compact 0 := by
      rcases same with rfl | rfl
      · rfl
      · exact Text.withoutReturn_of_not_mem (not_mem_compact document (by decide))
    rw [cut, whole, List.filter_cons_of_pos (by simp [isBlankLine_compact]), ih, List.map_cons]

/-- Each line that is not blank is read as its document, if the texts of the numbers are. -/
theorem ofText_documentTexts_of_frames {documents : List Json} {text : List Char}
    (frames : Frames documents text) (written : ∀ document ∈ documents,
      document.Distinct ∧ document.depth ≤ Text.nestingLimit ∧
        document.EachScalar Scalar.Rereads) :
    (documentTexts true (String.ofList text)).map Json.ofText = documents.map .ok := by
  rw [documentTexts_of_frames frames, List.map_map]
  refine List.map_congr_left fun document among => ?_
  obtain ⟨distinct, fits, rereads⟩ := written document among
  exact Json.ofText_compact distinct fits rereads

/-- Documents that are written line by line are read again, all of them and nothing else, in their
order. The lines may end either way, the last one need not end, and there may be blank lines
anywhere. Documents nested at most 127 levels deep are read whatever their strings are, and numbers
as far as their own texts are read as them. -/
theorem read_of_frames (documents : List Json) (text : List Char) (frames : Frames documents text)
    (written : ∀ document ∈ documents,
      document.Distinct ∧ document.depth ≤ 127 ∧ document.EachScalar Scalar.Rereads) :
    documentTexts true (String.ofList text) = documents.map (·.text .compact 0) ∧
      (documentTexts true (String.ofList text)).map Json.ofText = documents.map .ok :=
  ⟨documentTexts_of_frames frames, ofText_documentTexts_of_frames frames written⟩

/-- Two documents: a name with a line feed and with white space that is not escaped, an integer and
the negative zero. Blank lines in front and between, both line breaks, and none behind. -/
theorem read_of_frames_mixed :
    let number : Number := .integer (-12) (by decide) (by decide)
    let zero : Number := .double (.zero true)
    let first : Json := .object [("a\n\u0085", .number number)]
    let second : Json := .array [.number zero, .string "\r"]
    let text : List Char :=
      ['\u2028', '\t'] ++ Text.LineBreak.returnLineFeed.text ++
        (first.text .compact 0 ++ Text.LineBreak.returnLineFeed.text ++
          ([] ++ Text.LineBreak.lineFeed.text ++ second.text .compact 0))
    String.ofList text = "\u2028\t\r\n\x7b\"a\\n\u0085\":-12\x7d\r\n\n[-0.0,\"\\r\"]" ∧
      Frames [first, second] text ∧
      (∀ document ∈ [first, second],
        document.Distinct ∧ document.depth ≤ 127 ∧ document.EachScalar Scalar.Rereads) ∧
      (documentTexts true (String.ofList text)).map Json.ofText = [.ok first, .ok second] := by
  intro number zero first second text
  have spelled : String.ofList text =
      "\u2028\t\r\n\x7b\"a\\n\u0085\":-12\x7d\r\n\n[-0.0,\"\\r\"]" := by decide +kernel
  have frames : Frames [first, second] text :=
    .blankLine .returnLineFeed (by decide) (by decide) <|
      .document first .returnLineFeed <|
        .blankLine .lineFeed (by decide) (by decide) (.last second)
  have integer : Json.ofText number.text = .ok (.number number) := rfl
  have decimal : Json.ofText zero.text = .ok (.number zero) :=
    Number.rereads_of_isNear (by decide)
  have written : ∀ document ∈ [first, second],
      document.Distinct ∧ document.depth ≤ 127 ∧ document.EachScalar Scalar.Rereads := by
    simp [first, second, Json.Distinct, Json.DistinctMembers, Json.DistinctItems, Fields.Distinct,
      Json.depth, Json.membersDepth, Json.itemsDepth, integer, decimal, Scalar.Rereads]
  obtain ⟨_, read⟩ := read_of_frames [first, second] text frames written
  exact ⟨spelled, frames, written, read⟩

end Command

end JsonShape
