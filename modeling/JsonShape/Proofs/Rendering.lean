import JsonShape.Mismatch

/-!
# Lines and messages

The line of a failure is put together from the texts of its segments, the wording and what was
found. Seen from further out a failure has more segments in front of its line, and the same message.
The message drops the white space in front of a mismatch. To see what that can be, every character
of a mismatch is traced to where it comes from: names, positions and found slots may hold anything,
but a path opens with a point or a bracket and the wording with a letter, so that at most one blank
is dropped, and that a blank of the wording.
-/
namespace JsonShape

/-! ## Failures from further out -/

/-- The text of a path is that of its segments. -/
theorem Path.text_eq_join (path : Path) : path.text = String.join (path.map Segment.text) := by
  induction path with
  | nil => rfl
  | cons segment rest ih => rw [Path.text, List.map_cons, String.join_cons, ih]

/-- The texts of two paths make up that of the path they form. -/
theorem Path.text_append (outer inner : Path) :
    Path.text (outer ++ inner) = outer.text ++ inner.text := by
  rw [text_eq_join, text_eq_join, text_eq_join, List.map_append, String.join_append]

/-- Seen from some segments further out, the last of which is the outermost, a failure has them in
reverse order in front of its path. -/
theorem Failure.foldl_under (segments : List Segment) (failure : Failure) :
    segments.foldl (fun inner segment => Failure.under segment inner) failure =
      ⟨segments.reverse ++ failure.path, failure.what⟩ := by
  induction segments generalizing failure with
  | nil => rfl
  | cons segment rest ih =>
    rw [List.foldl_cons, ih, List.reverse_cons, List.append_assoc]
    rfl

/-! ## Traced texts -/

/-- Where a character of a line comes from. -/
inductive Origin where
  /-- Fixed wording: points, brackets, words, blanks and joiners. -/
  | wording
  /-- The name of a field. -/
  | name
  /-- The position of an element. -/
  | position
  /-- A slot as it was found. -/
  | found

/-- A text of which each character is kept with its origin. -/
abbrev Traced := List (Char × Origin)

/-- A text of one origin. -/
def Origin.mark (origin : Origin) (text : String) : Traced :=
  text.toList.map (·, origin)

namespace Traced

/-- The text without the origins. -/
def text (traced : Traced) : String :=
  String.ofList (traced.map Prod.fst)

/-- What is left of a text without the white space in front. -/
def trimmed (traced : Traced) : Traced :=
  traced.dropWhile fun mark => Unicode.isWhiteSpace mark.1

/-- Words, and what was found behind them. -/
def stated (words found : String) : Traced :=
  Origin.wording.mark words ++ Origin.found.mark found

/-- An empty traced text is empty. -/
@[simp] theorem text_nil : text [] = "" :=
  rfl

/-- The texts of two traced texts make up that of both. -/
@[simp] theorem text_append (left right : Traced) :
    text (left ++ right) = left.text ++ right.text := by
  rw [text, List.map_append, String.ofList_append]
  rfl

/-- Marking a text keeps it. -/
@[simp] theorem text_mark (origin : Origin) (content : String) :
    text (origin.mark content) = content := by
  rw [text, Origin.mark, List.map_map]
  exact (congrArg String.ofList (List.map_id _)).trans String.ofList_toList

/-- What is stated is the words and what was found behind them. -/
theorem text_stated (words found : String) : text (stated words found) = words ++ found := by
  rw [stated, text_append, text_mark, text_mark]

/-- Trimming a traced text trims the text. -/
theorem text_trimmed (traced : Traced) :
    traced.trimmed.text = String.ofList (traced.text.toList.dropWhile Unicode.isWhiteSpace) := by
  rw [text, text, String.toList_ofList, List.dropWhile_map]
  rfl

/-- The white space in front of a text is nothing, or one blank of the wording. -/
inductive Tidy : Traced → Prop where
  /-- There is no text. -/
  | empty : Tidy []
  /-- There is no white space in front. -/
  | sharp {c : Char} {origin : Origin} {rest : Traced} :
      Unicode.isWhiteSpace c = false → Tidy ((c, origin) :: rest)
  /-- There is one blank. -/
  | blank {c : Char} {origin : Origin} {rest : Traced} :
      Unicode.isWhiteSpace c = false → Tidy ((' ', .wording) :: (c, origin) :: rest)

/-- A tidy text in front of another leaves both tidy. -/
theorem Tidy.append {front rest : Traced} (first : front.Tidy) (more : rest.Tidy) :
    (front ++ rest).Tidy := by
  cases first with
  | empty => exact more
  | sharp visible => exact .sharp visible
  | blank visible => exact .blank visible

/-- Trimming a tidy text removes nothing, or one blank of the wording. -/
theorem Tidy.exists_removed {traced : Traced} (tidy : traced.Tidy) :
    ∃ removed, (removed = [] ∨ removed = [(' ', .wording)]) ∧
      traced = removed ++ traced.trimmed := by
  cases tidy with
  | empty => exact ⟨[], .inl rfl, rfl⟩
  | sharp visible => exact ⟨[], .inl rfl, by simp [trimmed, visible]⟩
  | blank visible =>
    have white : Unicode.isWhiteSpace ' ' = true := rfl
    exact ⟨[(' ', .wording)], .inr rfl, by simp [trimmed, visible, white]⟩

end Traced

/-- The text of a segment, traced. -/
def Segment.traced : Segment → Traced
  | .field name => Origin.wording.mark "." ++ Origin.name.mark name
  | .index position =>
    Origin.wording.mark "[" ++ Origin.position.mark (String.ofList (Nat.toDigits 10 position)) ++
      Origin.wording.mark "]"

/-- The text of a path, traced. -/
def Path.traced : Path → Traced
  | [] => []
  | segment :: rest => segment.traced ++ Path.traced rest

mutual

/-- The text of a mismatch alone, traced. -/
def Mismatch.traced : Mismatch → Traced
  | .notArray found => .stated "is not an array: " found
  | .notObject found => .stated "is not an object: " found
  | .notNull found => .stated "is not null: " found
  | .notOfKind expected found => .stated ("is not a " ++ expected.name ++ ": ") found
  | .noAlternative failures => joinedTraced failures

/-- The lines of failures, joined and traced. -/
def joinedTraced : List (AtPath Mismatch) → Traced
  | [] => []
  | ⟨path, mismatch⟩ :: rest =>
    path.traced ++ Origin.wording.mark mismatch.separator ++ mismatch.traced ++ moreTraced rest

/-- The lines of further failures, each behind the joiner, traced. -/
def moreTraced : List (AtPath Mismatch) → Traced
  | [] => []
  | ⟨path, mismatch⟩ :: rest =>
    Origin.wording.mark alternativeJoiner ++ path.traced ++
      Origin.wording.mark mismatch.separator ++ mismatch.traced ++ moreTraced rest

end

/-! ## Mismatches that state what was found -/

/-- A mismatch states what was found behind words, as every one does that is not that of a union. -/
structure Mismatch.States (mismatch : Mismatch) (words found : String) : Prop where
  /-- A blank sets it off from its path. -/
  separator : mismatch.separator = " "
  /-- Its text has the two parts. -/
  text : mismatch.text = words ++ found
  /-- Its message drops none of them. -/
  message : ∀ path, Failure.message ⟨path, mismatch⟩ = words ++ found
  /-- Each part has its origin. -/
  traced : mismatch.traced = .stated words found
  /-- The words open with a letter. -/
  opens : words.toList.head? = some 'i'

/-- Induction over a mismatch, which states what was found or is that of a union; the hypothesis
holds of the mismatch of every failure inside. -/
@[elab_as_elim]
theorem Mismatch.induction {motive : Mismatch → Prop}
    (stating : ∀ {mismatch : Mismatch} {words found : String}, mismatch.States words found →
      motive mismatch)
    (noAlternative : ∀ failures : List Failure, (∀ failure ∈ failures, motive failure.what) →
      motive (.noAlternative failures)) :
    ∀ mismatch, motive mismatch
  | .notArray _ => stating ⟨rfl, rfl, fun _ => rfl, rfl, rfl⟩
  | .notObject _ => stating ⟨rfl, rfl, fun _ => rfl, rfl, rfl⟩
  | .notNull _ => stating ⟨rfl, rfl, fun _ => rfl, rfl, rfl⟩
  | .notOfKind _ _ => stating ⟨rfl, rfl, fun _ => rfl, rfl, by simp⟩
  | .noAlternative failures => noAlternative failures fun failure _ =>
    Mismatch.induction stating noAlternative failure.what
termination_by mismatch => sizeOf mismatch
decreasing_by
  have whole := List.sizeOf_lt_of_mem ‹failure ∈ failures›
  have part : sizeOf failure = 1 + sizeOf failure.path + sizeOf failure.what := rfl
  rw [Mismatch.noAlternative.sizeOf_spec]
  omega

/-! ## Tracing keeps every text -/

/-- Tracing a segment keeps its text. -/
theorem Segment.text_traced (segment : Segment) : segment.traced.text = segment.text := by
  cases segment with
  | field name => simp [traced, text]
  | index position => simp [traced, text, String.append_assoc]

/-- Tracing a path keeps its text. -/
theorem Path.text_traced (path : Path) : Traced.text (Path.traced path) = path.text := by
  induction path with
  | nil => rfl
  | cons segment rest ih => rw [traced, Traced.text_append, Segment.text_traced, ih, text]

/-- Tracing further failures keeps their texts, if it keeps those of their mismatches. -/
theorem text_moreTraced {failures : List Failure}
    (each : ∀ failure ∈ failures, failure.what.traced.text = failure.what.text) :
    (moreTraced failures).text = moreText failures := by
  induction failures with
  | nil => rfl
  | cons failure rest ih =>
    obtain ⟨first, further⟩ := List.forall_mem_cons.mp each
    simp [moreTraced, moreText, Path.text_traced, first, ih further, String.append_assoc]

/-- So does tracing joined failures. -/
theorem text_joinedTraced {failures : List Failure}
    (each : ∀ failure ∈ failures, failure.what.traced.text = failure.what.text) :
    (joinedTraced failures).text = joinedText failures := by
  cases failures with
  | nil => rfl
  | cons failure rest =>
    obtain ⟨first, further⟩ := List.forall_mem_cons.mp each
    simp [joinedTraced, joinedText, Path.text_traced, first, text_moreTraced further,
      String.append_assoc]

/-- Tracing a mismatch keeps its text, whatever failures are inside it. -/
theorem Mismatch.text_traced (mismatch : Mismatch) : mismatch.traced.text = mismatch.text := by
  induction mismatch using Mismatch.induction with
  | stating states => rw [states.traced, Traced.text_stated, states.text]
  | noAlternative failures each => exact text_joinedTraced each

/-! ## What stands in front of a mismatch -/

/-- A mismatch that states what was found opens with the letter of its words. -/
theorem Mismatch.States.exists_rest {mismatch : Mismatch} {words found : String}
    (states : mismatch.States words found) :
    ∃ rest, mismatch.traced = ('i', .wording) :: rest := by
  obtain ⟨letters, opens⟩ := List.head?_eq_some_iff.mp states.opens
  rw [states.traced, Traced.stated, Origin.mark, opens]
  exact ⟨_, rfl⟩

/-- A path opens with a point or a bracket unless it is empty, so it is tidy in front of anything
tidy. -/
theorem Path.tidy_append (path : Path) {rest : Traced} (tidy : rest.Tidy) :
    (path.traced ++ rest).Tidy := by
  cases path with
  | nil => exact tidy
  | cons segment others =>
    cases segment with
    | field name => exact .sharp rfl
    | index position => exact .sharp rfl

/-- Further failures are tidy, as each of them opens with the joiner. -/
theorem tidy_moreTraced (failures : List Failure) : (moreTraced failures).Tidy := by
  cases failures with
  | nil => exact .empty
  | cons failure rest => exact .blank rfl

/-- The first failure decides what the joined lines open with, unless its line is empty, as that of
a failed union without alternatives is: then they open with the joiner. -/
theorem tidy_joinedTraced {failures : List Failure}
    (each : ∀ failure ∈ failures,
      (Origin.wording.mark failure.what.separator ++ failure.what.traced).Tidy) :
    (joinedTraced failures).Tidy := by
  cases failures with
  | nil => exact .empty
  | cons failure rest =>
    have first := failure.path.tidy_append (each failure List.mem_cons_self)
    rw [← List.append_assoc] at first
    exact first.append (tidy_moreTraced rest)

/-- A mismatch is tidy behind its separator. -/
theorem Mismatch.tidy_separated (mismatch : Mismatch) :
    (Origin.wording.mark mismatch.separator ++ mismatch.traced).Tidy := by
  induction mismatch using Mismatch.induction with
  | stating states =>
    obtain ⟨rest, opens⟩ := states.exists_rest
    rw [states.separator, opens]
    exact .blank rfl
  | noAlternative failures each => exact tidy_joinedTraced each

/-! ## Messages -/

/-- What stands between the path of a failure and its message, and what the message drops of the
mismatch, is nothing or one blank of the wording. -/
theorem Failure.exists_gap (failure : Failure) :
    ∃ gap removed kept : Traced,
      (gap = [] ∨ gap = [(' ', .wording)]) ∧ (removed = [] ∨ removed = [(' ', .wording)]) ∧
      Origin.wording.mark failure.what.separator ++ failure.what.traced = gap ++ kept ∧
      failure.what.traced = removed ++ kept ∧ kept.text = failure.message := by
  obtain ⟨path, mismatch⟩ := failure
  induction mismatch using Mismatch.induction with
  | @stating mismatch words found states =>
    -- Nothing is trimmed, and the separator is what stands between.
    refine ⟨Origin.wording.mark " ", [], mismatch.traced, .inr rfl, .inl rfl, ?_, rfl, ?_⟩
    · rw [states.separator]
    · rw [states.message, states.traced, Traced.text_stated]
  | noAlternative failures _ =>
    -- The separator is empty, and what is trimmed is what stands between.
    have tidy : (joinedTraced failures).Tidy :=
      Mismatch.tidy_separated (.noAlternative failures)
    obtain ⟨removed, blank, split⟩ := tidy.exists_removed
    refine ⟨removed, removed, _, blank, blank, split, split, ?_⟩
    rw [Traced.text_trimmed, text_joinedTraced fun failure _ => failure.what.text_traced]
    rfl

/-- Seen from some segments further out, one after the other, a failure has them in reverse order in
front of its path and their texts in that order in front of its line, and the same message. Its line
is its path, then nothing or one blank, then its message. The message is the mismatch without what
trimming removes: nothing, or one blank that belongs to the wording and to no name, position or
found slot. -/
theorem Failure.renders_in_parts (failure : Failure) (segments : List Segment) :
    let outer := segments.foldl (fun inner segment => Failure.under segment inner) failure
    (outer.path = segments.reverse ++ failure.path ∧
      outer.text = String.join (segments.reverse.map Segment.text) ++ failure.text ∧
      outer.message = failure.message) ∧
    (∃ gap, (gap = "" ∨ gap = " ") ∧
      failure.text = failure.path.text ++ gap ++ failure.message) ∧
    ∃ removed kept : Traced, (removed = [] ∨ removed = [(' ', .wording)]) ∧
      failure.what.traced = removed ++ kept ∧
      failure.what.traced.text = failure.what.text ∧ kept.text = failure.message := by
  intro outer
  have further : outer = ⟨segments.reverse ++ failure.path, failure.what⟩ :=
    failure.foldl_under segments
  obtain ⟨gap, removed, kept, between, blank, separated, split, message⟩ := failure.exists_gap
  have outerText : outer.text =
      String.join (segments.reverse.map Segment.text) ++ failure.text := by
    rw [further, Failure.text, Path.text_append, ← Path.text_eq_join, Failure.text]
    simp only [String.append_assoc]
  have outerMessage : outer.message = failure.message := by
    rw [further]
    rfl
  have behind : failure.what.separator ++ failure.what.text = gap.text ++ failure.message := by
    have texts := congrArg Traced.text separated
    rwa [Traced.text_append, Traced.text_append, Traced.text_mark, Mismatch.text_traced,
      message] at texts
  have line : failure.text = failure.path.text ++ gap.text ++ failure.message := by
    rw [Failure.text, String.append_assoc, behind, String.append_assoc]
  have between : gap.text = "" ∨ gap.text = " " :=
    between.imp (congrArg Traced.text) (congrArg Traced.text)
  exact ⟨⟨congrArg AtPath.path further, outerText, outerMessage⟩, ⟨gap.text, between, line⟩,
    removed, kept, blank, split, failure.what.text_traced, message⟩

/-- A name that opens with a blank loses nothing, nor does what was found; the failed union in front
has no line, so that the message opens with the joiner. -/
example :
    Failure.message ⟨[.index 3], .noAlternative
      [⟨[], .noAlternative []⟩, ⟨[.field " a"], .notNull " 1"⟩]⟩ = "and. a is not null:  1" := by
  decide +kernel

end JsonShape
