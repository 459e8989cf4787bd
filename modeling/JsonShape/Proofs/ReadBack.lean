import JsonShape.Proofs.Outcomes
import JsonShape.Proofs.Scalars
import JsonShape.Shape.Notation

/-!
# Written values read back

A value written in a style that puts only blanks between its tokens is read with the meaning that
a reading gives to the value itself, as long as it is not nested past the limit. A value that is
nested further ends in the fault of the limit, whatever the reading makes of its parts. Both are
one statement, a report, that is carried from the elements and members to the whole value. It
holds of every writer that spells strings in a way that is read back.
-/
namespace JsonShape

/-- Every value without parts inside a value has a property. -/
inductive Json.EachScalar (P : Scalar → Prop) : Json → Prop where
  /-- The value itself. -/
  | scalar {value : Scalar} : P value → EachScalar P (.scalar value)
  /-- Those of the elements. -/
  | array {items : List Json} : (∀ item ∈ items, EachScalar P item) → EachScalar P (.array items)
  /-- Those of the members. -/
  | object {members : List (String × Json)} : (∀ member ∈ members, EachScalar P member.2) →
      EachScalar P (.object members)

namespace Json

variable {P : Scalar → Prop}

/-- A value without parts holds itself alone. -/
@[simp] theorem eachScalar_scalar_iff {value : Scalar} : EachScalar P (.scalar value) ↔ P value :=
  ⟨fun | .scalar holds => holds, .scalar⟩

/-- An array holds what its elements hold. -/
@[simp] theorem eachScalar_array_iff {items : List Json} :
    EachScalar P (.array items) ↔ ∀ item ∈ items, EachScalar P item :=
  ⟨fun | .array each => each, .array⟩

/-- An object holds what the values of its members hold. -/
@[simp] theorem eachScalar_object_iff {members : List (String × Json)} :
    EachScalar P (.object members) ↔ ∀ member ∈ members, EachScalar P member.2 :=
  ⟨fun | .object each => each, .object⟩

end Json

namespace Text

variable {ε α β : Type}

/-- A style that writes nothing but blanks between tokens. -/
structure Style.Blank (style : Style) : Prop where
  /-- Line breaks are blanks. -/
  lineBreak : ∀ depth, (style.lineBreak depth).all isBlank
  /-- Blanks follow a colon. -/
  colon : ∃ blanks, style.colon = ':' :: blanks ∧ blanks.all isBlank

/-- The compact style writes nothing between tokens. -/
theorem Style.blank_compact : Style.compact.Blank :=
  ⟨fun _ => rfl, [], rfl, rfl⟩

/-- The indented style writes line feeds and spaces between tokens. -/
theorem Style.blank_pretty : Style.pretty.Blank := by
  refine ⟨fun depth => ?_, [' '], rfl, rfl⟩
  simp [Style.pretty, isBlank]

/-! ## Reports -/

/-- What comes of a part of a text: its meaning and the text behind it when it fits the nesting
limit, else the fault of the limit, as a rejection and as the end of the tree. -/
structure Report (fits : Prop) (meaning : β) (rest : List Char) (found : Except (Rejection ε) β)
    (outcome : Except FaultAt (List Char)) : Prop where
  /-- What comes of a part that fits. -/
  within : fits → found = .ok meaning ∧ outcome = .ok rest
  /-- What comes of a part that does not fit. -/
  beyond : ¬fits → ∃ trail place, found = .error ⟨trail, .fault .nestingLimit, place⟩ ∧
    outcome = .error ⟨.nestingLimit, place⟩

variable {reading : Reading ε α} {fits also : Prop} {rest : List Char}

/-- An array is reported as its elements are. -/
theorem Report.array {start : List Char} {items : List Tree} {meanings : List α}
    {ending : Except FaultAt (List Char)}
    (report : Report fits meanings rest (interpretItems reading 0 items) ending) :
    Report fits (reading.array meanings) rest
      ((Tree.array start items ending).interpret reading)
      (Tree.array start items ending).outcome := by
  constructor
  · intro fit
    obtain ⟨found, ended⟩ := report.within fit
    rw [Tree.interpret, found, ended]
    exact ⟨rfl, rfl⟩
  · intro deep
    obtain ⟨trail, place, found, ended⟩ := report.beyond deep
    rw [Tree.interpret, found, ended]
    exact ⟨trail, place, rfl, rfl⟩

/-- An object is reported as its members are. -/
theorem Report.object {start : List Char} {members : List (Key × Tree)}
    {meanings : List (String × α)} {ending : ObjectEnd}
    (report : Report fits meanings rest (interpretMembers reading members) ending.outcome) :
    Report fits (reading.object meanings) rest
      ((Tree.object start members ending).interpret reading)
      (Tree.object start members ending).outcome := by
  constructor
  · intro fit
    obtain ⟨found, ended⟩ := report.within fit
    rw [Tree.interpret, found]
    cases ending with
    | closed after => exact ⟨rfl, ended⟩
    | broken found => cases ended
    | colonMissing key found => cases ended
  · intro deep
    obtain ⟨trail, place, found, ended⟩ := report.beyond deep
    rw [Tree.interpret, found]
    exact ⟨trail, place, rfl, ended⟩

/-- A value past the limit is reported by the fault that stands in its place. -/
theorem Report.broken {meaning : α} {place : Place} (deep : ¬fits) :
    Report fits meaning rest
      ((Tree.broken ⟨.nestingLimit, place⟩).interpret reading)
      (Tree.broken ⟨.nestingLimit, place⟩).outcome := by
  refine ⟨fun fit => absurd fit deep, fun _ => ⟨[], place, rfl, rfl⟩⟩

/-! ## The meanings of parts -/

/-- Elements have meanings when the first of them and the others have. -/
theorem Reading.ofItems_cons {index : Nat} {item : Json} {others : List Json} {meanings : List α}
    (meant : reading.ofItems index (item :: others) = .ok meanings) :
    ∃ meaning further, reading.ofJson item = .ok meaning ∧
      reading.ofItems (index + 1) others = .ok further ∧ meanings = meaning :: further := by
  rw [Reading.ofItems] at meant
  obtain ⟨meaning, first, meant⟩ := bind_eq_ok.mp meant
  obtain ⟨further, more, made⟩ := bind_eq_ok.mp meant
  cases made
  exact ⟨meaning, further, mapError_eq_ok.mp first, more, rfl⟩

/-- Members have meanings when the first of them and the others have. -/
theorem Reading.ofMembers_cons {name : String} {value : Json} {others : List (String × Json)}
    {meanings : List (String × α)}
    (meant : reading.ofMembers ((name, value) :: others) = .ok meanings) :
    ∃ meaning further, reading.ofJson value = .ok meaning ∧
      reading.ofMembers others = .ok further ∧ meanings = (name, meaning) :: further := by
  rw [Reading.ofMembers] at meant
  obtain ⟨meaning, first, meant⟩ := bind_eq_ok.mp meant
  obtain ⟨further, more, made⟩ := bind_eq_ok.mp meant
  cases made
  exact ⟨meaning, further, mapError_eq_ok.mp first, more, rfl⟩

/-- Written elements that each have a meaning have their meanings together. -/
theorem Reading.ofItems_map (write : β → Json) (mean : β → α) {parts : List β} (index : Nat)
    (each : ∀ part ∈ parts, reading.ofJson (write part) = .ok (mean part)) :
    reading.ofItems index (parts.map write) = .ok (parts.map mean) := by
  induction parts generalizing index with
  | nil => rfl
  | cons part rest ih =>
    have others := ih (index + 1) fun other among => each other (List.mem_cons_of_mem _ among)
    rw [List.map_cons, Reading.ofItems, each part List.mem_cons_self, others]
    rfl

/-- Written members that each have a meaning have their meanings together. -/
theorem Reading.ofMembers_map (write : β → Json) (mean : β → α) {parts : List (String × β)}
    (each : ∀ part ∈ parts, reading.ofJson (write part.2) = .ok (mean part.2)) :
    reading.ofMembers (parts.map fun part => (part.1, write part.2)) =
      .ok (parts.map fun part => (part.1, mean part.2)) := by
  induction parts with
  | nil => rfl
  | cons part rest ih =>
    have others := ih fun other among => each other (List.mem_cons_of_mem _ among)
    rw [List.map_cons, Reading.ofMembers, each part List.mem_cons_self, others]
    rfl

section Parts

variable {γ : Type} {step : Step} (f : α → List γ → List γ) {meaning : α} {meanings : List γ}
  {after : List Char} {found : Except (Rejection ε) α} {more : Except (Rejection ε) (List γ)}
  {first outcome : Except FaultAt (List Char)}

/-- Behind a part that fits, the other parts decide. -/
theorem Report.cons (here : Report fits meaning after found first) (fit : fits)
    (others : Report also meanings rest more outcome) :
    Report (fits ∧ also) (f meaning meanings) rest
      (do
        let meaning ← found.mapError (·.under step)
        let others ← more
        return f meaning others)
      outcome := by
  obtain ⟨found, _⟩ := here.within fit
  constructor
  · intro all
    obtain ⟨more, ended⟩ := others.within all.2
    rw [found, more, ended]
    exact ⟨rfl, rfl⟩
  · intro deep
    obtain ⟨trail, place, more, ended⟩ := others.beyond fun fine => deep ⟨fit, fine⟩
    rw [found, more, ended]
    exact ⟨trail, place, rfl, rfl⟩

/-- A part that does not fit ends the parts. -/
theorem Report.stopped (here : Report fits meaning after found first) (deep : ¬fits) :
    Report (fits ∧ also) meanings rest
      (do
        let meaning ← found.mapError (·.under step)
        let others ← more
        return f meaning others)
      first := by
  obtain ⟨trail, place, found, ended⟩ := here.beyond deep
  refine ⟨fun all => absurd all.1 deep, fun _ => ?_⟩
  rw [found, ended]
  exact ⟨step :: trail, place, rfl, rfl⟩

end Parts

/-! ## Lists of written parts -/

/-- What follows the first of some written parts: the others, each behind a comma, and an
ending. -/
def following (lineBreak : List Char) (others : List (List Char)) (ending : List Char) :
    List Char :=
  match others with
  | [] => ending
  | others => ',' :: (separated lineBreak others ++ ending)

/-- The first of some items stands behind its line break, and the others follow. -/
theorem separated_cons (lineBreak first : List Char) (others : List (List Char))
    (ending : List Char) :
    separated lineBreak (first :: others) ++ ending =
      lineBreak ++ (first ++ following lineBreak others ending) := by
  cases others with
  | nil => simp [separated, following]
  | cons second others => simp [separated, following]

/-- A part can end in front of what follows it. -/
theorem Ends.following {ending : List Char} (ends : Ends ending) (lineBreak : List Char)
    (others : List (List Char)) : Ends (following lineBreak others ending) := by
  cases others with
  | nil => exact ends
  | cons second others => exact .mark (.inl rfl) _

/-- A reader reports a value that is written before a text at which a token can end. -/
def Reports (reading : Reading ε α) (readValue : List Char → Tree) (write : Json → List Char)
    (limit : Nat) (value : Json) : Prop :=
  ∀ meaning rest, reading.ofJson value = .ok meaning → Ends rest →
    Report (value.depth ≤ limit) meaning rest
      ((readValue (write value ++ rest)).interpret reading)
      (readValue (write value ++ rest)).outcome

section Items

variable {readValue : List Char → Tree} {text after : List Char}

/-- A fault in an element is the end of the array. -/
theorem readItems_stopped {found : FaultAt} (fuel : Nat)
    (stopped : (readValue text).outcome = .error found) :
    readItems readValue (fuel + 1) text = ([readValue text], (readValue text).outcome) := by
  simp [readItems, stopped]

/-- A closing bracket behind an element is the end of the array. -/
theorem readItems_last (fuel : Nat) (ended : (readValue text).outcome = .ok after)
    (closing : skipBlanks after = ']' :: rest) :
    readItems readValue (fuel + 1) text = ([readValue text], .ok rest) := by
  simp [readItems, ended, closing]

/-- A comma behind an element leads to the next. -/
theorem readItems_next (fuel : Nat) {next : List Char}
    (ended : (readValue text).outcome = .ok after) (comma : skipBlanks after = ',' :: rest)
    (skipped : skipBlanks rest = next) (starts : Starts next) :
    readItems readValue (fuel + 1) text =
      (readValue text :: (readItems readValue fuel next).1,
        (readItems readValue fuel next).2) := by
  obtain ⟨c, others, rfl, _, other⟩ := starts
  simp [readItems, ended, comma, skipped, other]

/-- Written elements are reported when each of them is. -/
theorem Report.items {limit fuel index : Nat} {lineBreak blanks : List Char}
    {write : Json → List Char} {first : Json} {others : List Json} {meanings : List α}
    (breaks : lineBreak.all isBlank) (closes : blanks.all isBlank)
    (each : ∀ item ∈ first :: others, Reports reading readValue write limit item)
    (starts : ∀ item ∈ others, Starts (write item))
    (enough : (first :: others).length ≤ fuel)
    (meant : reading.ofItems index (first :: others) = .ok meanings) :
    let found := readItems readValue fuel
      (write first ++ following lineBreak (others.map write) (blanks ++ ']' :: rest))
    Report (Json.itemsDepth (first :: others) ≤ limit) meanings rest
      (interpretItems reading index found.1) found.2 := by
  intro found
  have ends : Ends (blanks ++ ']' :: rest) := .append closes (.mark (by simp) _)
  -- Whether the reader goes on behind an element is known only once that element is reported, so
  -- the cases are split by its depth before the reader is unfolded.
  induction others generalizing first fuel index meanings with
  | nil =>
    obtain ⟨fuel, rfl⟩ := Nat.exists_eq_succ_of_ne_zero (Nat.ne_of_gt enough)
    obtain ⟨meaning, further, here, none, rfl⟩ := Reading.ofItems_cons meant
    cases none
    have report := each first List.mem_cons_self meaning _ here ends
    rw [Json.itemsDepth, Nat.max_le]
    by_cases fit : first.depth ≤ limit
    · have closing : skipBlanks (blanks ++ ']' :: rest) = ']' :: rest := by
        rw [skipBlanks_append closes, skipBlanks_of_not (by decide)]
      have read : found = _ := readItems_last fuel (report.within fit).2 closing
      rw [read, interpretItems]
      refine report.cons List.cons fit ⟨fun _ => ⟨rfl, rfl⟩, fun deep => ?_⟩
      exact absurd (Nat.zero_le limit) deep
    · obtain ⟨_, _, _, ended⟩ := report.beyond fit
      have read : found = _ := readItems_stopped fuel ended
      rw [read, interpretItems]
      exact report.stopped List.cons fit
  | cons second others ih =>
    obtain ⟨fuel, rfl⟩ := Nat.exists_eq_succ_of_ne_zero (Nat.ne_of_gt (Nat.zero_lt_of_lt enough))
    obtain ⟨meaning, further, here, more, rfl⟩ := Reading.ofItems_cons meant
    have report := each first List.mem_cons_self meaning _ here
      (ends.following lineBreak ((second :: others).map write))
    rw [Json.itemsDepth, Nat.max_le]
    by_cases fit : first.depth ≤ limit
    · have next := (starts second List.mem_cons_self).append
        (following lineBreak (others.map write) (blanks ++ ']' :: rest))
      have skipped : skipBlanks (separated lineBreak ((second :: others).map write) ++
          (blanks ++ ']' :: rest)) =
          write second ++ following lineBreak (others.map write) (blanks ++ ']' :: rest) := by
        rw [List.map_cons, separated_cons, skipBlanks_append breaks, next.skipBlanks]
      have read : found = _ := readItems_next fuel (report.within fit).2
        (skipBlanks_of_not (by decide) _) skipped next
      rw [read, interpretItems]
      exact report.cons List.cons fit (ih
        (fun item among => each item (List.mem_cons_of_mem _ among))
        (fun item among => starts item (List.mem_cons_of_mem _ among))
        (Nat.le_of_succ_le_succ enough) more)
    · obtain ⟨_, _, _, ended⟩ := report.beyond fit
      have read : found = _ := readItems_stopped fuel ended
      rw [read, interpretItems]
      exact report.stopped List.cons fit

end Items

section Members

variable {readValue : List Char → Tree} {spell : Char → List Char} {name : String}
  {text after : List Char}

/-- The text of a key behind its opening quote, with the text that follows the colon. -/
def keyBody (spell : Char → List Char) (name : String) (text : List Char) : List Char :=
  name.toList.flatMap spell ++ '"' :: ':' :: text

/-- A spelled key is read back up to its colon. -/
theorem readString_keyBody (spells : IsSpelling spell) (name : String) (text : List Char) :
    readString (keyBody spell name text) = .ok (name, ':' :: text) := by
  rw [keyBody, spells.readString_flatMap, String.ofList_toList]

/-- A fault in the value of a member is the end of the object. -/
theorem readMembers_stopped (spells : IsSpelling spell) {found : FaultAt} (fuel : Nat)
    (stopped : (readValue text).outcome = .error found) :
    readMembers readValue (fuel + 1) (keyBody spell name text) =
      ([(⟨name, ':' :: text⟩, readValue text)], .broken found) := by
  simp [readMembers, readString_keyBody spells,
    skipBlanks_of_not (show isBlank ':' = false by decide), stopped]

/-- A closing brace behind a member is the end of the object. -/
theorem readMembers_last (spells : IsSpelling spell) (fuel : Nat)
    (ended : (readValue text).outcome = .ok after) (closing : skipBlanks after = '\x7d' :: rest) :
    readMembers readValue (fuel + 1) (keyBody spell name text) =
      ([(⟨name, ':' :: text⟩, readValue text)], .closed rest) := by
  simp [readMembers, readString_keyBody spells,
    skipBlanks_of_not (show isBlank ':' = false by decide), ended, closing]

/-- A comma and a quote behind a member lead to the next. -/
theorem readMembers_next (spells : IsSpelling spell) (fuel : Nat) {next : List Char}
    (ended : (readValue text).outcome = .ok after) (comma : skipBlanks after = ',' :: rest)
    (started : skipBlanks rest = '"' :: next) :
    readMembers readValue (fuel + 1) (keyBody spell name text) =
      ((⟨name, ':' :: text⟩, readValue text) :: (readMembers readValue fuel next).1,
        (readMembers readValue fuel next).2) := by
  simp [readMembers, readString_keyBody spells,
    skipBlanks_of_not (show isBlank ':' = false by decide), ended, comma, started]

/-- Written members are reported when each of them is. -/
theorem Report.members (spells : IsSpelling spell) {limit fuel : Nat} {lineBreak blanks : List Char}
    {write : Json → List Char} {first : String × Json} {others : List (String × Json)}
    {meanings : List (String × α)}
    (breaks : lineBreak.all isBlank) (closes : blanks.all isBlank)
    (each : ∀ member ∈ first :: others, Reports reading readValue write limit member.2)
    (enough : (first :: others).length ≤ fuel)
    (meant : reading.ofMembers (first :: others) = .ok meanings) :
    let found := readMembers readValue fuel (keyBody spell first.1 (write first.2 ++
      following lineBreak (others.map fun member => '"' :: keyBody spell member.1 (write member.2))
        (blanks ++ '\x7d' :: rest)))
    Report (Json.membersDepth (first :: others) ≤ limit) meanings rest
      (interpretMembers reading found.1) found.2.outcome := by
  intro found
  have ends : Ends (blanks ++ '\x7d' :: rest) := .append closes (.mark (by simp) _)
  induction others generalizing first fuel meanings with
  | nil =>
    obtain ⟨fuel, rfl⟩ := Nat.exists_eq_succ_of_ne_zero (Nat.ne_of_gt enough)
    obtain ⟨meaning, further, here, none, rfl⟩ := Reading.ofMembers_cons meant
    cases none
    let pair (meaning : α) (further : List (String × α)) := (first.1, meaning) :: further
    have report := each first List.mem_cons_self meaning _ here ends
    rw [Json.membersDepth, Nat.max_le]
    by_cases fit : first.2.depth ≤ limit
    · have closing : skipBlanks (blanks ++ '\x7d' :: rest) = '\x7d' :: rest := by
        rw [skipBlanks_append closes, skipBlanks_of_not (by decide)]
      have read : found = _ := readMembers_last spells fuel (report.within fit).2 closing
      rw [read, interpretMembers]
      refine report.cons pair fit ⟨fun _ => ⟨rfl, rfl⟩, fun deep => ?_⟩
      exact absurd (Nat.zero_le limit) deep
    · obtain ⟨_, _, _, ended⟩ := report.beyond fit
      have read : found = _ := readMembers_stopped spells fuel ended
      rw [read, interpretMembers, ObjectEnd.outcome, ← ended]
      exact report.stopped pair fit
  | cons second others ih =>
    obtain ⟨fuel, rfl⟩ := Nat.exists_eq_succ_of_ne_zero (Nat.ne_of_gt (Nat.zero_lt_of_lt enough))
    obtain ⟨meaning, further, here, more, rfl⟩ := Reading.ofMembers_cons meant
    let pair (meaning : α) (further : List (String × α)) := (first.1, meaning) :: further
    have report := each first List.mem_cons_self meaning _ here (ends.following lineBreak
      ((second :: others).map fun member => '"' :: keyBody spell member.1 (write member.2)))
    rw [Json.membersDepth, Nat.max_le]
    by_cases fit : first.2.depth ≤ limit
    · have started : skipBlanks (separated lineBreak ((second :: others).map fun member =>
          '"' :: keyBody spell member.1 (write member.2)) ++ (blanks ++ '\x7d' :: rest)) =
          '"' :: keyBody spell second.1 (write second.2 ++ following lineBreak
            (others.map fun member => '"' :: keyBody spell member.1 (write member.2))
            (blanks ++ '\x7d' :: rest)) := by
        rw [List.map_cons, separated_cons, skipBlanks_append breaks, List.cons_append,
          skipBlanks_of_not (by decide)]
        simp [keyBody]
      have read : found = _ := readMembers_next spells fuel (report.within fit).2
        (skipBlanks_of_not (by decide) _) started
      rw [read, interpretMembers]
      exact report.cons pair fit (ih
        (fun member among => each member (List.mem_cons_of_mem _ among))
        (Nat.le_of_succ_le_succ enough) more)
    · obtain ⟨_, _, _, ended⟩ := report.beyond fit
      have read : found = _ := readMembers_stopped spells fuel ended
      rw [read, interpretMembers, ObjectEnd.outcome, ← ended]
      exact report.stopped pair fit

end Members

/-! ## The texts of lists -/

/-- Items that are set apart by commas take a character each, the first one excepted. -/
theorem length_separated (lineBreak : List Char) (texts : List (List Char)) :
    texts.length ≤ (separated lineBreak texts).length + 1 := by
  induction texts with
  | nil => exact Nat.zero_le _
  | cons text others ih =>
    cases others with
    | nil => simp
    | cons second others =>
      simp only [separated, List.length_append, List.length_cons] at ih ⊢
      omega

/-- Each item is no longer than all of them together. -/
theorem length_le_separated (lineBreak : List Char) {text : List Char} {texts : List (List Char)}
    (among : text ∈ texts) : text.length ≤ (separated lineBreak texts).length := by
  induction texts with
  | nil => cases among
  | cons first others ih =>
    rcases List.mem_cons.mp among with rfl | below
    · cases others with
      | nil => simp [separated]
      | cons second others =>
        simp only [separated, List.length_append, List.length_cons]
        omega
    · cases others with
      | nil => cases below
      | cons second others =>
        have inner := ih below
        simp only [separated, List.length_append, List.length_cons] at inner ⊢
        omega

/-- A list that is written between brackets has no more items than characters, and each item has
no more characters than all of it. -/
theorem bracketed_bounds (style : Style) (level : Nat) (opening closing : Char)
    (texts : List (List Char)) :
    texts.length ≤ (bracketed style level opening closing texts).length ∧
      ∀ text ∈ texts, text.length ≤ (bracketed style level opening closing texts).length := by
  cases texts with
  | nil => exact ⟨Nat.zero_le _, fun _ none => by cases none⟩
  | cons first others =>
    have count := length_separated (style.lineBreak (level + 1)) (first :: others)
    constructor
    · simp only [bracketed, List.length_append, List.length_cons, List.length_nil] at count ⊢
      omega
    · intro text among
      have part := length_le_separated (style.lineBreak (level + 1)) among
      simp only [bracketed, List.length_append, List.length_cons, List.length_nil]
      omega

/-! ## Writers -/

/-- A way to write values: parts between brackets in a style that puts only blanks between its
tokens, and the characters of strings and keys in a spelling that is read back. -/
structure IsWriter (style : Style) (spell : Char → List Char) (write : Nat → Json → List Char) :
    Prop where
  /-- The style. -/
  blank : style.Blank
  /-- The spelling. -/
  spells : IsSpelling spell
  /-- A value without parts. -/
  scalar : ∀ level value, write level (.scalar value) = value.spelled spell
  /-- Elements stand one level further in. -/
  array : ∀ level items, write level (.array items) =
    bracketed style level '[' ']' (items.map (write (level + 1)))
  /-- So do members, each behind its key. -/
  object : ∀ level members, write level (.object members) =
    bracketed style level '\x7b' '\x7d' (members.map fun member =>
      '"' :: (member.1.toList.flatMap spell ++ '"' :: (style.colon ++ write (level + 1) member.2)))

end Text

namespace Json

open Text

variable {style : Style}

/-- Elements are written as texts one by one. -/
theorem itemTexts_eq_map (style : Style) (level : Nat) (items : List Json) :
    itemTexts style level items = items.map (text style level) := by
  induction items with
  | nil => rfl
  | cons item rest ih => rw [itemTexts, ih, List.map_cons]

/-- Members are written as texts one by one, each behind its name. -/
theorem memberTexts_eq_map (style : Style) (level : Nat) (members : List (String × Json)) :
    memberTexts style level members =
      members.map fun member => keyed style member.1 (text style level member.2) := by
  induction members with
  | nil => rfl
  | cons member rest ih => rw [memberTexts, ih, List.map_cons]

/-- Values are written in a style with escaped characters. -/
theorem isWriter_text (blank : style.Blank) :
    IsWriter style escaped fun level value => value.text style level where
  blank := blank
  spells := isSpelling_escaped
  scalar level value := value.spelled_escaped.symm
  array level items := by rw [text, itemTexts_eq_map]
  object level members := by
    rw [text, memberTexts_eq_map]
    simp [keyed, quoted]

end Json

namespace Text

variable {ε α : Type} {reading : Reading ε α}

/-- Blanks in front of a value are skipped. -/
theorem readValue_append (fuel limit : Nat) {blanks : List Char} (all : blanks.all isBlank)
    (text : List Char) : readValue fuel limit (blanks ++ text) = readValue fuel limit text := by
  cases limit <;> rw [readValue, readValue, skipBlanks_append all]

/-- Behind the nesting limit an opening bracket is a fault. -/
theorem readValue_limit (fuel : Nat) {opening : Char} (opens : opening = '[' ∨ opening = '\x7b')
    (style : Style) (level : Nat) (closing : Char) (texts : List (List Char)) (rest : List Char) :
    ∃ place, readValue fuel 0 (bracketed style level opening closing texts ++ rest) =
      .broken ⟨.nestingLimit, place⟩ := by
  obtain ⟨inner, text⟩ : ∃ inner, bracketed style level opening closing texts =
      opening :: inner := by cases texts <;> exact ⟨_, rfl⟩
  have mark : isBlank opening = false := by rcases opens with rfl | rfl <;> decide
  rw [text, List.cons_append]
  exact ⟨_, by simp [readValue, skipBlanks_of_not mark, readStarted, opens]; rfl⟩

/-- An opening bracket within the limit starts an array. -/
theorem readValue_array (fuel limit : Nat) (rest : List Char) :
    readValue fuel (limit + 1) ('[' :: rest) =
      readArray (readValue fuel limit) fuel ('[' :: rest) rest := by
  simp [readValue, skipBlanks_of_not (show isBlank '[' = false by decide), readStarted]

/-- An opening brace within the limit starts an object. -/
theorem readValue_object (fuel limit : Nat) (rest : List Char) :
    readValue fuel (limit + 1) ('\x7b' :: rest) =
      readObject (readValue fuel limit) fuel ('\x7b' :: rest) rest := by
  simp [readValue, skipBlanks_of_not (show isBlank '\x7b' = false by decide), readStarted]

/-- An array that does not close at once has elements. -/
theorem readArray_started (readValue : List Char → Tree) (fuel : Nat) (start : List Char)
    {text next : List Char} (skipped : skipBlanks text = next) (starts : Starts next) :
    readArray readValue fuel start text =
      .array start (readItems readValue fuel next).1 (readItems readValue fuel next).2 := by
  obtain ⟨c, others, rfl, _, other⟩ := starts
  simp [readArray, skipped, other]

/-- An object that opens with a quote has members. -/
theorem readObject_started (readValue : List Char → Tree) (fuel : Nat) (start : List Char)
    {text next : List Char} (skipped : skipBlanks text = '"' :: next) :
    readObject readValue fuel start text =
      .object start (readMembers readValue fuel next).1 (readMembers readValue fuel next).2 := by
  simp [readObject, skipped]

variable {style : Style} {spell : Char → List Char} {write : Nat → Json → List Char}
  {fuel limit level : Nat}

/-- What a writer writes opens with a character that starts a value. -/
theorem IsWriter.starts (writes : IsWriter style spell write) {value : Json}
    (scalars : value.EachScalar Scalar.ReadsBack) (level : Nat) : Starts (write level value) := by
  cases scalars with
  | @scalar value reads =>
    rw [writes.scalar]
    exact Scalar.spelled_starts spell reads
  | @array items =>
    rw [writes.array]
    cases items with
    | nil => exact ⟨'[', _, rfl, by decide, by decide⟩
    | cons first others => exact ⟨'[', _, rfl, by decide, by decide⟩
  | @object members =>
    rw [writes.object]
    cases members with
    | nil => exact ⟨'\x7b', _, rfl, by decide, by decide⟩
    | cons first others => exact ⟨'\x7b', _, rfl, by decide, by decide⟩

/-- A written array is reported when each of its elements is, one level further in. -/
theorem Report.writtenArray (writes : IsWriter style spell write) {items : List Json}
    (scalars : ∀ item ∈ items, item.EachScalar Scalar.ReadsBack)
    (each : ∀ item ∈ items, (write (level + 1) item).length ≤ fuel →
      Reports reading (readValue fuel limit) (write (level + 1)) limit item)
    (enough : (write level (.array items)).length ≤ fuel) {meanings : List α}
    (meant : reading.ofItems 0 items = .ok meanings) (rest : List Char) :
    let tree := readValue fuel (limit + 1) (write level (.array items) ++ rest)
    Report (Json.itemsDepth items ≤ limit) (reading.array meanings) rest (tree.interpret reading)
      tree.outcome := by
  intro tree
  have blank := writes.blank
  rw [writes.array] at enough
  obtain ⟨count, parts⟩ :=
    bracketed_bounds style level '[' ']' (items.map (write (level + 1)))
  cases items with
  | nil =>
    have text : write level (.array []) ++ rest = '[' :: ']' :: rest := by
      rw [writes.array]
      rfl
    have read : tree = .array ('[' :: ']' :: rest) [] (.ok rest) := by
      have read := readValue_array fuel limit (']' :: rest)
      rw [readArray, skipBlanks_of_not (by decide)] at read
      exact (congrArg (readValue fuel (limit + 1)) text).trans read
    cases meant
    rw [read]
    exact Report.array ⟨fun _ => ⟨rfl, rfl⟩, fun deep => absurd (Nat.zero_le limit) deep⟩
  | cons first others =>
    have text : write level (.array (first :: others)) ++ rest =
        '[' :: (style.lineBreak (level + 1) ++ (write (level + 1) first ++
          following (style.lineBreak (level + 1)) (others.map (write (level + 1)))
            (style.lineBreak level ++ ']' :: rest))) := by
      rw [← separated_cons, writes.array]
      simp [bracketed]
    have next := (writes.starts (scalars first List.mem_cons_self) (level + 1)).append
      (following (style.lineBreak (level + 1)) (others.map (write (level + 1)))
        (style.lineBreak level ++ ']' :: rest))
    have skipped := (skipBlanks_append (blank.lineBreak (level + 1)) _).trans next.skipBlanks
    have read : tree = _ := (congrArg (readValue fuel (limit + 1)) text).trans
      ((readValue_array fuel limit _).trans (readArray_started _ fuel _ skipped next))
    rw [read]
    refine Report.array (Report.items (blank.lineBreak _) (blank.lineBreak _) ?_ ?_ ?_ meant)
    · intro item among
      exact each item among (Nat.le_trans (parts _ (List.mem_map_of_mem among)) enough)
    · intro item among
      exact writes.starts (scalars item (List.mem_cons_of_mem _ among)) (level + 1)
    · rw [List.length_map] at count
      exact Nat.le_trans count enough

/-- A written object is reported when each of its members is, one level further in. -/
theorem Report.writtenObject (writes : IsWriter style spell write) {members : List (String × Json)}
    (each : ∀ member ∈ members, (write (level + 1) member.2).length ≤ fuel →
      Reports reading (readValue fuel limit) (write (level + 1)) limit member.2)
    (enough : (write level (.object members)).length ≤ fuel)
    {meanings : List (String × α)} (meant : reading.ofMembers members = .ok meanings)
    (rest : List Char) :
    let tree := readValue fuel (limit + 1) (write level (.object members) ++ rest)
    Report (Json.membersDepth members ≤ limit) (reading.object meanings) rest
      (tree.interpret reading) tree.outcome := by
  intro tree
  have blank := writes.blank
  obtain ⟨gap, colon, gapBlank⟩ := blank.colon
  -- A key ends in its colon, so the blanks behind the colon are written with the value.
  let writeBehind (value : Json) : List Char := gap ++ write (level + 1) value
  have object (members : List (String × Json)) : write level (.object members) =
      bracketed style level '\x7b' '\x7d' (members.map fun member =>
        '"' :: keyBody spell member.1 (writeBehind member.2)) := by
    rw [writes.object, colon]
    rfl
  rw [object] at enough
  obtain ⟨count, parts⟩ := bracketed_bounds style level '\x7b' '\x7d'
    (members.map fun member => '"' :: keyBody spell member.1 (writeBehind member.2))
  cases members with
  | nil =>
    have text : write level (.object []) ++ rest = '\x7b' :: '\x7d' :: rest := by
      rw [object]
      rfl
    have read : tree = .object ('\x7b' :: '\x7d' :: rest) [] (.closed rest) := by
      have read := readValue_object fuel limit ('\x7d' :: rest)
      rw [readObject, skipBlanks_of_not (by decide)] at read
      exact (congrArg (readValue fuel (limit + 1)) text).trans read
    cases meant
    rw [read]
    exact Report.object ⟨fun _ => ⟨rfl, rfl⟩, fun deep => absurd (Nat.zero_le limit) deep⟩
  | cons first others =>
    let behind := following (style.lineBreak (level + 1))
      (others.map fun member => '"' :: keyBody spell member.1 (writeBehind member.2))
      (style.lineBreak level ++ '\x7d' :: rest)
    have text : write level (.object (first :: others)) ++ rest =
        '\x7b' :: (style.lineBreak (level + 1) ++
          ('"' :: keyBody spell first.1 (writeBehind first.2 ++ behind))) := by
      have body : '"' :: keyBody spell first.1 (writeBehind first.2 ++ behind) =
          '"' :: keyBody spell first.1 (writeBehind first.2) ++ behind := by
        simp [keyBody]
      rw [body, ← separated_cons, object]
      simp [bracketed]
    have skipped := (skipBlanks_append (blank.lineBreak (level + 1)) _).trans
      (skipBlanks_of_not (show isBlank '"' = false by decide)
        (keyBody spell first.1 (writeBehind first.2 ++ behind)))
    have read : tree = _ := (congrArg (readValue fuel (limit + 1)) text).trans
      ((readValue_object fuel limit _).trans (readObject_started _ fuel _ skipped))
    rw [read]
    refine Report.object
      (Report.members writes.spells (blank.lineBreak _) (blank.lineBreak _) ?_ ?_ meant)
    · intro member among meaning rest here ends
      have part := parts _ (List.mem_map_of_mem among)
      rw [List.length_cons, keyBody, List.length_append, List.length_cons, List.length_cons,
        List.length_append] at part
      rw [List.append_assoc, readValue_append fuel limit gapBlank]
      exact each member among (by omega) meaning rest here ends
    · rw [List.length_map] at count
      exact Nat.le_trans count enough

/-- A written value is reported with the meaning of the value, if it fits the nesting limit. -/
theorem reports_readValue (writes : IsWriter style spell write) {value : Json}
    (scalars : value.EachScalar Scalar.ReadsBack) {fuel level : Nat}
    (enough : (write level value).length ≤ fuel) (limit : Nat) :
    Reports reading (readValue fuel limit) (write level) limit value := by
  -- The fuel stays: it bounds the length of every list, not the depth.
  induction scalars generalizing limit level with
  | @scalar value reads =>
    intro meaning rest meant ends
    have read : readValue fuel limit (write level (.scalar value) ++ rest) = .leaf value rest := by
      rw [writes.scalar]
      exact readValue_scalar writes.spells reads fuel limit ends
    have here : reading.scalar value = .ok meaning := mapError_eq_ok.mp meant
    rw [read, Tree.interpret, here]
    exact ⟨fun _ => ⟨rfl, rfl⟩, fun deep => absurd (Nat.zero_le limit) deep⟩
  | @array items scalars ih =>
    intro meaning rest meant _
    rw [Reading.ofJson] at meant
    obtain ⟨meanings, parts, made⟩ := bind_eq_ok.mp meant
    cases made
    cases limit with
    | zero =>
      obtain ⟨place, read⟩ := readValue_limit fuel (.inl rfl) style level ']'
        (items.map (write (level + 1))) rest
      rw [writes.array, read]
      exact Report.broken (Nat.not_succ_le_zero _)
    | succ limit =>
      rw [Json.depth, Nat.succ_le_succ_iff]
      exact Report.writtenArray writes scalars (fun item among enough => ih item among enough limit)
        enough parts rest
  | @object members scalars ih =>
    intro meaning rest meant _
    rw [Reading.ofJson] at meant
    obtain ⟨meanings, parts, made⟩ := bind_eq_ok.mp meant
    cases made
    cases limit with
    | zero =>
      obtain ⟨place, read⟩ := readValue_limit fuel (.inr rfl) style level '\x7d'
        (members.map fun member => '"' :: (member.1.toList.flatMap spell ++
          '"' :: (style.colon ++ write (level + 1) member.2))) rest
      rw [writes.object, read]
      exact Report.broken (Nat.not_succ_le_zero _)
    | succ limit =>
      rw [Json.depth, Nat.succ_le_succ_iff]
      exact Report.writtenObject writes
        (fun member among enough => ih member among enough limit) enough parts rest

/-! ## Whole texts -/

/-- A text has a meaning when its tree has one and nothing but blanks follows the value. -/
theorem Reading.ofText_eq_ok_iff {text : List Char} {meaning : α} :
    reading.ofText text = .ok meaning ↔
      (Tree.ofText text).interpret reading = .ok meaning ∧
        (Tree.ofText text).outcome >>= endText = .ok () := by
  rw [Reading.ofText]
  cases found : (Tree.ofText text).interpret reading with
  | error rejection => simp [bind, Except.bind]
  | ok other =>
    cases (Tree.ofText text).outcome >>= endText <;> simp [bind, Except.bind, rejectFault]

/-- A text is rejected for what its tree is rejected for. -/
theorem Reading.ofText_of_error {text : List Char} {rejection : Rejection ε}
    (rejected : (Tree.ofText text).interpret reading = .error rejection) :
    reading.ofText text = .error rejection := by
  rw [Reading.ofText, rejected]
  rfl

/-- A written value with blanks behind it is reported as the whole text. -/
theorem report_ofText (writes : IsWriter style spell write) {value : Json}
    (scalars : value.EachScalar Scalar.ReadsBack) {meaning : α}
    (meant : reading.ofJson value = .ok meaning) {blanks : List Char}
    (all : blanks.all isBlank) :
    let tree := Tree.ofText (write 0 value ++ blanks)
    Report (value.depth ≤ nestingLimit) meaning blanks (tree.interpret reading) tree.outcome := by
  have enough : (write 0 value).length ≤ (write 0 value ++ blanks).length := by
    rw [List.length_append]
    omega
  have ends : Ends (blanks ++ []) := .append all .nil
  rw [List.append_nil] at ends
  exact reports_readValue writes scalars enough nestingLimit meaning blanks meant ends

/-- What a writer writes of a value within the nesting limit, with blanks behind it, is a text of
the value's meaning. -/
theorem Reading.ofText_written (writes : IsWriter style spell write) {value : Json}
    (scalars : value.EachScalar Scalar.ReadsBack) {meaning : α}
    (meant : reading.ofJson value = .ok meaning) (fits : value.depth ≤ nestingLimit)
    {blanks : List Char} (all : blanks.all isBlank) :
    reading.ofText (write 0 value ++ blanks) = .ok meaning := by
  obtain ⟨found, ended⟩ := (report_ofText writes scalars meant all).within fits
  rw [Reading.ofText_eq_ok_iff, found, ended]
  exact ⟨rfl, endText_blanks all⟩

/-- A written value within the nesting limit, with blanks behind it, is a text of its meaning. -/
theorem Reading.ofText_text (blank : style.Blank) {value : Json}
    (scalars : value.EachScalar Scalar.ReadsBack) {meaning : α}
    (meant : reading.ofJson value = .ok meaning) (fits : value.depth ≤ nestingLimit)
    {blanks : List Char} (all : blanks.all isBlank) :
    reading.ofText (value.text style 0 ++ blanks) = .ok meaning :=
  Reading.ofText_written (Json.isWriter_text blank) scalars meant fits all

/-- A written value past the nesting limit is rejected for it. -/
theorem Reading.ofText_tooDeep (blank : style.Blank) {value : Json}
    (scalars : value.EachScalar Scalar.ReadsBack) {meaning : α}
    (meant : reading.ofJson value = .ok meaning) (deep : nestingLimit < value.depth)
    {blanks : List Char} (all : blanks.all isBlank) :
    ∃ trail place, reading.ofText (value.text style 0 ++ blanks) =
      .error ⟨trail, .fault .nestingLimit, place⟩ := by
  obtain ⟨trail, place, found, _⟩ := (report_ofText (Json.isWriter_text blank) scalars meant
    all).beyond (Nat.not_le_of_gt deep)
  exact ⟨trail, place, Reading.ofText_of_error found⟩

end Text

end JsonShape
