import JsonShape.Proofs.TreeLeaves
import Mathlib.Data.List.Induction

/-!
# Where leaves stand in a text

A reader leaves a tail of its text behind, so the text behind a value is a tail of the whole text.
Every leaf of a text stands there as a token of its own, and the place behind the leaf is that of
the token's last byte, with lines and columns counted from one.
-/
namespace JsonShape.Text

/-! ## What readers leave behind -/

/-- Without its blanks a text is a tail of it. -/
theorem skipBlanks_suffix (text : List Char) : skipBlanks text <:+ text :=
  List.dropWhile_suffix isBlank

section Strings

variable {text rest : List Char} {c : Char}

/-- Behind four hexadecimal digits is a tail of the text. -/
theorem readFourHex_suffix {value : Nat} (read : readFourHex text = .ok (value, rest)) :
    rest <:+ text := by
  unfold readFourHex at read
  split at read
  · next found some? =>
    cases read
    unfold fourHex? at some?
    split at some?
    · next a b c d others =>
      simp only [Option.bind_eq_bind, Option.bind_eq_some_iff, pure, Option.some.injEq,
        Prod.mk.injEq] at some?
      obtain ⟨_, _, _, _, _, _, _, _, _, rfl⟩ := some?
      exact ⟨[a, b, c, d], rfl⟩
    · cases some?
  · split at read <;> cases read

/-- Behind the second half of a surrogate pair is a tail of the text. -/
theorem readTrailing_suffix {leading : Nat}
    (read : readTrailing leading text = .ok (c, rest)) : rest <:+ text := by
  unfold readTrailing at read
  split at read
  · cases read
  · cases read
  · next digits =>
    obtain ⟨⟨trailing, behind⟩, four, read⟩ := bind_eq_ok.mp read
    have tail := readFourHex_suffix four
    simp only at read
    split at read
    · obtain ⟨_, rfl⟩ := Prod.mk.inj (Except.ok.inj read)
      exact tail.trans ⟨['\\', 'u'], rfl⟩
    · cases read
  · cases read
  · cases read

/-- Behind an escaped code point is a tail of the text. -/
theorem readUnicode_suffix (read : readUnicode text = .ok (c, rest)) : rest <:+ text := by
  obtain ⟨⟨unit, behind⟩, four, read⟩ := bind_eq_ok.mp read
  have tail := readFourHex_suffix four
  simp only at read
  split at read
  · cases read
  · split at read
    · exact (readTrailing_suffix read).trans tail
    · obtain ⟨_, rfl⟩ := Prod.mk.inj (Except.ok.inj read)
      exact tail

/-- Behind any escape is a tail of the text. -/
theorem readEscape_suffix (read : readEscape text = .ok (c, rest)) : rest <:+ text := by
  cases text with
  | nil => cases read
  | cons letter others =>
    have tail : others <:+ letter :: others := List.suffix_cons letter others
    by_cases unicode : letter = 'u'
    · subst unicode
      exact (readUnicode_suffix read).trans tail
    · simp only [readEscape, unicode, ↓reduceIte] at read
      split_ifs at read
      case neg => cases read
      all_goals
        obtain ⟨_, rfl⟩ := Prod.mk.inj (Except.ok.inj read)
        exact tail

/-- Behind the closing quote of some characters is a tail of the text. -/
theorem readCharacters_suffix {fuel : Nat} {characters : List Char}
    (read : readCharacters fuel text = .ok (characters, rest)) : rest <:+ text := by
  induction fuel generalizing text characters rest with
  | zero => cases read
  | succ fuel ih =>
    cases text with
    | nil => cases read
    | cons c others =>
      have tail : others <:+ c :: others := List.suffix_cons c others
      rw [readCharacters] at read
      split_ifs at read with quote backslash control
      · obtain ⟨_, rfl⟩ := Prod.mk.inj (Except.ok.inj read)
        exact tail
      · obtain ⟨⟨first, behind⟩, escape, read⟩ := bind_eq_ok.mp read
        obtain ⟨⟨more, last⟩, further, made⟩ := bind_eq_ok.mp read
        obtain ⟨_, rfl⟩ := Prod.mk.inj (Except.ok.inj made)
        exact (ih further).trans ((readEscape_suffix escape).trans tail)
      · cases read
      · obtain ⟨⟨more, last⟩, further, made⟩ := bind_eq_ok.mp read
        obtain ⟨_, rfl⟩ := Prod.mk.inj (Except.ok.inj made)
        exact (ih further).trans tail

/-- Behind a string is a tail of the text. -/
theorem readString_suffix {value : String} (read : readString text = .ok (value, rest)) :
    rest <:+ text := by
  obtain ⟨⟨characters, behind⟩, found, made⟩ := bind_eq_ok.mp read
  obtain ⟨_, rfl⟩ := Prod.mk.inj (Except.ok.inj made)
  exact readCharacters_suffix found

end Strings

section Numbers

variable {text rest : List Char}

/-- At least one digit is read. -/
theorem readDigits_suffix {digits : List Char} (read : readDigits text = .ok (digits, rest)) :
    rest <:+ text.tail := by
  cases text with
  | nil => cases read
  | cons c others =>
    rw [readDigits] at read
    split at read
    · obtain ⟨_, rfl⟩ := Prod.mk.inj (Except.ok.inj read)
      exact List.dropWhile_suffix isDigit
    · cases read

/-- A whole part takes a character of the text at least. -/
theorem readWhole_suffix {digits : List Char} (read : readWhole text = .ok (digits, rest)) :
    rest <:+ text.tail := by
  unfold readWhole at read
  split at read
  · next c others =>
    split at read
    · cases read
    · obtain ⟨_, rfl⟩ := Prod.mk.inj (Except.ok.inj read)
      exact List.suffix_rfl
  · exact readDigits_suffix read

/-- Behind a fraction is a tail of the text. -/
theorem readFraction_suffix {digits : Option (List Char)}
    (read : readFraction text = .ok (digits, rest)) : rest <:+ text := by
  unfold readFraction at read
  split at read
  · next others =>
    obtain ⟨⟨found, behind⟩, digits?, made⟩ := bind_eq_ok.mp read
    obtain ⟨_, rfl⟩ := Prod.mk.inj (Except.ok.inj made)
    exact ((readDigits_suffix digits?).trans (List.tail_suffix others)).trans
      (List.suffix_cons '.' others)
  · obtain ⟨_, rfl⟩ := Prod.mk.inj (Except.ok.inj read)
    exact List.suffix_rfl

/-- Behind an exponent is a tail of the text. -/
theorem readExponent_suffix {exponent : Option Exponent}
    (read : readExponent text = .ok (exponent, rest)) : rest <:+ text := by
  cases text with
  | nil =>
    obtain ⟨_, rfl⟩ := Prod.mk.inj (Except.ok.inj read)
    exact List.suffix_rfl
  | cons c others =>
    unfold readExponent at read
    simp only at read
    split at read
    · obtain ⟨⟨found, behind⟩, digits?, made⟩ := bind_eq_ok.mp read
      obtain ⟨_, rfl⟩ := Prod.mk.inj (Except.ok.inj made)
      refine ((readDigits_suffix digits?).trans (List.tail_suffix _)).trans ?_
      -- The exponent may have a sign before its digits.
      split
      · next digits => exact ⟨[c, '+'], rfl⟩
      · next digits => exact ⟨[c, '-'], rfl⟩
      · exact List.suffix_cons c others
    · obtain ⟨_, rfl⟩ := Prod.mk.inj (Except.ok.inj read)
      exact List.suffix_rfl

/-- A numeral takes a character of the text at least. -/
theorem readNumeral_suffix {negative : Bool} {numeral : Numeral}
    (read : readNumeral negative text = .ok (numeral, rest)) : rest <:+ text.tail := by
  obtain ⟨⟨whole, behindWhole⟩, whole?, read⟩ := bind_eq_ok.mp read
  obtain ⟨⟨fraction, behindFraction⟩, fraction?, read⟩ := bind_eq_ok.mp read
  obtain ⟨⟨exponent, behind⟩, exponent?, made⟩ := bind_eq_ok.mp read
  obtain ⟨_, rfl⟩ := Prod.mk.inj (Except.ok.inj made)
  have tail := (readFraction_suffix fraction?).trans (readWhole_suffix whole?)
  exact (readExponent_suffix exponent?).trans tail

/-- So does a number. -/
theorem readNumber_suffix {value : Number} (read : readNumber text = .ok (value, rest)) :
    rest <:+ text.tail := by
  have unsigned (negative : Bool) (digits : List Char)
      (found : (do
        let numeral ← readNumeral negative digits
        let number ← numeral.1.number numeral.2
        return (number, numeral.2)) = .ok (value, rest)) : rest <:+ digits.tail := by
    obtain ⟨⟨numeral, behind⟩, numeral?, found⟩ := bind_eq_ok.mp found
    obtain ⟨number, _, made⟩ := bind_eq_ok.mp found
    obtain ⟨_, rfl⟩ := Prod.mk.inj (Except.ok.inj made)
    exact readNumeral_suffix numeral?
  unfold readNumber at read
  split at read
  · next digits => exact (unsigned true digits read).trans (List.tail_suffix digits)
  · exact unsigned false text read

end Numbers

/-- A literal word is faulty, or its value with the text behind it. -/
theorem readWord_suffix (value : Scalar) (word text : List Char) :
    (∃ found, readWord value word text = .broken found) ∨
      ∃ after, after <:+ text ∧ readWord value word text = .leaf value after := by
  induction word generalizing text with
  | nil => exact .inr ⟨text, List.suffix_rfl, by cases text <;> rfl⟩
  | cons letter word ih =>
    cases text with
    | nil => exact .inl ⟨_, rfl⟩
    | cons c others =>
      rw [readWord]
      split
      · rcases ih others with broken | ⟨after, tail, leaf⟩
        · exact .inl broken
        · exact .inr ⟨after, tail.trans (List.suffix_cons c others), leaf⟩
      · exact .inl ⟨_, rfl⟩

/-! ## Leaves in a text -/

/-- The text of a leaf: it starts with no blank, and in front of what is behind the leaf it is read
as the leaf and no further. -/
structure Leaf.Token (leaf : Leaf) (token : List Char) : Prop where
  /-- No blank comes first. -/
  starts : ∃ c rest, token = c :: rest ∧ isBlank c = false
  /-- It is read as the leaf. -/
  read : Tree.ofText (token ++ leaf.after) = .leaf leaf.value leaf.after

/-- A text ends in the token of a leaf and what is behind the leaf. -/
def Leaf.Within (leaf : Leaf) (text : List Char) : Prop :=
  ∃ token, leaf.Token token ∧ token ++ leaf.after <:+ text

/-- A leaf in a tail of a text is in the text. -/
theorem Leaf.Within.of_suffix {leaf : Leaf} {text whole : List Char} (within : leaf.Within text)
    (tail : text <:+ whole) : leaf.Within whole := by
  obtain ⟨token, spelled, there⟩ := within
  exact ⟨token, spelled, there.trans tail⟩

/-- A leaf stands where it stands, whatever steps lead to it. -/
theorem Leaf.Within.under {leaf : Leaf} {text : List Char} (within : leaf.Within text)
    (step : Step) : (leaf.under step).Within text := by
  obtain ⟨token, ⟨starts, read⟩, there⟩ := within
  exact ⟨token, ⟨starts, read⟩, there⟩

/-- What was read of a text is a tail of it, or a fault, and the leaves stand in the text. -/
structure Tree.ReadFrom (tree : Tree) (text : List Char) : Prop where
  /-- The text behind the value. -/
  behind : ∀ after, tree.outcome = .ok after → after <:+ text
  /-- The leaves. -/
  leaves : ∀ leaf ∈ tree.leaves, leaf.Within text

/-- What was read of a tail of a text was read of the text. -/
theorem Tree.ReadFrom.of_suffix {tree : Tree} {text whole : List Char} (read : tree.ReadFrom text)
    (tail : text <:+ whole) : tree.ReadFrom whole :=
  ⟨fun after ended => (read.behind after ended).trans tail,
    fun leaf there => (read.leaves leaf there).of_suffix tail⟩

/-- The same of the parts of an array or an object and its end. -/
structure PartsFrom (parts : List Tree) (ending : Except FaultAt (List Char)) (text : List Char) :
    Prop where
  /-- The text behind the closing bracket. -/
  behind : ∀ after, ending = .ok after → after <:+ text
  /-- The leaves of the parts. -/
  leaves : ∀ part ∈ parts, ∀ leaf ∈ part.leaves, leaf.Within text

namespace PartsFrom

variable {part : Tree} {parts : List Tree} {ending : Except FaultAt (List Char)}
variable {text next : List Char}

/-- A fault in front of all parts leaves nothing to find in the text. -/
theorem broken (found : FaultAt) : PartsFrom [] (.error found) text := by
  constructor
  · intro after none
    cases none
  · intro part none
    cases none

/-- Where nothing but the end was read, only a tail of the text is left. -/
theorem closed (tail : next <:+ text) : PartsFrom [] (.ok next) text := by
  constructor
  · intro after same
    cases same
    exact tail
  · intro part none
    cases none

/-- A part in front of others. -/
theorem cons (here : part.ReadFrom text) (others : PartsFrom parts ending next)
    (tail : next <:+ text) : PartsFrom (part :: parts) ending text := by
  constructor
  · exact fun after ended => (others.behind after ended).trans tail
  · rw [List.forall_mem_cons]
    exact ⟨here.leaves, fun part among leaf there =>
      (others.leaves part among leaf there).of_suffix tail⟩

/-- A part with nothing behind it but the end. -/
theorem last (here : part.ReadFrom text) (behind : ∀ after, ending = .ok after → after <:+ text) :
    PartsFrom [part] ending text :=
  ⟨behind, List.forall_mem_singleton.mpr here.leaves⟩

/-- The same of a text that ends in what was read. -/
theorem of_suffix (found : PartsFrom parts ending next) (tail : next <:+ text) :
    PartsFrom parts ending text := by
  constructor
  · exact fun after ended => (found.behind after ended).trans tail
  · exact fun part among leaf there => (found.leaves part among leaf there).of_suffix tail

/-- An array was read of a text if its elements and its end were. -/
theorem array {start : List Char} (found : PartsFrom parts ending text) :
    (Tree.array start parts ending).ReadFrom text := by
  refine ⟨found.behind, ?_⟩
  show ∀ leaf ∈ itemsLeaves 0 parts, leaf.Within text
  have each := found.leaves
  clear found
  generalize 0 = index
  induction parts generalizing index with
  | nil =>
    intro leaf none
    cases none
  | cons part rest ih =>
    obtain ⟨first, others⟩ := List.forall_mem_cons.mp each
    rw [itemsLeaves, List.forall_mem_append, List.forall_mem_map]
    exact ⟨fun leaf there => (first leaf there).under _, ih others (index + 1)⟩

/-- An object was read of a text if its members and its end were. -/
theorem object {start : List Char} {members : List (Key × Tree)} {ending : ObjectEnd}
    (found : PartsFrom (members.map Prod.snd) ending.outcome text) :
    (Tree.object start members ending).ReadFrom text := by
  refine ⟨found.behind, ?_⟩
  show ∀ leaf ∈ membersLeaves members, leaf.Within text
  have each := found.leaves
  clear found
  induction members with
  | nil =>
    intro leaf none
    cases none
  | cons member rest ih =>
    obtain ⟨first, others⟩ := List.forall_mem_cons.mp each
    rw [membersLeaves, List.forall_mem_append, List.forall_mem_map]
    exact ⟨fun leaf there => (first leaf there).under _, ih others⟩

end PartsFrom

/-- A fault can be read of any text. -/
theorem Tree.readFrom_broken (found : FaultAt) (text : List Char) :
    (Tree.broken found).ReadFrom text := by
  constructor
  · intro after none
    cases none
  · intro leaf none
    cases none

/-- What is left behind blanks starts with none. -/
theorem isBlank_of_skipBlanks {text rest : List Char} {c : Char}
    (found : skipBlanks text = c :: rest) : isBlank c = false := by
  have first := List.head?_dropWhile_not isBlank text
  rw [← skipBlanks, found] at first
  exact first

section Sequences

variable {readValue : List Char → Tree} {text : List Char}

/-- What is left behind the blanks of a tail is a tail too. -/
theorem suffix_of_skipBlanks {rest others : List Char} {c : Char} (tail : rest <:+ text)
    (found : skipBlanks rest = c :: others) : c :: others <:+ text ∧ others <:+ text := by
  have whole : c :: others <:+ text := by
    rw [← found]
    exact (skipBlanks_suffix rest).trans tail
  exact ⟨whole, (List.suffix_cons c others).trans whole⟩

/-- Elements are read of the text they are read from, if each of them is. -/
theorem readItems_from (each : ∀ text, (readValue text).ReadFrom text) (fuel : Nat) :
    PartsFrom (readItems readValue fuel text).1 (readItems readValue fuel text).2 text := by
  induction fuel generalizing text with
  | zero => exact .broken _
  | succ fuel ih =>
    have here := each text
    have faulty (found : FaultAt) : PartsFrom [readValue text] (.error found) text :=
      .last here fun _ none => by cases none
    rw [readItems]
    dsimp only
    split
    · exact faulty _
    · next rest ended =>
      -- What follows the element is a tail of the text, so what is read of it stands in the text.
      have tail : rest <:+ text := here.behind rest ended
      split
      · exact faulty _
      · next c others found =>
        have behind : others <:+ text := (suffix_of_skipBlanks tail found).2
        split_ifs with closing comma
        · exact .last here fun after same => Except.ok.inj same ▸ behind
        · split
          · exact faulty _
          · exact faulty _
          · exact .cons here ih ((skipBlanks_suffix others).trans behind)
        · exact faulty _

/-- So are members. -/
theorem readMembers_from (each : ∀ text, (readValue text).ReadFrom text) (fuel : Nat) :
    PartsFrom ((readMembers readValue fuel text).1.map Prod.snd)
      (readMembers readValue fuel text).2.outcome text := by
  induction fuel generalizing text with
  | zero => exact .broken _
  | succ fuel ih =>
    rw [readMembers]
    split
    · exact .broken _
    · next name after read =>
      dsimp only
      split
      · exact .broken _
      · next c start found =>
        -- Keys are no leaves: all that counts is read of the text behind the colon.
        have below : start <:+ text := (suffix_of_skipBlanks (readString_suffix read) found).2
        refine PartsFrom.of_suffix ?_ below
        have here := each start
        have faulty (found : FaultAt) : PartsFrom [readValue start] (.error found) start :=
          .last here fun _ none => by cases none
        split_ifs with colon
        · split
          · exact faulty _
          · next rest ended =>
            have tail : rest <:+ start := here.behind rest ended
            split
            · exact faulty _
            · next c others found =>
              have behind : others <:+ start := (suffix_of_skipBlanks tail found).2
              split_ifs with closing comma
              · exact .last here fun after same => Except.ok.inj same ▸ behind
              · split
                · exact faulty _
                · next c others found =>
                  have behind : others <:+ start := (suffix_of_skipBlanks behind found).2
                  split_ifs with quote closing
                  · exact .cons here ih behind
                  · exact faulty _
                  · exact faulty _
              · exact faulty _
        · exact .broken _

/-- An array is read of the text behind its bracket. -/
theorem readArray_from (each : ∀ text, (readValue text).ReadFrom text) (fuel : Nat)
    (start : List Char) : (readArray readValue fuel start text).ReadFrom text := by
  rw [readArray.eq_def]
  split
  · exact PartsFrom.array (.broken _)
  · next rest found =>
    exact PartsFrom.array (.closed (suffix_of_skipBlanks List.suffix_rfl found).2)
  · exact PartsFrom.array ((readItems_from each fuel).of_suffix (skipBlanks_suffix text))

/-- An object is read of the text behind its brace. -/
theorem readObject_from (each : ∀ text, (readValue text).ReadFrom text) (fuel : Nat)
    (start : List Char) : (readObject readValue fuel start text).ReadFrom text := by
  rw [readObject]
  split
  · exact PartsFrom.object (.broken _)
  · next c rest found =>
    have behind : rest <:+ text := (suffix_of_skipBlanks List.suffix_rfl found).2
    split_ifs with closing quote
    · exact PartsFrom.object (.closed behind)
    · exact PartsFrom.object ((readMembers_from each fuel).of_suffix behind)
    · exact PartsFrom.object (.broken _)

end Sequences

/-! ## Values in a text -/

section Started

variable {fuel : Nat} {inner : Option (List Char → Tree)} {c : Char} {rest : List Char}

/-- What starts with neither a bracket nor a brace is a token, read alike at any nesting. -/
theorem readStarted_token (other : ¬ (c = '[' ∨ c = '\x7b')) :
    (∃ found, readStarted fuel inner c rest = .broken found) ∨
      ∃ value after, after <:+ rest ∧
        ∀ fuel inner, readStarted fuel inner c rest = .leaf value after := by
  have word (value : Scalar) (letters : List Char) :
      (∃ found, readWord value letters rest = .broken found) ∨
        ∃ found after, after <:+ rest ∧ readWord value letters rest = .leaf found after :=
    (readWord_suffix value letters rest).imp_right fun read => ⟨value, read⟩
  simp only [readStarted, other, ↓reduceIte, forall_const]
  split_ifs with quote n t f number
  · cases read : readString rest with
    | error found => exact .inl ⟨found, rfl⟩
    | ok string => exact .inr ⟨.string string.1, string.2, readString_suffix read, rfl⟩
  · exact word .null _
  · exact word (.bool true) _
  · exact word (.bool false) _
  · cases read : readNumber (c :: rest) with
    | error found => exact .inl ⟨found, rfl⟩
    | ok number => exact .inr ⟨.number number.1, number.2, readNumber_suffix read, rfl⟩
  · exact .inl ⟨_, rfl⟩

/-- A token that is read as a leaf stands in the text that it starts. -/
theorem Tree.readFrom_leaf {value : Scalar} {after : List Char} (mark : isBlank c = false)
    (tail : after <:+ rest)
    (read : ∀ fuel inner, readStarted fuel inner c rest = .leaf value after) :
    (Tree.leaf value after).ReadFrom (c :: rest) := by
  obtain ⟨token, rfl⟩ := tail
  have whole : Tree.ofText (c :: token ++ after) = .leaf value after := by
    obtain ⟨inner, started⟩ :=
      readValue_cons (c :: token ++ after).length nestingLimit mark (token ++ after)
    exact started.trans (read _ inner)
  constructor
  · intro behind same
    cases same
    exact ⟨c :: token, rfl⟩
  · intro leaf among
    obtain rfl := List.mem_singleton.mp among
    exact ⟨c :: token, ⟨⟨c, token, rfl, mark⟩, whole⟩, List.suffix_rfl⟩

/-- A value is read of the text that its first character opens. -/
theorem readStarted_from (mark : isBlank c = false)
    (each : ∀ readValue ∈ inner, ∀ text, (readValue text).ReadFrom text) :
    (readStarted fuel inner c rest).ReadFrom (c :: rest) := by
  by_cases opening : c = '[' ∨ c = '\x7b'
  · simp only [readStarted, opening, ↓reduceIte]
    cases inner with
    | none => exact Tree.readFrom_broken _ _
    | some readValue =>
      have tail : rest <:+ c :: rest := List.suffix_cons c rest
      have parts := each readValue rfl
      dsimp only
      split
      · exact (readArray_from parts fuel _).of_suffix tail
      · exact (readObject_from parts fuel _).of_suffix tail
  · have token : (∃ found, readStarted fuel inner c rest = .broken found) ∨ _ :=
      readStarted_token opening
    rcases token with ⟨found, broken⟩ | ⟨value, after, tail, leaf⟩
    · rw [broken]
      exact Tree.readFrom_broken found _
    · rw [leaf fuel inner]
      exact Tree.readFrom_leaf mark tail leaf

end Started

/-- The leaves of a value stand in the text that it was read of. -/
theorem readValue_from (fuel depth : Nat) (text : List Char) :
    (readValue fuel depth text).ReadFrom text := by
  induction depth generalizing text with
  | zero =>
    rw [readValue]
    split
    · exact Tree.readFrom_broken _ _
    · next c rest found =>
      have tail : c :: rest <:+ text := (suffix_of_skipBlanks List.suffix_rfl found).1
      have parts : ∀ reader ∈ (none : Option (List Char → Tree)), ∀ text,
          (reader text).ReadFrom text := by
        intro reader none
        cases none
      exact (readStarted_from (isBlank_of_skipBlanks found) parts).of_suffix tail
  | succ depth ih =>
    rw [readValue]
    split
    · exact Tree.readFrom_broken _ _
    · next c rest found =>
      have tail : c :: rest <:+ text := (suffix_of_skipBlanks List.suffix_rfl found).1
      have parts : ∀ reader ∈ some (readValue fuel depth), ∀ text, (reader text).ReadFrom text := by
        intro reader same
        obtain rfl := Option.some.inj same
        exact ih
      exact (readStarted_from (isBlank_of_skipBlanks found) parts).of_suffix tail

/-- Every leaf of a text has a token in it. -/
theorem Leaf.within_ofText {text : List Char} {leaf : Leaf}
    (there : leaf ∈ (Tree.ofText text).leaves) : leaf.Within text :=
  (readValue_from text.length nestingLimit text).leaves leaf there

/-! ## Positions -/

/-- The line and the column of the last byte of a text that ends in no line break, both counted
from one. -/
def Position.ofLastByte (text : List Char) : Position :=
  ⟨1 + text.count '\n', byteLength (text.reverse.takeWhile (· ≠ '\n'))⟩

/-- The bytes of two texts add up. -/
theorem byteLength_append (text other : List Char) :
    byteLength (text ++ other) = byteLength text + byteLength other := by
  induction text with
  | nil => simp [byteLength]
  | cons c rest ih => rw [List.cons_append, byteLength, byteLength, ih, Nat.add_assoc]

/-- Count one character. -/
def Position.past (position : Position) (c : Char) : Position :=
  if c = '\n' then ⟨position.line + 1, 0⟩ else ⟨position.line, position.column + c.utf8Size⟩

/-- Counting the bytes of a text is counting its characters. -/
theorem Position.advance_append (start : Position) (text after : List Char) :
    Position.advance start (text ++ after) (byteLength text) = text.foldl Position.past start := by
  induction text generalizing start with
  | nil => cases after <;> simp [Position.advance, byteLength]
  | cons c rest ih =>
    have size : 0 < c.utf8Size := Char.utf8Size_pos c
    have bytes : byteLength (c :: rest) = c.utf8Size + byteLength rest := rfl
    have left : byteLength (c :: rest) - c.utf8Size = byteLength rest := by omega
    have whole : min (byteLength (c :: rest)) c.utf8Size = c.utf8Size := by omega
    rw [List.cons_append, Position.advance, if_neg (by omega), List.foldl_cons, Position.past]
    by_cases lineBreak : c = '\n'
    · subst lineBreak
      have left : byteLength ('\n' :: rest) - 1 = byteLength rest := left
      rw [if_pos rfl, if_pos rfl, left, ih]
    · rw [if_neg lineBreak, if_neg lineBreak, left, whole, ih]

/-- Counting a text from the start gives the position of its last byte. -/
theorem Position.foldl_past (text : List Char) :
    text.foldl Position.past ⟨1, 0⟩ = Position.ofLastByte text := by
  induction text using List.reverseRecOn with
  | nil => rfl
  | append_singleton text c ih =>
    rw [List.foldl_append, ih, List.foldl_cons, List.foldl_nil, Position.past, Position.ofLastByte,
      Position.ofLastByte, List.count_append, List.reverse_append, List.reverse_singleton,
      List.singleton_append]
    by_cases lineBreak : c = '\n'
    · subst lineBreak
      rw [if_pos rfl, List.takeWhile_cons_of_neg (by decide)]
      rfl
    · rw [if_neg lineBreak, List.takeWhile_cons_of_pos (by simpa using lineBreak), byteLength,
        List.count_singleton, beq_false_of_ne lineBreak, Nat.add_comm c.utf8Size]
      rfl

/-- The place behind what was read is that of its last byte. -/
theorem position_upTo (read after : List Char) :
    Place.position (read ++ after) (.upTo after) = Position.ofLastByte read := by
  have bytes : byteLength (read ++ after) - byteLength (Place.upTo after).rest +
      (Place.upTo after).bytes = byteLength read := by
    rw [byteLength_append]
    exact Nat.add_sub_cancel (byteLength read) (byteLength after)
  rw [Place.position, bytes, Position.advance_append, Position.foldl_past]

/-- Columns count the bytes of a character. -/
example : Position.ofLastByte ['a', 'b', '\n', 'c', 'é'] = ⟨2, 3⟩ := by decide

end JsonShape.Text
