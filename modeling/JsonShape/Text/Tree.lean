import JsonShape.Json
import JsonShape.Text.Literal

/-!
# Located trees

Reading a text gives a tree whose parts know where they end. A fault ends the tree: it stands in
the place of a value, of what follows an element or a member, or of the colon behind a key, and
everything before it is kept. Members keep repeated keys. At most 127 arrays and objects are
nested in each other.
-/
namespace JsonShape.Text

/-- A key and the text behind it. -/
structure Key where
  /-- The name. -/
  name : String
  /-- The text behind the closing quote. -/
  after : List Char

/-- How the members of an object end. -/
inductive ObjectEnd where
  /-- By the closing brace; `after` is the text behind it. -/
  | closed (after : List Char)
  /-- By a fault in the last member's value, or where a comma or the next key was due. -/
  | broken (found : FaultAt)
  /-- By a fault where the colon behind a key was due. -/
  | colonMissing (key : Key) (found : FaultAt)

/-- The text behind the closing brace, or the fault. -/
def ObjectEnd.outcome : ObjectEnd → Except FaultAt (List Char)
  | .closed after => .ok after
  | .broken found => .error found
  | .colonMissing _ found => .error found

/-- What was read of a value. -/
inductive Tree where
  /-- A value without parts; `after` is the text behind it. -/
  | leaf (value : Scalar) (after : List Char)
  /-- An array whose bracket starts the text `start`, and the text behind it or its fault. -/
  | array (start : List Char) (items : List Tree) (ending : Except FaultAt (List Char))
  /-- An object whose brace starts the text `start`. -/
  | object (start : List Char) (members : List (Key × Tree)) (ending : ObjectEnd)
  /-- No value. -/
  | broken (found : FaultAt)

/-- The text behind a value, or the fault that ended it. -/
def Tree.outcome : Tree → Except FaultAt (List Char)
  | .leaf _ after => .ok after
  | .array _ _ ending => ending
  | .object _ _ ending => ending.outcome
  | .broken found => .error found

/-- How many arrays and objects may be nested in each other. -/
def nestingLimit : Nat := 127

/-- A literal word whose letters `word` are still due. -/
def readWord (value : Scalar) : List Char → List Char → Tree
  | [], rest => .leaf value rest
  | _ :: _, [] => .broken ⟨.endOfValue, .ending⟩
  | letter :: word, c :: rest =>
    if c = letter then readWord value word rest else .broken ⟨.expectedIdent, .firstOf (c :: rest)⟩

/-- A token as a leaf. -/
def leafOf {α : Type} (wrap : α → Scalar) : Except FaultAt (α × List Char) → Tree
  | .ok (value, after) => .leaf (wrap value) after
  | .error found => .broken found

/-- Elements and the end of their array, an element being due; at most `fuel` elements. -/
def readItems (readValue : List Char → Tree) :
    Nat → List Char → List Tree × Except FaultAt (List Char)
  | 0, _ => ([], fault .endOfList .ending)
  | fuel + 1, text =>
    let item := readValue text
    match item.outcome with
    | .error found => ([item], .error found)
    | .ok rest =>
      match skipBlanks rest with
      | [] => ([item], fault .endOfList .ending)
      | c :: rest =>
        if c = ']' then ([item], .ok rest)
        else if c = ',' then
          match skipBlanks rest with
          | [] => ([item], fault .endOfValue .ending)
          | ']' :: rest => ([item], fault .trailingComma (.firstOf (']' :: rest)))
          | next =>
            let (items, ending) := readItems readValue fuel next
            (item :: items, ending)
        else ([item], fault .expectedCommaOrBracket (.firstOf (c :: rest)))

/-- Members and the end of their object, the text behind a key's opening quote being due; at most
`fuel` members. -/
def readMembers (readValue : List Char → Tree) :
    Nat → List Char → List (Key × Tree) × ObjectEnd
  | 0, _ => ([], .broken ⟨.endOfObject, .ending⟩)
  | fuel + 1, text =>
    match readString text with
    | .error found => ([], .broken found)
    | .ok (name, after) =>
      let key : Key := ⟨name, after⟩
      match skipBlanks after with
      | [] => ([], .colonMissing key ⟨.endOfObject, .ending⟩)
      | c :: rest =>
        if c = ':' then
          let value := readValue rest
          match value.outcome with
          | .error found => ([(key, value)], .broken found)
          | .ok rest =>
            match skipBlanks rest with
            | [] => ([(key, value)], .broken ⟨.endOfObject, .ending⟩)
            | c :: rest =>
              if c = '\x7d' then ([(key, value)], .closed rest)
              else if c = ',' then
                match skipBlanks rest with
                | [] => ([(key, value)], .broken ⟨.endOfValue, .ending⟩)
                | c :: rest =>
                  if c = '"' then
                    let (members, ending) := readMembers readValue fuel rest
                    ((key, value) :: members, ending)
                  else if c = '\x7d' then
                    ([(key, value)], .broken ⟨.trailingComma, .firstOf (c :: rest)⟩)
                  else ([(key, value)], .broken ⟨.keyMustBeString, .firstOf (c :: rest)⟩)
              else ([(key, value)], .broken ⟨.expectedCommaOrBrace, .firstOf (c :: rest)⟩)
        else ([], .colonMissing key ⟨.expectedColon, .firstOf (c :: rest)⟩)

/-- An array, due behind its bracket. -/
def readArray (readValue : List Char → Tree) (fuel : Nat) (start text : List Char) : Tree :=
  match skipBlanks text with
  | [] => .array start [] (fault .endOfList .ending)
  | ']' :: rest => .array start [] (.ok rest)
  | text =>
    let (items, ending) := readItems readValue fuel text
    .array start items ending

/-- An object, due behind its brace. -/
def readObject (readValue : List Char → Tree) (fuel : Nat) (start text : List Char) : Tree :=
  match skipBlanks text with
  | [] => .object start [] (.broken ⟨.endOfObject, .ending⟩)
  | c :: rest =>
    if c = '\x7d' then .object start [] (.closed rest)
    else if c = '"' then
      let (members, ending) := readMembers readValue fuel rest
      .object start members ending
    else .object start [] (.broken ⟨.keyMustBeString, .firstOf (c :: rest)⟩)

/-- A value whose first character, `c`, is due; `inner` reads the values inside it, and is none
at the nesting limit. -/
def readStarted (fuel : Nat) (inner : Option (List Char → Tree)) (c : Char) (rest : List Char) :
    Tree :=
  if c = '[' ∨ c = '\x7b' then
    match inner with
    | none => .broken ⟨.nestingLimit, .firstOf (c :: rest)⟩
    | some readValue =>
      if c = '[' then readArray readValue fuel (c :: rest) rest
      else readObject readValue fuel (c :: rest) rest
  else if c = '"' then leafOf .string (readString rest)
  else if c = 'n' then readWord .null ['u', 'l', 'l'] rest
  else if c = 't' then readWord (.bool true) ['r', 'u', 'e'] rest
  else if c = 'f' then readWord (.bool false) ['a', 'l', 's', 'e'] rest
  else if c = '-' ∨ isDigit c then leafOf .number (readNumber (c :: rest))
  else .broken ⟨.expectedValue, .firstOf (c :: rest)⟩

/-- A value in which at most `depth` arrays and objects may be nested. -/
def readValue (fuel : Nat) : Nat → List Char → Tree
  | depth, text =>
    match skipBlanks text with
    | [] => .broken ⟨.endOfValue, .ending⟩
    | c :: rest =>
      match depth with
      | 0 => readStarted fuel none c rest
      | depth + 1 => readStarted fuel (some (readValue fuel depth)) c rest

/-- The tree of the value that a text starts with. No array and no object of a text has more
parts than the text has characters. -/
def Tree.ofText (text : List Char) : Tree :=
  readValue text.length nestingLimit text

end JsonShape.Text
