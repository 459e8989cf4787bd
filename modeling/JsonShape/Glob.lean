import JsonShape.Text.Parts

/-!
# Path patterns

A pattern is a path whose names may contain wildcards: a star for any text, a question mark for
any character, and brackets around characters and ranges of characters, of which one is meant or,
behind an exclamation mark, none. Two stars that are a whole name stand for any folders.
-/
namespace JsonShape.Glob

/-- Characters that brackets list. -/
inductive Range where
  /-- One character. -/
  | single (c : Char)
  /-- All characters between two. -/
  | between (first last : Char)
deriving DecidableEq

/-- Whether a range contains a character. -/
def Range.contains (c : Char) : Range → Bool
  | .single d => c = d
  | .between first last => first ≤ c ∧ c ≤ last

/-- The ranges inside brackets: a character, a hyphen and a character, or a character alone. -/
def ranges : List Char → List Range
  | first :: '-' :: last :: rest => .between first last :: ranges rest
  | c :: rest => .single c :: ranges rest
  | [] => []

/-- A piece of a pattern. -/
inductive Piece where
  /-- A character that stands for itself. -/
  | char (c : Char)
  /-- Any character. -/
  | anyChar
  /-- Any text. -/
  | anyText
  /-- A character that one of the ranges contains. -/
  | within (ranges : List Range)
  /-- A character that none of the ranges contains. -/
  | outside (ranges : List Range)
  /-- Any folders, one below the other. -/
  | anyFolders
deriving DecidableEq

/-- Why a text is no pattern. -/
inductive PatternFault where
  /-- More than two stars. -/
  | wildcards
  /-- Two stars that are no whole name. -/
  | recursiveWildcards
  /-- Brackets that list nothing or do not end. -/
  | invalidRange
deriving DecidableEq

/-- The wording of a fault. -/
def PatternFault.message : PatternFault → String
  | .wildcards => "wildcards are either regular `*` or recursive `**`"
  | .recursiveWildcards => "recursive wildcards must form a single path component"
  | .invalidRange => "invalid range pattern"

/-- A fault with the number of characters before it. -/
structure PatternError where
  /-- The number of characters. -/
  position : Nat
  /-- What is wrong. -/
  fault : PatternFault
deriving DecidableEq

/-- The wording of a fault and its position. -/
def PatternError.message (error : PatternError) : String :=
  s!"Pattern syntax error near position {error.position}: " ++ error.fault.message

/-- A text up to the first closing bracket, and what is behind that. -/
def untilBracket? : List Char → Option (List Char × List Char)
  | [] => none
  | c :: rest =>
    if c = ']' then some ([], rest)
    else (untilBracket? rest).map fun (inside, after) => (c :: inside, after)

/-- The piece that brackets write, the text behind the opening one being given. The first
character that they list may be a closing bracket. -/
def bracketed? : List Char → Option (Piece × List Char)
  | '!' :: c :: rest =>
    (untilBracket? rest).map fun (inside, after) => (.outside (ranges (c :: inside)), after)
  | ['!'] => none
  | c :: rest =>
    (untilBracket? rest).map fun (inside, after) => (.within (ranges (c :: inside)), after)
  | [] => none

/-- The pieces of a text of which `position` characters were read; `starting` says that a name
starts here. -/
def readPieces : Nat → Nat → Bool → List Char → Except PatternError (List Piece)
  | 0, _, _, _ => .ok []
  | _ + 1, _, _, [] => .ok []
  | fuel + 1, position, starting, c :: rest =>
    if c = '?' then do
      return .anyChar :: (← readPieces fuel (position + 1) false rest)
    else if c = '[' then
      match bracketed? rest with
      | none => .error ⟨position, .invalidRange⟩
      | some (piece, after) => do
        let next := position + 1 + (rest.length - after.length)
        return piece :: (← readPieces fuel next false after)
    else if c = '*' then
      match rest with
      | '*' :: '*' :: _ => .error ⟨position + 2, .wildcards⟩
      | '*' :: after =>
        if starting then
          match after with
          | [] => .ok [.anyFolders]
          | '/' :: after => do
            return .anyFolders :: (← readPieces fuel (position + 3) true after)
          | _ => .error ⟨position + 2, .recursiveWildcards⟩
        else .error ⟨position - 1, .recursiveWildcards⟩
      | _ => do
        return .anyText :: (← readPieces fuel (position + 1) false rest)
    else do
      return .char c :: (← readPieces fuel (position + 1) (c = '/') rest)

/-- The pieces of a text. -/
def pieces (text : List Char) : Except PatternError (List Piece) :=
  readPieces text.length 0 true text

/-- The name that pieces write if they are characters only. -/
def literal? : List Piece → Option (List Char)
  | [] => some []
  | .char c :: rest => (literal? rest).map (c :: ·)
  | _ :: _ => none

/-- Whether a piece stands for a character. -/
def Piece.accepts (c : Char) : Piece → Bool
  | .char d => c = d
  | .anyChar => true
  | .within ranges => ranges.any (·.contains c)
  | .outside ranges => !ranges.any (·.contains c)
  | .anyText => false
  | .anyFolders => false

/-- Whether pieces stand for a name. -/
def matchesName : List Piece → List Char → Bool
  | [], name => name.isEmpty
  | .anyText :: rest, name =>
    (List.range (name.length + 1)).any fun count => matchesName rest (name.drop count)
  | .anyFolders :: rest, name =>
    (List.range (name.length + 1)).any fun count => matchesName rest (name.drop count)
  | _ :: _, [] => false
  | piece :: rest, c :: name => piece.accepts c && matchesName rest name

/-- A path pattern. -/
structure Pattern where
  /-- Whether it starts at the root. -/
  rooted : Bool
  /-- The pieces of its names. -/
  names : List (List Piece)
  /-- Whether only folders are meant. -/
  foldersOnly : Bool

/-- Names of which no two in a row stand for any folders. -/
def collapsed : List (List Piece) → List (List Piece)
  | [.anyFolders] :: rest =>
    match collapsed rest with
    | [.anyFolders] :: others => [.anyFolders] :: others
    | others => [.anyFolders] :: others
  | name :: rest => name :: collapsed rest
  | [] => []

/-- Parts of a path without an empty one at the end. -/
def withoutEmptyEnd (parts : List (List Char)) : List (List Char) :=
  if parts.getLast? = some [] then parts.dropLast else parts

/-- The pattern of a text. The text as a whole is checked first, then each of its names. -/
def Pattern.ofText (text : List Char) : Except PatternError Pattern := do
  let _ ← pieces text
  let rooted := text.head? = some '/'
  let below := if rooted then text.drop 1 else text
  let names ← (withoutEmptyEnd (Text.parts '/' below)).mapM pieces
  return ⟨rooted, collapsed names, text.getLast? = some '/'⟩

/-- Whether a path is to be read as a pattern. -/
def isPattern (path : String) : Bool :=
  path.toList.any fun c => c = '*' || c = '?' || c = '[' || c = '\x7b'

end JsonShape.Glob
