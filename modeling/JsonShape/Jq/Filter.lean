import JsonShape.Jq.Operation

/-!
# jq filters

A filter takes a value to a list of outputs. Functions and variables are named;
`Filter.resolves` says that every name is known.
-/
namespace JsonShape.Jq

/-- One step of a path behind a filter; an optional step drops what fails. -/
inductive PathPart (α : Type) where
  /-- The part at an index. -/
  | index (index : α) (optional : Bool)
  /-- The part between two bounds. -/
  | slice (first last : Option α) (optional : Bool)
  /-- All parts. -/
  | each (optional : Bool)

/-- A filter. -/
inductive Filter where
  /-- The input. -/
  | identity
  /-- The input and everything inside it. -/
  | descendants
  /-- A literal. -/
  | literal (value : Value)
  /-- The value of a variable. -/
  | variableRef (name : String)
  /-- The second filter on every output of the first. -/
  | pipe (first second : Filter)
  /-- The outputs of both filters. -/
  | comma (first second : Filter)
  /-- A body for every output of a filter, the output being held by a variable. -/
  | bind (source : Filter) (name : String) (body : Filter)
  /-- A state carried along the outputs of a filter. -/
  | reduce (source : Filter) (name : String) (start step : Filter)
  /-- One of two filters for every output of a condition. -/
  | choose (condition positive negative : Filter)
  /-- A filter whose thrown values go to a handler. -/
  | attempt (body handler : Filter)
  /-- Both conditions. -/
  | both (first second : Filter)
  /-- One of two conditions. -/
  | oneOf (first second : Filter)
  /-- The true outputs of a filter, else the outputs of another. -/
  | fallback (first second : Filter)
  /-- An arithmetic operator. -/
  | arithmetic (op : Arithmetic) (first second : Filter)
  /-- A comparison. -/
  | comparison (op : Comparison) (first second : Filter)
  /-- The other sign. -/
  | negate (body : Filter)
  /-- The array of all outputs. -/
  | collect (body : Filter)
  /-- Objects, one for each choice of outputs of the fields' names and values. -/
  | construct (fields : List (Filter × Filter))
  /-- Parts of the outputs of a filter. -/
  | path (source : Filter) (parts : List (PathPart Filter))
  /-- A named function. -/
  | call (name : String) (arguments : List Filter)

/-- The named functions. -/
inductive Function where
  /-- The null value. -/
  | null
  /-- A truth value. -/
  | bool (value : Bool)
  /-- No output. -/
  | empty
  /-- Throws the input. -/
  | throwInput
  /-- Throws the first output of its argument; without one it gives the input. -/
  | throwFirst
  /-- Whether the input counts as false. -/
  | not
  /-- The array of the outputs of its argument on every part of the input. -/
  | map
  /-- The input, for every true output of its argument. -/
  | select
  /-- The indices of the input. -/
  | keys
  /-- The size of the input. -/
  | length
  /-- Whether the input has a part. -/
  | has
  /-- The name of the input's type. -/
  | typeName
  /-- The integers from zero up to a number. -/
  | range
  /-- The input as a string. -/
  | toText
  /-- The input and everything inside it. -/
  | descendants
deriving DecidableEq

/-- The functions by name and number of arguments. -/
def Function.table : List ((String × Nat) × Function) :=
  [(("null", 0), .null), (("true", 0), .bool true), (("false", 0), .bool false),
    (("empty", 0), .empty), (("error", 0), .throwInput), (("error", 1), .throwFirst),
    (("not", 0), .not), (("map", 1), .map), (("select", 1), .select), (("keys", 0), .keys),
    (("length", 0), .length), (("has", 1), .has), (("type", 0), .typeName),
    (("range", 1), .range), (("tostring", 0), .toText), (("recurse", 0), .descendants)]

/-- The function of a name that takes a number of arguments. -/
def Function.named? (name : String) (arity : Nat) : Option Function :=
  Function.table.lookup (name, arity)

namespace Filter

mutual

/-- Every function and every variable is known, `names` being the variables around. -/
def resolves (names : List String) : Filter → Bool
  | .identity => true
  | .descendants => true
  | .literal _ => true
  | .variableRef name => names.contains name
  | .pipe first second => first.resolves names && second.resolves names
  | .comma first second => first.resolves names && second.resolves names
  | .bind source name body => source.resolves names && body.resolves (name :: names)
  | .reduce source name start step =>
    source.resolves names && start.resolves names && step.resolves (name :: names)
  | .choose condition positive negative =>
    condition.resolves names && positive.resolves names && negative.resolves names
  | .attempt body handler => body.resolves names && handler.resolves names
  | .both first second => first.resolves names && second.resolves names
  | .oneOf first second => first.resolves names && second.resolves names
  | .fallback first second => first.resolves names && second.resolves names
  | .arithmetic _ first second => first.resolves names && second.resolves names
  | .comparison _ first second => first.resolves names && second.resolves names
  | .negate body => body.resolves names
  | .collect body => body.resolves names
  | .construct fields => fieldsResolve names fields
  | .path source parts => source.resolves names && partsResolve names parts
  | .call name arguments =>
    (Function.named? name arguments.length).isSome && argumentsResolve names arguments

/-- Everything in names and values of fields is known. -/
def fieldsResolve (names : List String) : List (Filter × Filter) → Bool
  | [] => true
  | (name, value) :: rest =>
    name.resolves names && value.resolves names && fieldsResolve names rest

/-- Everything in an optional filter is known. -/
def boundResolves (names : List String) : Option Filter → Bool
  | none => true
  | some bound => bound.resolves names

/-- Everything in the steps of a path is known. -/
def partsResolve (names : List String) : List (PathPart Filter) → Bool
  | [] => true
  | .index part _ :: rest => part.resolves names && partsResolve names rest
  | .slice first last _ :: rest =>
    boundResolves names first && boundResolves names last && partsResolve names rest
  | .each _ :: rest => partsResolve names rest

/-- Everything in arguments is known. -/
def argumentsResolve (names : List String) : List Filter → Bool
  | [] => true
  | argument :: rest => argument.resolves names && argumentsResolve names rest

end

end Filter

end JsonShape.Jq
