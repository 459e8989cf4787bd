import JsonShape.Jq.Filter

/-!
# Running jq filters

A filter on an input gives a list of outcomes, each an output or a thrown value. A handler sees
the first thrown value, and nothing behind it counts. With two operands every outcome of the first
is combined with every outcome of the second, the first changing slowest; a combination throws
what its first part throws that does, so without any outcome of one operand there is none at all.
-/
namespace JsonShape.Jq

/-- Outputs and thrown values in order. -/
abbrev Outcomes := List Outcome

namespace Outcomes

/-- Go on with every output; thrown values stay. -/
def andThen (outcomes : Outcomes) (next : Value → Outcomes) : Outcomes :=
  outcomes.flatMap fun outcome =>
    match outcome with
    | .ok value => next value
    | .error thrown => [.error thrown]

/-- The outputs before the first thrown value, which goes to a handler. -/
def recover (handler : Value → Outcomes) : Outcomes → Outcomes
  | [] => []
  | .ok value :: rest => .ok value :: recover handler rest
  | .error thrown :: _ => handler thrown

/-- Every outcome of one filter combined with every outcome of another. -/
def combined (operation : Value → Value → Outcome) (first second : Outcomes) : Outcomes :=
  first.flatMap fun left => second.map fun right => do operation (← left) (← right)

/-- All outputs, or the first thrown value. -/
def outputs : Outcomes → Except Value (List Value)
  | [] => .ok []
  | outcome :: rest => do
    let value ← outcome
    let others ← outputs rest
    return value :: others

/-- The array of all outputs, or the first thrown value. -/
def collected (outcomes : Outcomes) : Outcomes :=
  [outcomes.outputs.map .array]

/-- The outcomes that make an alternative unnecessary: thrown values and outputs that count as
true. -/
def counting (outcomes : Outcomes) : Outcomes :=
  outcomes.filter fun outcome =>
    match outcome with
    | .ok value => value.isTrue
    | .error _ => true

/-- Whether each output counts as true. -/
def truths (outcomes : Outcomes) : Outcomes :=
  outcomes.map fun outcome => outcome.map fun value => .bool value.isTrue

/-- Carry a state along outputs; each step may go on with several states or none. -/
def fold (step : Value → Value → Outcomes) : Outcomes → Value → Outcomes
  | [], state => [.ok state]
  | .error thrown :: _, _ => [.error thrown]
  | .ok value :: rest, state => (step value state).andThen (fold step rest)

/-- The outcomes of an optional step: what it throws is dropped. -/
def dropThrown (optional : Bool) (outcomes : Outcomes) : Outcomes :=
  if optional then outcomes.recover fun _ => [] else outcomes

end Outcomes

namespace PathPart

/-- The outcomes of one step into a value. -/
def follow (part : PathPart Value) (value : Value) : Outcomes :=
  match part with
  | .index place optional => Outcomes.dropThrown optional [value.index place]
  | .slice first last optional => Outcomes.dropThrown optional [value.slice first last]
  | .each optional =>
    Outcomes.dropThrown optional <|
      match value.children with
      | .ok items => items.map .ok
      | .error thrown => [.error thrown]

/-- The outcomes of steps one after the other. -/
def followAll : List (PathPart Value) → Value → Outcomes
  | [], value => [.ok value]
  | part :: rest, value => Outcomes.andThen (part.follow value) (followAll rest)

end PathPart

namespace Function

/-- The outcomes of a function, whose arguments are given by what they do to the input. -/
def apply (function : Function) (arguments : List (Value → Outcomes)) (input : Value) : Outcomes :=
  match function, arguments with
  | .null, _ => [.ok .null]
  | .bool value, _ => [.ok (.bool value)]
  | .empty, _ => []
  | .throwInput, _ => [.error input]
  | .throwFirst, argument :: _ =>
    match argument input with
    | [] => [.ok input]
    | outcome :: _ => [outcome.bind .error]
  | .not, _ => [.ok (.bool !input.isTrue)]
  | .map, argument :: _ =>
    (Outcomes.andThen (PathPart.follow (.each false) input) argument).collected
  | .select, argument :: _ =>
    (argument input).andThen fun value => if value.isTrue then [.ok input] else []
  | .keys, _ => [input.keys]
  | .length, _ => [input.length]
  | .has, argument :: _ => (argument input).andThen fun part => [input.has part]
  | .typeName, _ => [.ok (.string input.typeName)]
  | .range, argument :: _ => (argument input).andThen fun count => count.rangeTo.map .ok
  | .toText, _ => [.ok input.toText]
  | .descendants, _ => input.descendants.map .ok
  | _, _ => []

end Function

/-- Values of variables, inner ones first. -/
abbrev Variables := List (String × Value)

/-- A choice for the steps of a path: for each step an outcome of everything in it. -/
abbrev Choice := List (Except Value (PathPart Value))

/-- The steps of a choice, or the first value that is thrown in one. -/
def Choice.parts : Choice → Except Value (List (PathPart Value))
  | [] => .ok []
  | part :: rest => do
    let part ← part
    let others ← Choice.parts rest
    return part :: others

namespace Filter

mutual

/-- The outcomes of a filter on an input. -/
def run (scope : Variables) : Filter → Value → Outcomes
  | .identity, input => [.ok input]
  | .descendants, input => input.descendants.map .ok
  | .literal value, _ => [.ok value]
  | .variableRef name, _ =>
    match Fields.get? name scope with
    | some value => [.ok value]
    | none => []
  | .pipe first second, input =>
    (run scope first input).andThen fun value => run scope second value
  | .comma first second, input => run scope first input ++ run scope second input
  | .bind source name body, input =>
    (run scope source input).andThen fun value => run ((name, value) :: scope) body input
  | .reduce source name start step, input =>
    (run scope start input).andThen
      (Outcomes.fold (fun value state => run ((name, value) :: scope) step state)
        (run scope source input))
  | .choose condition positive negative, input =>
    (run scope condition input).andThen fun value =>
      if value.isTrue then run scope positive input else run scope negative input
  | .attempt body handler, input =>
    (run scope body input).recover fun thrown => run scope handler thrown
  | .both first second, input =>
    (run scope first input).andThen fun value =>
      if value.isTrue then (run scope second input).truths else [.ok (.bool false)]
  | .oneOf first second, input =>
    (run scope first input).andThen fun value =>
      if value.isTrue then [.ok (.bool true)] else (run scope second input).truths
  | .fallback first second, input =>
    match (run scope first input).counting with
    | [] => run scope second input
    | outcomes => outcomes
  | .arithmetic op first second, input =>
    Outcomes.combined (Value.calculate op) (run scope first input) (run scope second input)
  | .comparison op first second, input =>
    Outcomes.combined (fun left right => .ok (.bool (op.holds (left.compare right))))
      (run scope first input) (run scope second input)
  | .negate body, input => (run scope body input).andThen fun value => [value.negated]
  | .collect body, input => (run scope body input).collected
  | .construct fields, input => runFields scope fields input (.ok [])
  | .path source parts, input =>
    let choices := runParts scope parts input
    (run scope source input).andThen fun value =>
      choices.flatMap fun choice =>
        match choice.parts with
        | .ok parts => PathPart.followAll parts value
        | .error thrown => [.error thrown]
  | .call name arguments, input =>
    match Function.named? name arguments.length with
    | some function => function.apply (runArguments scope arguments) input
    | none => []

/-- The objects that fields are joined to, one for each choice of outcomes; an object throws the
first value that is thrown in its choice. -/
def runFields (scope : Variables) :
    List (Filter × Filter) → Value → Except Value (List (String × Value)) → Outcomes
  | [], _, built => [built.map .object]
  | (name, value) :: rest, input, built =>
    (run scope name input).flatMap fun name =>
      (run scope value input).flatMap fun value =>
        runFields scope rest input do
          let fields ← built
          let name ← name
          let value ← value
          match name with
          | .string name => .ok (Fields.insert name value fields)
          | name => name.wrongType "string"

/-- The outcomes of an optional limit. -/
def runBound (scope : Variables) :
    Option Filter → Value → List (Except Value (Option Value))
  | none, _ => [.ok none]
  | some limit, input => (run scope limit input).map fun outcome => outcome.map some

/-- The choices for the steps of a path, everything in them being computed from the input. -/
def runParts (scope : Variables) : List (PathPart Filter) → Value → List Choice
  | [], _ => [[]]
  | .index part optional :: rest, input =>
    (run scope part input).flatMap fun part =>
      (runParts scope rest input).map ((part.map (.index · optional)) :: ·)
  | .slice first last optional :: rest, input =>
    (runBound scope first input).flatMap fun first =>
      (runBound scope last input).flatMap fun last =>
        (runParts scope rest input).map fun choice =>
          (do return .slice (← first) (← last) optional) :: choice
  | .each optional :: rest, input => (runParts scope rest input).map (.ok (.each optional) :: ·)

/-- What arguments do to an input. -/
def runArguments (scope : Variables) : List Filter → List (Value → Outcomes)
  | [] => []
  | argument :: rest => (fun input => run scope argument input) :: runArguments scope rest

end

end Filter

end JsonShape.Jq
