import JsonShape.Evidence
import JsonShape.Shape

/-!
# Inferring shapes

Evidence is lowered to a shape with one alternative for each kind that occurred, in the order
string, number, boolean, object, array, null. A field that some object lacked accepts null and
absence too. Arrays of which no element was seen stay arrays of any elements.
-/
namespace JsonShape

namespace Evidence

/-- A single alternative is the shape itself; there is no shape of no alternative. -/
def shapeOfArms : List Shape → Option Shape
  | [] => none
  | [arm] => some arm
  | arms => some (.union arms)

/-- A list of one shape or of none. -/
def arm (present : Bool) (shape : Shape) : List Shape :=
  if present then [shape] else []

mutual

/-- The shape of what was seen, none when nothing was. With `optional` it accepts null and
absence in any case. -/
def shape? (optional : Bool) : Evidence → Option Shape
  | ⟨nullable, bool, number, string, items, objects⟩ =>
    shapeOfArms (arm string .string ++ arm number .number ++ arm bool .boolean ++
      objectArm objects ++ arrayArm items ++ arm (nullable || optional) .null)

/-- The alternative for arrays. -/
def arrayArm : Option Evidence → List Shape
  | none => []
  | some items =>
    match shape? false items with
    | none => [.anyArray]
    | some element => [.array element]

/-- The alternative for objects. -/
def objectArm : Option (Objects Evidence) → List Shape
  | none => []
  | some ⟨seen, fields⟩ => [.object (fieldShapes seen fields)]

/-- The shapes of fields, of which a number of objects was seen. A field of which nothing was
seen accepts null and absence. -/
def fieldShapes (seen : UInt64) : List (String × Occurrence Evidence) → List (String × Shape)
  | [] => []
  | (name, ⟨count, evidence⟩) :: rest =>
    (name, (shape? (count < seen) evidence).getD .null) :: fieldShapes seen rest

end

/-- The shape of what was seen. -/
def toShape? (evidence : Evidence) : Option Shape :=
  evidence.shape? false

end Evidence

/-- Samples seen so far. -/
structure Inference where
  /-- Their joined evidence. -/
  evidence : Evidence
  /-- Their number. -/
  samples : UInt64

namespace Inference

/-- No sample was seen. -/
def start : Inference := ⟨.empty, 0⟩

/-- One more sample. -/
def observe (inference : Inference) (value : Json) : Inference :=
  ⟨inference.evidence.join (.ofJson value), inference.samples + 1⟩

/-- More samples, one after the other. -/
def observeAll (inference : Inference) (values : List Json) : Inference :=
  values.foldl observe inference

/-- The shape of the samples, none when there are none. -/
def shape? (inference : Inference) : Option Shape :=
  inference.evidence.toShape?

end Inference

/-- The shape of samples. -/
def Shape.infer? (values : List Json) : Option Shape :=
  (Inference.start.observeAll values).shape?

end JsonShape
