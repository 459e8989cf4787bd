import JsonShape.Command
import JsonShape.Command.Disk
import JsonShape.Command.Documents
import JsonShape.Command.Event
import JsonShape.Command.Problem
import JsonShape.Command.Settings
import JsonShape.Command.Usage
import JsonShape.Double
import JsonShape.Double.Extended
import JsonShape.Double.Scaling
import JsonShape.Double.Shortest
import JsonShape.Evidence
import JsonShape.Fields
import JsonShape.Files
import JsonShape.Files.Disk
import JsonShape.Fixture
import JsonShape.Fixture.Case
import JsonShape.Glob
import JsonShape.Glob.Expansion
import JsonShape.Host
import JsonShape.Inference
import JsonShape.Jq
import JsonShape.Jq.Evaluation
import JsonShape.Jq.Filter
import JsonShape.Jq.Grammar
import JsonShape.Jq.Operation
import JsonShape.Jq.Token
import JsonShape.Jq.Value
import JsonShape.Json
import JsonShape.Json.Pointer
import JsonShape.Json.Reader
import JsonShape.Json.Writer
import JsonShape.Kind
import JsonShape.Log
import JsonShape.Log.Filter
import JsonShape.Main
import JsonShape.Mismatch
import JsonShape.Number
import JsonShape.Path
import JsonShape.Proofs.Admission
import JsonShape.Proofs.Agreement
import JsonShape.Proofs.Associativity
import JsonShape.Proofs.Cases
import JsonShape.Proofs.Census
import JsonShape.Proofs.Checking
import JsonShape.Proofs.Closing
import JsonShape.Proofs.Commutativity
import JsonShape.Proofs.Conformance
import JsonShape.Proofs.Construction
import JsonShape.Proofs.Counters
import JsonShape.Proofs.Coverage
import JsonShape.Proofs.Decimals
import JsonShape.Proofs.Documents
import JsonShape.Proofs.Filtering
import JsonShape.Proofs.Flattening
import JsonShape.Proofs.Framing
import JsonShape.Proofs.Grouping
import JsonShape.Proofs.Inferred
import JsonShape.Proofs.Inferring
import JsonShape.Proofs.Inside
import JsonShape.Proofs.Joining
import JsonShape.Proofs.Leaves
import JsonShape.Proofs.Loading
import JsonShape.Proofs.Lowering
import JsonShape.Proofs.Meanings
import JsonShape.Proofs.Nesting
import JsonShape.Proofs.NormalForms
import JsonShape.Proofs.Notation
import JsonShape.Proofs.Numerals
import JsonShape.Proofs.Offenders
import JsonShape.Proofs.Outcomes
import JsonShape.Proofs.Places
import JsonShape.Proofs.Positions
import JsonShape.Proofs.Precedence
import JsonShape.Proofs.Quoted
import JsonShape.Proofs.ReadBack
import JsonShape.Proofs.Rendering
import JsonShape.Proofs.Reordering
import JsonShape.Proofs.RoundTrip
import JsonShape.Proofs.Rounding
import JsonShape.Proofs.SampleSets
import JsonShape.Proofs.Samples
import JsonShape.Proofs.Scalars
import JsonShape.Proofs.Scaling
import JsonShape.Proofs.Tally
import JsonShape.Proofs.TreeLeaves
import JsonShape.Proofs.Trees
import JsonShape.Proofs.Undeclared
import JsonShape.Proofs.Unordered
import JsonShape.Proofs.Writing
import JsonShape.Report
import JsonShape.Shape
import JsonShape.Shape.Notation
import JsonShape.Text.Brackets
import JsonShape.Text.Fault
import JsonShape.Text.Literal
import JsonShape.Text.Parts
import JsonShape.Text.Quoted
import JsonShape.Text.Reading
import JsonShape.Text.Shown
import JsonShape.Text.Trail
import JsonShape.Text.Tree
import JsonShape.Unicode.Alphanumeric
import JsonShape.Unicode.Ranges
import JsonShape.Unicode.Shown
import JsonShape.Unicode.WhiteSpace
import JsonShape.Validation
