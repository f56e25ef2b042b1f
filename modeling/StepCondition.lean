import StepCondition.Main
import StepCondition.Proofs.Evaluation.Parsed
import StepCondition.Proofs.Expr.RoundTrip
import StepCondition.Proofs.Parser.Height
import StepCondition.Proofs.Evaluation.Failures
import StepCondition.Proofs.Evaluation.References
import StepCondition.Proofs.Expr.Places
import StepCondition.Proofs.Evaluation.Calls
import StepCondition.Proofs.Parser.Levels
import StepCondition.Proofs.Evaluation.FirstFailure
import StepCondition.Proofs.Parser.Requests
import StepCondition.Proofs.Token.Cutting
import StepCondition.Proofs.Token.Trimming
import StepCondition.Proofs.Session.Transcript
import StepCondition.Proofs.Session.Agreement
import StepCondition.Proofs.Check.ClosedWorld
import StepCondition.Proofs.Parser.Room
import StepCondition.Proofs.Struct.Conversion
import StepCondition.Proofs.Parser.PartialTree
import StepCondition.Proofs.Parser.Truncation
import StepCondition.Proofs.Evaluation.Logic
import StepCondition.Proofs.Evaluation.Paths
import StepCondition.Proofs.Evaluation.Reuse
import StepCondition.Proofs.Struct.History
import StepCondition.Proofs.Token.Lines
import StepCondition.Proofs.Token.Spacing
import StepCondition.Proofs.Struct.LastWrite
import StepCondition.Proofs.Evaluation.Integers
import StepCondition.Proofs.Parser.WellFormed
import StepCondition.Proofs.Log
import StepCondition.Proofs.Value.Relation
