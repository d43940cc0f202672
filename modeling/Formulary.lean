import Formulary.Main
import Formulary.Proofs.Columns
import Formulary.Proofs.Evaluation
import Formulary.Proofs.Folding
import Formulary.Proofs.Lexing.Division
import Formulary.Proofs.Lexing.Whole
import Formulary.Proofs.Reading.Limits
import Formulary.Proofs.Recovery
import Formulary.Proofs.Rendering
import Formulary.Proofs.SetText
import Formulary.Proofs.Shadowing
import Formulary.Proofs.Store
import Formulary.Proofs.Totality
import Formulary.Proofs.Unused
import Formulary.Token.Stream
import Formulary.Expr.Descent
import Formulary.Proofs.Lexing.Lookahead
import Formulary.Proofs.Reading.Descent
import Formulary.Proofs.Reading.Moves
import Formulary.Proofs.Recursion
import Formulary.Proofs.Reading.Nesting
import Formulary.Proofs.Reading.Parentheses
import Formulary.Proofs.Reading.Blame
import Formulary.Proofs.Faults
import Formulary.Proofs.Foldable
import Formulary.Proofs.Reading.Offsets
import Formulary.Proofs.Layout
import Formulary.Proofs.Outline
import Formulary.Proofs.Distinct
import Formulary.Proofs.Stability
import Formulary.Proofs.Reservation
import Formulary.Proofs.Growth
import Formulary.Proofs.Places
import Formulary.Proofs.Aggregates
