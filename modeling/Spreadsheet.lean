import Spreadsheet.Address.Column
import Spreadsheet.Address.Coord
import Spreadsheet.Address.CoordMap
import Spreadsheet.Address.Range
import Spreadsheet.CellValue
import Spreadsheet.ErrorCode
import Spreadsheet.Failure
import Spreadsheet.Formula.Arguments
import Spreadsheet.Formula.Basic
import Spreadsheet.Formula.Evaluation
import Spreadsheet.Formula.Reader
import Spreadsheet.Function.Aggregate
import Spreadsheet.Function.Call
import Spreadsheet.Function.Evaluation
import Spreadsheet.Function.Host
import Spreadsheet.Function.Logic
import Spreadsheet.Function.Registry
import Spreadsheet.Function.Rounding
import Spreadsheet.Grid.Basic
import Spreadsheet.Grid.Block
import Spreadsheet.Grid.Display
import Spreadsheet.Grid.Extent
import Spreadsheet.Grid.Guard
import Spreadsheet.Grid.Recalculation
import Spreadsheet.Nesting
import Spreadsheet.Number.Basic
import Spreadsheet.Number.Bits
import Spreadsheet.Number.Decimal
import Spreadsheet.Number.Integral
import Spreadsheet.Number.Numeral
import Spreadsheet.Number.Power
import Spreadsheet.Number.Rounding
import Spreadsheet.Number.Shortest
import Spreadsheet.Query
import Spreadsheet.Text.Basic
import Spreadsheet.Text.Digit
import Spreadsheet.Text.Printable
import Spreadsheet.Text.Quoted
import Spreadsheet.Text.Uppercase
import Spreadsheet.Version
import Spreadsheet.Proofs.Function.Alike
import Spreadsheet.Proofs.Formula.Part
import Spreadsheet.Proofs.Function.Evaluation
import Spreadsheet.Proofs.Function.Room
import Spreadsheet.Proofs.Address.CoordMap
import Spreadsheet.Proofs.Address.Entries
import Spreadsheet.Proofs.Query.Run
import Spreadsheet.Proofs.Function.Shorter
import Spreadsheet.Proofs.Grid.Resolution
import Spreadsheet.Proofs.Grid.Nested
import Spreadsheet.Proofs.Grid.Nesting
import Spreadsheet.Proofs.Grid.Moment
import Spreadsheet.Proofs.Function.Strict
import Spreadsheet.Proofs.Grid.Cycle
import Spreadsheet.Proofs.Grid.Acyclic
import Spreadsheet.Proofs.Address.Digits
import Spreadsheet.Proofs.Function.Kind
import Spreadsheet.Proofs.Grid.Escape
import Spreadsheet.Proofs.Formula.Grammar
import Spreadsheet.Proofs.Formula.Numeral
import Spreadsheet.Proofs.Formula.Reading
import Spreadsheet.Proofs.Function.Meaning
import Spreadsheet.Proofs.Grid.Shift
import Spreadsheet.Proofs.Grid.Operation
import Spreadsheet.Proofs.Grid.Table
import Spreadsheet.Proofs.Grid.Refinement
import Spreadsheet.Proofs.Grid.Agreement
import Spreadsheet.Proofs.Address.RoundTrip
import Spreadsheet.Proofs.Grid.Storage
import Spreadsheet.Proofs.Grid.Unconsulted
import Spreadsheet.Proofs.Grid.Appended
import Spreadsheet.Proofs.Query.Transcript
import Spreadsheet.Proofs.Function.Exchange
import Spreadsheet.Proofs.Formula.Whole
import Spreadsheet.Proofs.Formula.Acceptance
import Spreadsheet.Proofs.Formula.Uniqueness
import Spreadsheet.Proofs.Function.Accepted
import Spreadsheet.Proofs.Address.Parts
import Spreadsheet.Proofs.Text.Capital
import Spreadsheet.Proofs.Address.Capital
import Spreadsheet.Proofs.Address.Column
import Spreadsheet.Proofs.Address.Canonical
import Spreadsheet.Proofs.Formula.Capital
import Spreadsheet.Proofs.Function.Capital
import Spreadsheet.Proofs.Grid.Capital
import Spreadsheet.Proofs.Address.Reference
import Spreadsheet.Proofs.Number.Capital
import Spreadsheet.Proofs.Formula.Splitting
import Spreadsheet.Proofs.Address.Rectangle
import Spreadsheet.Proofs.Function.Visit
import Spreadsheet.Proofs.Function.Unambiguous
import Spreadsheet.Proofs.Function.Spelled
import Spreadsheet.Proofs.Formula.Context
import Spreadsheet.Proofs.Query.Wording
import Spreadsheet.Proofs.Formula.Position
import Spreadsheet.Proofs.Function.Unselected
import Spreadsheet.Proofs.Number.Threshold
import Spreadsheet.Proofs.Formula.Balance
import Spreadsheet.Proofs.Function.Called
import Spreadsheet.Proofs.Function.Truth
import Spreadsheet.Proofs.Function.Legible
import Spreadsheet.Proofs.Function.Counted
import Spreadsheet.Proofs.Query.Leading
import Spreadsheet.Proofs.Function.Average
import Spreadsheet.Proofs.Query.Foretelling
import Spreadsheet.Proofs.Formula.Continuation
import Spreadsheet.Proofs.Function.Masking
import Spreadsheet.Proofs.Formula.Enclosed
import Spreadsheet.Proofs.Function.Enclosed
import Spreadsheet.Proofs.Function.Literal
import Spreadsheet.Proofs.Number.Order
import Spreadsheet.Proofs.Function.Extreme
import Spreadsheet.Proofs.Number.Nearest
import Spreadsheet.Proofs.Number.Half
import Spreadsheet.Proofs.Number.Rational
import Spreadsheet.Proofs.Number.Written
import Spreadsheet.Proofs.Number.Shown
import Spreadsheet.Proofs.Grid.Shown
import Spreadsheet.Proofs.Number.Rounded
import Spreadsheet.Proofs.Function.Rounded
import Spreadsheet.Proofs.Grid.Direct
import Spreadsheet.Proofs.Grid.Edit
import Spreadsheet.Proofs.Grid.Refusal
import Spreadsheet.Proofs.Function.Registration
import Spreadsheet.Proofs.Grid.Held
