import FieldFormula.Expr.FieldNames
import FieldFormula.Expr.Outline
import FieldFormula.Main
import FieldFormula.Proofs.Arithmetic.Grammar
import FieldFormula.Proofs.Arithmetic.Parsing
import FieldFormula.Proofs.Arithmetic.Phrase
import FieldFormula.Proofs.Arithmetic.Spelling
import FieldFormula.Proofs.Calendar.Amounts
import FieldFormula.Proofs.Calendar.BusinessDays
import FieldFormula.Proofs.Calendar.Clock
import FieldFormula.Proofs.Calendar.Composition
import FieldFormula.Proofs.Calendar.DateTime
import FieldFormula.Proofs.Calendar.MonthArithmetic
import FieldFormula.Proofs.Calendar.Months
import FieldFormula.Proofs.Calendar.NamedMonth
import FieldFormula.Proofs.Calendar.Offset
import FieldFormula.Proofs.Calendar.Operations
import FieldFormula.Proofs.Calendar.Rolling
import FieldFormula.Proofs.Calendar.Shifting
import FieldFormula.Proofs.Calendar.Taking
import FieldFormula.Proofs.Calendar.TimeShape
import FieldFormula.Proofs.Calendar.Unpadded
import FieldFormula.Proofs.Calendar.WholeDays
import FieldFormula.Proofs.Calendar.Writing
import FieldFormula.Proofs.CommandLine.Batch
import FieldFormula.Proofs.CommandLine.Columns
import FieldFormula.Proofs.CommandLine.Flags
import FieldFormula.Proofs.Csv.Texts
import FieldFormula.Proofs.Csv.Writing
import FieldFormula.Proofs.Decimal.Comparison
import FieldFormula.Proofs.Decimal.Counts
import FieldFormula.Proofs.Decimal.Digits
import FieldFormula.Proofs.Decimal.Division
import FieldFormula.Proofs.Decimal.Exact
import FieldFormula.Proofs.Decimal.Grids
import FieldFormula.Proofs.Decimal.Integers
import FieldFormula.Proofs.Decimal.Longest
import FieldFormula.Proofs.Decimal.Nearest
import FieldFormula.Proofs.Decimal.Numeral
import FieldFormula.Proofs.Decimal.Padding
import FieldFormula.Proofs.Decimal.Pattern
import FieldFormula.Proofs.Decimal.Precision
import FieldFormula.Proofs.Decimal.Quotient
import FieldFormula.Proofs.Decimal.Ratios
import FieldFormula.Proofs.Decimal.Reading
import FieldFormula.Proofs.Decimal.RoundTrip
import FieldFormula.Proofs.Decimal.Shortest
import FieldFormula.Proofs.Decimal.Sums
import FieldFormula.Proofs.Decimal.Writing
import FieldFormula.Proofs.Evaluation.BareDate
import FieldFormula.Proofs.Evaluation.Calculation
import FieldFormula.Proofs.Evaluation.Choice
import FieldFormula.Proofs.Evaluation.Coercion
import FieldFormula.Proofs.Evaluation.Concatenation
import FieldFormula.Proofs.Evaluation.DateAmounts
import FieldFormula.Proofs.Evaluation.DateDifference
import FieldFormula.Proofs.Evaluation.DateList
import FieldFormula.Proofs.Evaluation.DateSerial
import FieldFormula.Proofs.Evaluation.Echo
import FieldFormula.Proofs.Evaluation.Formatting
import FieldFormula.Proofs.Evaluation.Items
import FieldFormula.Proofs.Evaluation.JsonEncode
import FieldFormula.Proofs.Evaluation.JsonIntegers
import FieldFormula.Proofs.Evaluation.JsonLog
import FieldFormula.Proofs.Evaluation.JsonPath
import FieldFormula.Proofs.Evaluation.JsonRemove
import FieldFormula.Proofs.Evaluation.JsonUpdate
import FieldFormula.Proofs.Evaluation.Lines
import FieldFormula.Proofs.Evaluation.ListItems
import FieldFormula.Proofs.Evaluation.ListSets
import FieldFormula.Proofs.Evaluation.Markers
import FieldFormula.Proofs.Evaluation.Normalization
import FieldFormula.Proofs.Evaluation.Partition
import FieldFormula.Proofs.Evaluation.PercentEncoding
import FieldFormula.Proofs.Evaluation.Quotation
import FieldFormula.Proofs.Evaluation.Splitting
import FieldFormula.Proofs.Expr.Fields
import FieldFormula.Proofs.Expr.Nesting
import FieldFormula.Proofs.Expr.Printing
import FieldFormula.Proofs.Json.Members
import FieldFormula.Proofs.Json.Numbers
import FieldFormula.Proofs.Json.Parts
import FieldFormula.Proofs.Json.RoundTrip
import FieldFormula.Proofs.Json.Steps
import FieldFormula.Proofs.Json.Strings
import FieldFormula.Proofs.Registry.Lookup
import FieldFormula.Proofs.Registry.Registration
import FieldFormula.Proofs.Registry.Table
import FieldFormula.Proofs.Text.Pieces
import FieldFormula.Proofs.Text.Search
import FieldFormula.Proofs.Text.Utf8
import FieldFormula.Proofs.Token.Numbers
import FieldFormula.Proofs.Token.Segments
import FieldFormula.Registry.Builtin
import FieldFormula.Registry.Listing
import FieldFormula.Text.Utf8
import FieldFormula.Unicode.Property
import FieldFormula.Unicode.Script
