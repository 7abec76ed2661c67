import TableQuery.Main
import TableQuery.Json.Reader
import TableQuery.Proofs.Row.Lookup
import TableQuery.Proofs.Join.Lookup
import TableQuery.Proofs.Join.BareName
import TableQuery.Proofs.Join.Swap
import TableQuery.Proofs.Group.Partition
import TableQuery.Proofs.Group.Tallies
import TableQuery.Proofs.Group.Extremes
import TableQuery.Proofs.Row.Setting
import TableQuery.Proofs.Group.Summary
import TableQuery.Proofs.Group.SharedSums
import TableQuery.Proofs.Execution.Outcome
import TableQuery.Proofs.Filter.Kept
import TableQuery.Proofs.Join.Kinds
import TableQuery.Proofs.Join.Coverage
import TableQuery.Proofs.Execution.Exchange
import TableQuery.Proofs.Execution.JoinedRows
import TableQuery.Proofs.Row.Omission
import TableQuery.Proofs.Execution.AllColumns
import TableQuery.Proofs.Join.ConditionColumns
import TableQuery.Proofs.Execution.Unfiltered
import TableQuery.Proofs.Execution.MissingColumn
import TableQuery.Proofs.Query.Written
import TableQuery.Proofs.Query.Splitting
import TableQuery.Proofs.Query.WrittenFields
import TableQuery.Proofs.Query.WrittenConditions
import TableQuery.Proofs.Query.WrittenClauses
import TableQuery.Proofs.Query.ReadBack
import TableQuery.Proofs.Query.EntryShape
import TableQuery.Proofs.Query.QuotedConditions
import TableQuery.Proofs.Query.CommentText
import TableQuery.Proofs.Query.Respaced
import TableQuery.Proofs.Query.Runs
import TableQuery.Proofs.Query.Uncommented
import TableQuery.Proofs.Row.Projected
import TableQuery.Proofs.Execution.Rerun
import TableQuery.Proofs.Execution.ResultColumns
import TableQuery.Proofs.Execution.Events
import TableQuery.Proofs.Filter.Fusion
import TableQuery.Proofs.Csv.ColumnNames
import TableQuery.Proofs.Join.BaseConditions
import TableQuery.Proofs.Execution.TurnedCondition
import TableQuery.Proofs.Query.SpanSpace
import TableQuery.Proofs.Query.Blanks
import TableQuery.Proofs.Query.BareConditions
import TableQuery.Proofs.Sql.SourceText
import TableQuery.Proofs.Query.Inequality
import TableQuery.Proofs.Text.Utf8
import TableQuery.Proofs.Csv.Regular
import TableQuery.Proofs.Result.Drawing
import TableQuery.Proofs.Number.Magnitude
import TableQuery.Proofs.Number.Rounding
import TableQuery.Proofs.Number.DecimalValue
import TableQuery.Proofs.Number.Bits
import TableQuery.Proofs.Number.Numeral
import TableQuery.Proofs.Number.Shape
import TableQuery.Proofs.Value.Coercion
import TableQuery.Proofs.Value.ReadBack
import TableQuery.Proofs.Number.Printed
import TableQuery.Proofs.Number.Zeros
import TableQuery.Proofs.Group.Reprinted
import TableQuery.Proofs.Json.ReadBack
import TableQuery.Proofs.Row.History
import TableQuery.Proofs.Row.ColumnText
import TableQuery.Proofs.Group.Separated
