import TableQuery.Coercion
import TableQuery.Query.Field
import TableQuery.Row

/-! Aggregates of rows, and the row of all aggregates of a select list. -/

namespace TableQuery

def numberIn? (column : String) (row : Row) : Option Float :=
  (row.get? column).bind Value.numeric?

/-- What is not a number counts as zero. -/
def sumColumn (column : String) (rows : List Row) : Float :=
  rows.foldl (fun total row => total + (numberIn? column row).getD 0) 0

def averageOf (total : Float) (count : Nat) : Value :=
  if count = 0 then .null else .number (total / Number.ofNat count)

/-- The lesser of two numbers; what is not a number gives way to the other. -/
def lesserOf (a b : Float) : Float :=
  if Number.isNaN a then b else if Number.isNaN b then a else if b < a then b else a

def greaterOf (a b : Float) : Float :=
  if Number.isNaN a then b else if Number.isNaN b then a else if a < b then b else a

def extreme (pick : Float → Float → Float) (column : String) (rows : List Row) : Value :=
  match rows.filterMap (numberIn? column) with
  | [] => .null
  | n :: rest => .number (rest.foldl pick n)

def Aggregate.value (rows : List Row) : Aggregate → Value
  | .count => .number (Number.ofNat rows.length)
  | .sum column => .number (sumColumn column rows)
  | .average column => averageOf (sumColumn column rows) rows.length
  | .minimum column => extreme lesserOf column rows
  | .maximum column => extreme greaterOf column rows

def setAggregates (fields : List Field) (value : Aggregate → Value) (start : Row) : Row :=
  fields.foldl (fun row field =>
    match field.aggregate? with
    | some aggregate => row.insert field.text (value aggregate)
    | none => row) start

def aggregateAll (fields : List Field) (rows : List Row) : Row :=
  setAggregates fields (Aggregate.value rows) .empty

end TableQuery
