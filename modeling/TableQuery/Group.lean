import TableQuery.Aggregate

/-! Aggregates group by group. The rows are read once, in order. A group keeps a count of its rows
and tallies of their columns, and the tally of a column serves every entry of the select list that
needs it. -/

namespace TableQuery

inductive Tally where
  | sum
  | least
  | greatest
  deriving DecidableEq

namespace Tally

/-- What a row gives to a tally. A sum takes zero for what is not a number; the others take
nothing. -/
def reading (tally : Tally) (column : String) (row : Row) : Option Float :=
  match tally with
  | sum => some ((numberIn? column row).getD 0)
  | least | greatest => numberIn? column row

def combine : Tally → Float → Float → Float
  | sum => (· + ·)
  | least => lesserOf
  | greatest => greaterOf

def start (tally : Tally) (n : Float) : Float :=
  match tally with
  | sum => 0
  | least | greatest => n

def take (tally : Tally) (n : Float) (total : Option Float) : Float :=
  tally.combine (total.getD (tally.start n)) n

end Tally

def Aggregate.tally? : Aggregate → Option (Tally × String)
  | count => none
  | sum column | average column => some (.sum, column)
  | minimum column => some (.least, column)
  | maximum column => some (.greatest, column)

structure Group where
  /-- The values of the first row in the columns that are grouped by. -/
  values : List Value
  count : Nat
  totals : List ((Tally × String) × Float)

namespace Group

def new (values : List Value) : Group := ⟨values, 0, []⟩

def total? (group : Group) (tally : Tally) (column : String) : Option Float :=
  group.totals.lookup (tally, column)

def takeReading (group : Group) (tally : Tally) (column : String) (n : Float) : Group :=
  { group with
    totals := Keyed.set group.totals (tally, column) (tally.take n (group.total? tally column)) }

def takeEntry (row : Row) (group : Group) (field : Field) : Group :=
  match field.aggregate?.bind Aggregate.tally? with
  | none => group
  | some (tally, column) =>
    match tally.reading column row with
    | none => group
    | some n => group.takeReading tally column n

def add (fields : List Field) (group : Group) (row : Row) : Group :=
  fields.foldl (takeEntry row) { group with count := group.count + 1 }

def value (group : Group) : Aggregate → Value
  | .count => .number (Number.ofNat group.count)
  | .sum column => .number ((group.total? .sum column).getD 0)
  | .average column => averageOf ((group.total? .sum column).getD 0) group.count
  | .minimum column => ((group.total? .least column).map .number).getD .null
  | .maximum column => ((group.total? .greatest column).map .number).getD .null

end Group

def labelRow (groupBy : List String) (values : List Value) : Row :=
  (groupBy.zip values).foldl (fun label (column, value) => label.insert column value) .empty

def Group.row (groupBy : List String) (fields : List Field) (group : Group) : Row :=
  setAggregates fields group.value (labelRow groupBy group.values)

def groupValues (groupBy : List String) (row : Row) : List Value :=
  groupBy.map fun column => (row.get? column).getD .null

/-- Values that contain the separator can give different rows the same key. -/
def groupKey (values : List Value) : String := "-".intercalate (values.map Value.keyText)

structure Grouping where
  groups : Array Group
  places : List (String × Nat)

namespace Grouping

def empty : Grouping := ⟨#[], []⟩

/-- The place of the group with this key. A key that is new gets a group at the end. -/
def place (grouping : Grouping) (values : List Value) : Grouping × Nat :=
  match grouping.places.lookup (groupKey values) with
  | some place => (grouping, place)
  | none =>
    let place := grouping.groups.size
    (⟨grouping.groups.push (.new values), Keyed.set grouping.places (groupKey values) place⟩, place)

def add (groupBy : List String) (fields : List Field) (grouping : Grouping) (row : Row) :
    Grouping :=
  let (placed, place) := grouping.place (groupValues groupBy row)
  { placed with groups := placed.groups.modify place (·.add fields row) }

end Grouping

def aggregateGroups (groupBy : List String) (fields : List Field) (rows : List Row) : List Row :=
  (rows.foldl (Grouping.add groupBy fields) .empty).groups.toList.map (Group.row groupBy fields)

@[simp] theorem aggregateGroups_nil (groupBy : List String) (fields : List Field) :
    aggregateGroups groupBy fields [] = [] := rfl

end TableQuery
