import TableQuery.Filter
import TableQuery.Group
import TableQuery.Join
import TableQuery.Projection
import TableQuery.Query.Grammar
import TableQuery.Source

/-! How a query is executed: its tables are fetched and joined, the rows filtered, and what is
left aggregated or projected. Each stage that succeeds notes an event. -/

namespace TableQuery

inductive Event where
  | queryParsed (table : String) (joined : Option String) (predicates : Nat)
  | tableFetched (table : String) (rows : Nat)
  | joinCompleted (kind : JoinKind) (rows : Nat)
  | rowsFiltered (before after : Nat)
  | rowsAggregated (grouped : Bool) (groups : Nat)
  | queryCompleted (rows : Nat)
  deriving DecidableEq

abbrev Execution (α : Type) : Type := Traced Event α

def fetchTable (source : Source) (table : String) : Execution (List Row) := do
  let rows ← .ofExcept ((source table).mapError .source)
  .note (.tableFetched table rows.length)
  pure rows

def joinStage (query : Query) (clause : JoinClause) (base joined : List Row) :
    Execution (List Row) := do
  let rows ← .ofExcept
    ((joinRows clause.kind (joinSpec query clause base joined) base joined).mapError
      fun name => .unsupported (.joinKind name))
  .note (.joinCompleted clause.kind rows.length)
  pure rows

/-- The rows before any condition. The base table is fetched before the joined one. -/
def inputStage (source : Source) (query : Query) : Execution (List Row) := do
  let base ← fetchTable source query.table
  match query.join with
  | none => pure base
  | some clause =>
    let joined ← fetchTable source clause.table
    joinStage query clause base joined

def filterStage (predicates : List Predicate) (rows : List Row) : Execution (List Row) := do
  if predicates.isEmpty then pure rows
  else
    let kept ← .ofExcept (keepRows predicates rows)
    .note (.rowsFiltered rows.length kept.length)
    pure kept

def resultStage (query : Query) (rows : List Row) : Execution (List Row) := do
  if query.aggregatesAll then
    .note (.rowsAggregated false 1)
    pure [aggregateAll query.fields rows]
  else match query.groupBy with
    | some columns =>
      let groups := aggregateGroups columns query.fields rows
      .note (.rowsAggregated true groups.length)
      pure groups
    | none => pure (project query.fields rows)

def execute (source : Source) (query : Query) : Execution (List Row) := do
  .note (.queryParsed query.table (query.join.map JoinClause.table) query.conditions.length)
  let input ← inputStage source query
  let kept ← filterStage query.conditions input
  let result ← resultStage query kept
  .note (.queryCompleted result.length)
  pure result

/-- A text that is no query fails before the first event. -/
def executeText (source : Source) (text : String) : Execution (List Row) :=
  match (readQuery text).outcome with
  | .ok query => execute source query
  | .error error => .fail error

end TableQuery
