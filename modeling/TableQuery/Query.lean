import TableQuery.FirstSeen
import TableQuery.Query.Field
import TableQuery.Query.JoinClause
import TableQuery.Query.Predicate

/-! A query over one table or a join of two. All its conditions have to hold. -/

namespace TableQuery

structure Query where
  fields : List Field
  table : String
  join : Option JoinClause
  conditions : List Predicate
  groupBy : Option (List String)
  /-- The result is one row of aggregates over all rows. -/
  aggregatesAll : Bool
  deriving DecidableEq

namespace Query

structure Projects (query : Query) : Prop where
  ungrouped : query.groupBy = none
  unaggregated : query.aggregatesAll = false

def hasWildcard (query : Query) : Bool := query.fields.any Field.isWildcard

def referencedColumns (query : Query) : List String :=
  firstSeen (query.fields.filterMap Field.column? ++ query.conditions.map Predicate.field ++
    query.groupBy.getD [])

end Query

end TableQuery
