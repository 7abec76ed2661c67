import TableQuery.Proofs.Execution.Outcome
import TableQuery.Proofs.Filter.Kept
import TableQuery.Proofs.Join.Kinds

/-! The result of a query over a join, row by row. Each of its rows is the projection of a row built
from one pair of the join, and the pairs come in the order of the join. -/

namespace TableQuery

/-- The row of the result that a pair gives when the conditions keep it. -/
def resultRow (query : Query) (clause : JoinClause) (base joined : List Row) (pair : Pair) : Row :=
  projectRow query.fields
    ((pair.padded base).row (joinSpec query clause base joined) clause.kind.isOuter)

def joinPairs (query : Query) (clause : JoinClause) (base joined : List Row) : List Pair :=
  clause.kind.pairs (clause.condition.oriented query.table clause.table) base joined

theorem inputStage_of_joinPairs {source : Source} {query : Query} {clause : JoinClause}
    {base joined : List Row} (join : query.join = some clause)
    (supported : clause.kind.isSupported) (fetchBase : source query.table = .ok base)
    (fetchJoined : source clause.table = .ok joined) :
    (inputStage source query).outcome = .ok ((joinPairs query clause base joined).map fun pair =>
      (pair.padded base).row (joinSpec query clause base joined) clause.kind.isOuter) := by
  rw [outcome_inputStage_of_join join fetchBase fetchJoined, joinRows_eq_map supported]
  rfl

theorem exists_pairs_of_execute {source : Source} {query : Query} {clause : JoinClause}
    {result : List Row} (projects : query.Projects) (join : query.join = some clause)
    (succeeds : (execute source query).outcome = .ok result) :
    clause.kind.isSupported ∧ ∃ (base joined : List Row) (pairs : List Pair),
      source query.table = .ok base ∧ source clause.table = .ok joined ∧
        pairs.Sublist (joinPairs query clause base joined) ∧
        result = pairs.map (resultRow query clause base joined) := by
  obtain ⟨rows, kept, input, filtered, rfl⟩ := (execute_eq_ok_iff projects).1 succeeds
  obtain ⟨base, joined, fetchBase, fetchJoined, joins⟩ := inputStage_eq_ok_of_join join input
  have supported := isSupported_of_joinRows joins
  rw [joinRows_eq_map supported] at joins
  have fewer := sublist_of_keepRows filtered
  rw [← Except.ok.inj joins] at fewer
  obtain ⟨pairs, sublist, rfl⟩ := List.sublist_map_iff.1 fewer
  refine ⟨supported, base, joined, pairs, fetchBase, fetchJoined, sublist, ?_⟩
  rw [project, List.map_map]
  rfl

theorem find?_projectRow_wildcard (text : String) (row : Row) (key : ColumnKey) :
    (projectRow [⟨text, .wildcard⟩] row).find? key = row.find? key := by
  change (Row.empty.setAll row.columns).find? key = _
  rw [Row.find?_setAll row.distinct, Row.find?_empty, Option.or_none, Row.find?]

end TableQuery
