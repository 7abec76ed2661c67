import TableQuery.Except
import TableQuery.Execution

/-! What an execution returns, apart from the events it notes. The outcome of every stage is that of
the function it calls, so a query that neither groups nor aggregates filters its input and projects
what is left. -/

namespace TableQuery

theorem outcome_fetchTable (source : Source) (table : String) :
    (fetchTable source table).outcome = (source table).mapError .source :=
  Traced.outcome_noted (.ofExcept _) _

theorem outcome_joinStage (query : Query) (clause : JoinClause) (base joined : List Row) :
    (joinStage query clause base joined).outcome =
      (joinRows clause.kind (joinSpec query clause base joined) base joined).mapError
        fun name => .unsupported (.joinKind name) :=
  Traced.outcome_noted (.ofExcept _) _

theorem outcome_filterStage (predicates : List Predicate) (rows : List Row) :
    (filterStage predicates rows).outcome = keepRows predicates rows := by
  unfold filterStage
  split
  next none =>
    rw [List.isEmpty_iff.1 none, keepRows_no_predicates]
    rfl
  next => exact Traced.outcome_noted (.ofExcept _) _

theorem outcome_inputStage_of_table {source : Source} {query : Query} (single : query.join = none) :
    (inputStage source query).outcome = (source query.table).mapError .source := by
  rw [inputStage, Traced.outcome_bind, outcome_fetchTable, single]
  cases source query.table with
  | error error => rfl
  | ok base => rfl

theorem outcome_inputStage_of_join {source : Source} {query : Query} {clause : JoinClause}
    {base joined : List Row} (join : query.join = some clause)
    (fetchBase : source query.table = .ok base) (fetchJoined : source clause.table = .ok joined) :
    (inputStage source query).outcome =
      (joinRows clause.kind (joinSpec query clause base joined) base joined).mapError
        fun name => .unsupported (.joinKind name) := by
  rw [inputStage, Traced.outcome_bind, outcome_fetchTable, fetchBase, join, ← outcome_joinStage]
  change (fetchTable source clause.table >>= _).outcome = _
  rw [Traced.outcome_bind, outcome_fetchTable, fetchJoined]
  rfl

theorem inputStage_eq_ok_of_join {source : Source} {query : Query} {clause : JoinClause}
    {rows : List Row} (join : query.join = some clause)
    (succeeds : (inputStage source query).outcome = .ok rows) :
    ∃ base joined, source query.table = .ok base ∧ source clause.table = .ok joined ∧
      joinRows clause.kind (joinSpec query clause base joined) base joined = .ok rows := by
  have opened := succeeds
  rw [inputStage, Traced.outcome_bind, bind_eq_ok_iff] at opened
  obtain ⟨base, fetchBase, opened⟩ := opened
  rw [join] at opened
  change (fetchTable source clause.table >>= _).outcome = _ at opened
  rw [Traced.outcome_bind, bind_eq_ok_iff] at opened
  obtain ⟨joined, fetchJoined, opened⟩ := opened
  rw [outcome_fetchTable, mapError_eq_ok_iff] at fetchBase fetchJoined
  rw [outcome_joinStage, mapError_eq_ok_iff] at opened
  exact ⟨base, joined, fetchBase, fetchJoined, opened⟩

/-- The rows that a query shows of those that its conditions keep. -/
def resultRows (query : Query) (rows : List Row) : List Row :=
  if query.aggregatesAll then [aggregateAll query.fields rows]
  else match query.groupBy with
    | some columns => aggregateGroups columns query.fields rows
    | none => project query.fields rows

theorem Query.Projects.resultRows_eq {query : Query} (projects : query.Projects)
    (rows : List Row) : resultRows query rows = project query.fields rows := by
  simp [resultRows, projects.unaggregated, projects.ungrouped]

theorem outcome_resultStage (query : Query) (rows : List Row) :
    (resultStage query rows).outcome = .ok (resultRows query rows) := by
  unfold resultStage resultRows
  split
  next => rfl
  next =>
    cases query.groupBy with
    | none => rfl
    | some columns => rfl

theorem outcome_execute_eq_bind (source : Source) (query : Query) :
    (execute source query).outcome = (inputStage source query).outcome.bind fun rows =>
      (keepRows query.conditions rows).map (resultRows query) := by
  rw [execute, Traced.note_bind]
  change (inputStage source query >>= _).outcome = _
  rw [Traced.outcome_bind]
  congr 1
  funext rows
  rw [Traced.outcome_bind, outcome_filterStage]
  cases keepRows query.conditions rows with
  | error error => rfl
  | ok kept =>
    change (resultStage query kept >>= _).outcome = _
    rw [Traced.outcome_noted, outcome_resultStage]
    rfl

theorem outcome_execute {source : Source} {query : Query} (projects : query.Projects) :
    (execute source query).outcome = (inputStage source query).outcome.bind fun rows =>
      (keepRows query.conditions rows).map (project query.fields) := by
  have shown : resultRows query = project query.fields := funext projects.resultRows_eq
  rw [outcome_execute_eq_bind, shown]

theorem execute_eq_ok_iff {source : Source} {query : Query} {result : List Row}
    (projects : query.Projects) :
    (execute source query).outcome = .ok result ↔ ∃ rows kept,
      (inputStage source query).outcome = .ok rows ∧ keepRows query.conditions rows = .ok kept ∧
        project query.fields kept = result := by
  rw [outcome_execute projects, bind_eq_ok_iff]
  simp only [map_eq_ok_iff]
  constructor
  · rintro ⟨rows, input, kept, filtered, projected⟩
    exact ⟨rows, kept, input, filtered, projected⟩
  · rintro ⟨rows, kept, input, filtered, projected⟩
    exact ⟨rows, input, kept, filtered, projected⟩

end TableQuery
