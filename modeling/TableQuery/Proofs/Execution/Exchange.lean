import TableQuery.Proofs.Execution.Outcome
import TableQuery.Proofs.Execution.School
import TableQuery.Proofs.Filter.Kept
import TableQuery.Proofs.Join.Coverage

/-! The order in which a query names the tables of an inner join. When every column says which table
it is from, both orders build the same row from a match, and they go through the matches in orders of
their own. -/

namespace TableQuery

def JoinCondition.Relates (condition : JoinCondition) (table other : String) : Prop :=
  ((ColumnKey.ofText condition.left).table = some table ∧
      (ColumnKey.ofText condition.right).table = some other) ∨
    (ColumnKey.ofText condition.left).table = some other ∧
      (ColumnKey.ofText condition.right).table = some table

theorem JoinCondition.Relates.oriented {condition : JoinCondition} {base joined : String}
    (relates : condition.Relates base joined) (distinct : base ≠ joined) :
    condition.oriented joined base =
      ⟨(condition.oriented base joined).right, (condition.oriented base joined).left⟩ := by
  rcases relates with ⟨left, right⟩ | ⟨left, right⟩
  · simp [JoinCondition.oriented, isReversed, left, right, distinct, distinct.symm]
  · simp [JoinCondition.oriented, isReversed, left, right, distinct, distinct.symm]

def Query.exchanged (query : Query) (clause : JoinClause) : Query :=
  { query with table := clause.table, join := some { clause with table := query.table } }

theorem joinFields_of_no_wildcard {query : Query} (noWildcard : query.hasWildcard = false)
    (clause : JoinClause) (base joined : List Row) :
    joinFields query clause base joined = query.referencedColumns := by
  simp [joinFields, noWildcard]

theorem joinSpec_exchanged {query : Query} {clause : JoinClause}
    (relates : clause.condition.Relates query.table clause.table)
    (distinct : query.table ≠ clause.table) (noWildcard : query.hasWildcard = false)
    (base joined : List Row) :
    joinSpec (query.exchanged clause) { clause with table := query.table } joined base =
      (joinSpec query clause base joined).swapped clause.table := by
  have fields : joinFields (query.exchanged clause) { clause with table := query.table } joined
      base = joinFields query clause base joined := by
    have noWildcardExchanged : (query.exchanged clause).hasWildcard = false := noWildcard
    rw [joinFields_of_no_wildcard noWildcard, joinFields_of_no_wildcard noWildcardExchanged]
    rfl
  simp only [joinSpec, fields, JoinSpec.swapped]
  rw [← relates.oriented distinct]
  rfl

section

variable {spec : JoinSpec} {joinTable : String}

theorem innerRow_swapped (distinct : spec.baseTable ≠ joinTable)
    (tagged : ∀ field ∈ spec.fields, (ColumnKey.ofText field).table = some spec.baseTable ∨
      (ColumnKey.ofText field).table = some joinTable) (b j : Row) :
    (spec.swapped joinTable).innerRow (j, b) = spec.innerRow (b, j) := by
  have sameValue : ∀ field ∈ spec.fields,
      Pair.value? ⟨some j, some b⟩ joinTable (.ofText field) =
        Pair.value? ⟨some b, some j⟩ spec.baseTable (.ofText field) := by
    intro field requested
    rcases tagged field requested with ofBase | ofJoin
    · rw [value?_baseField ofBase, value?_partnerField distinct ofBase]
    · rw [value?_joinField distinct ofJoin]
  refine List.foldl_ext _ _ _ fun row field requested => ?_
  change Pair.carry ⟨some j, some b⟩ joinTable row field =
    Pair.carry ⟨some b, some j⟩ spec.baseTable row field
  rw [Pair.carry, Pair.carry, sameValue field requested]

theorem innerJoin_swapped_perm (distinct : spec.baseTable ≠ joinTable)
    (tagged : ∀ field ∈ spec.fields, (ColumnKey.ofText field).table = some spec.baseTable ∨
      (ColumnKey.ofText field).table = some joinTable) (base joined : List Row) :
    (innerJoin spec base joined).Perm (innerJoin (spec.swapped joinTable) joined base) := by
  have pairs : matchedPairs (spec.swapped joinTable).condition joined base =
      (joined ×ˢ base).filter fun pair => rowsMatch spec.condition pair.2 pair.1 := by
    refine List.filter_congr fun pair _ => ?_
    exact rowsMatch_swap spec.condition pair.2 pair.1
  have rows : innerJoin spec base joined = ((matchedPairs spec.condition base joined).map
      Prod.swap).map (spec.swapped joinTable).innerRow := by
    rw [innerJoin_eq_map, List.map_map]
    exact List.map_congr_left fun pair _ => (innerRow_swapped distinct tagged pair.1 pair.2).symm
  rw [rows, innerJoin_eq_map, pairs]
  exact (map_swap_matchedPairs_perm spec.condition base joined).map _

end

/-- Without a wildcard, and with every column tagged, an inner join gives the same rows in another
order when its tables change places, or finds a row without a column of a condition both times. -/
theorem execute_exchanged {source : Source} {query : Query} {clause : JoinClause}
    {base joined : List Row} (projects : query.Projects) (noWildcard : query.hasWildcard = false)
    (join : query.join = some clause) (inner : clause.kind = .inner)
    (distinct : query.table ≠ clause.table)
    (fetchBase : source query.table = .ok base) (fetchJoined : source clause.table = .ok joined)
    (tagged : ∀ column ∈ query.referencedColumns,
      (ColumnKey.ofText column).table = some query.table ∨
        (ColumnKey.ofText column).table = some clause.table)
    (relates : clause.condition.Relates query.table clause.table) :
    (∃ result other, (execute source query).outcome = .ok result ∧
        (execute source (query.exchanged clause)).outcome = .ok other ∧ result.Perm other) ∨
      ∃ name otherName, (execute source query).outcome = .error (.field name) ∧
        (execute source (query.exchanged clause)).outcome = .error (.field otherName) := by
  have fields : (joinSpec query clause base joined).fields = query.referencedColumns :=
    joinFields_of_no_wildcard noWildcard clause base joined
  have rows : (inputStage source query).outcome =
      .ok (innerJoin (joinSpec query clause base joined) base joined) := by
    rw [outcome_inputStage_of_join join fetchBase fetchJoined, inner]
    rfl
  have exchangedRows : (inputStage source (query.exchanged clause)).outcome =
      .ok (innerJoin ((joinSpec query clause base joined).swapped clause.table) joined base) := by
    have exchangedJoin : (query.exchanged clause).join =
        some { clause with table := query.table } := rfl
    rw [outcome_inputStage_of_join exchangedJoin fetchJoined fetchBase,
      joinSpec_exchanged relates distinct noWildcard, inner]
    rfl
  have exchangedProjects : (query.exchanged clause).Projects :=
    ⟨projects.ungrouped, projects.unaggregated⟩
  have reordered : (innerJoin (joinSpec query clause base joined) base joined).Perm
      (innerJoin ((joinSpec query clause base joined).swapped clause.table) joined base) :=
    innerJoin_swapped_perm distinct (fields ▸ tagged) base joined
  rw [outcome_execute projects, outcome_execute exchangedProjects, rows, exchangedRows]
  change
    (∃ result other, (keepRows query.conditions _).map (project query.fields) = .ok result ∧
        (keepRows query.conditions _).map (project query.fields) = .ok other ∧
          result.Perm other) ∨
      ∃ name otherName, (keepRows query.conditions _).map (project query.fields) =
          .error (.field name) ∧
        (keepRows query.conditions _).map (project query.fields) = .error (.field otherName)
  rcases keepRows_perm reordered with
    ⟨kept, other, keeps, keepsOther, perm⟩ | ⟨name, otherName, fails, failsOther⟩
  · rw [keeps, keepsOther]
    exact .inl ⟨project query.fields kept, project query.fields other, rfl, rfl, perm.map _⟩
  · rw [fails, failsOther]
    exact .inr ⟨name, otherName, rfl, rfl⟩

def coursesByAge : Query where
  fields := [⟨"student.name", .plain "student.name"⟩, ⟨"enrollment.course",
    .plain "enrollment.course"⟩]
  table := "student"
  join := some studentEnrollments
  conditions := [⟨"enrollment.course", .notEqual, "Art"⟩, ⟨"student.age", .greater, "20"⟩]
  groupBy := none
  aggregatesAll := false

theorem execute_exchanged_school :
    ∃ result other, (execute school coursesByAge).outcome = .ok result ∧ result.length = 3 ∧
      (execute school (coursesByAge.exchanged studentEnrollments)).outcome = .ok other ∧
        result.Perm other := by
  have executed : (execute school coursesByAge).outcome.toOption.map List.length = some 3 := by
    decide +kernel
  obtain ⟨result, found, length⟩ := Option.map_eq_some_iff.1 executed
  have succeeds := eq_ok_of_toOption found
  have projects : coursesByAge.Projects := ⟨rfl, rfl⟩
  have join : coursesByAge.join = some studentEnrollments := rfl
  rcases execute_exchanged projects rfl join rfl (by decide)
    (rfl : school "student" = .ok students) (rfl : school "enrollment" = .ok enrollments)
    (by decide) (.inl ⟨by decide, by decide⟩) with
    ⟨own, other, read, exchanged, perm⟩ | ⟨name, otherName, fails, -⟩
  · obtain rfl : own = result := Except.ok.inj (read.symm.trans succeeds)
    exact ⟨own, other, read, length, exchanged, perm⟩
  · cases fails.symm.trans succeeds

end TableQuery
