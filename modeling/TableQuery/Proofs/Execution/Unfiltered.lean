import TableQuery.Proofs.Execution.JoinedRows
import TableQuery.Proofs.Execution.School
import TableQuery.Proofs.Join.ConditionColumns
import TableQuery.Proofs.Query.Accepted
import TableQuery.Proofs.Row.Omission

/-! What the conditions of a query do to its result. They leave rows out and change none, except that
a wildcard over a join also copies the columns that the join carries for the conditions, in the places
where the join carries them. -/

namespace TableQuery

section

variable {query : Query} {clause : JoinClause} {base joined : List Row} {pair : Pair}

theorem mem_selectedColumns {field : Field} (member : field ∈ query.fields) {column : String}
    (plain : field.kind = .plain column) : column ∈ query.selectedColumns :=
  List.mem_filterMap.2 ⟨field, member, by simp [Field.column?, plain]⟩

theorem rearranged_resultRow (ungrouped : query.groupBy = none)
    (unshadowed : query.Unshadowed clause base joined)
    (combines : clause.kind.Combines (clause.condition.oriented query.table clause.table) base
      joined pair) :
    (resultRow query clause base joined pair).Rearranged (query.conditionColumns.map .ofText)
      ((query.broughtColumns clause base joined).map .ofText)
      (resultRow query.unfiltered clause base joined pair) := by
  refine rearranged_projectRow (fun _ => rearranged_row ungrouped _ _) ?_
  intro field member column plain
  exact getD_get?_row ungrouped unshadowed combines _ (mem_selectedColumns member plain)

theorem resultRow_unfiltered (ungrouped : query.groupBy = none)
    (unshadowed : query.Unshadowed clause base joined)
    (combines : clause.kind.Combines (clause.condition.oriented query.table clause.table) base
      joined pair)
    (settled : query.hasWildcard = false ∨ query.conditionColumns = []) :
    resultRow query clause base joined pair = resultRow query.unfiltered clause base joined pair := by
  rcases settled with noWildcard | noneMoved
  · have uncopied : ¬ ∃ field ∈ query.fields, field.isWildcard := by
      simpa [Query.hasWildcard] using noWildcard
    have rearranged : (resultRow query clause base joined pair).Rearranged [] []
        (resultRow query.unfiltered clause base joined pair) := by
      refine rearranged_projectRow (fun copied => absurd copied uncopied) ?_
      intro field member column plain
      exact getD_get?_row ungrouped unshadowed combines _ (mem_selectedColumns member plain)
    exact rearranged.eq
  · have rearranged := rearranged_resultRow ungrouped unshadowed combines
    rw [noneMoved, List.map_nil] at rearranged
    exact rearranged.eq

end

theorem Query.Projects.unfiltered {query : Query} (projects : query.Projects) :
    query.unfiltered.Projects :=
  ⟨projects.ungrouped, projects.unaggregated⟩

theorem execute_unfiltered_of_input {source : Source} {query : Query} {rows : List Row}
    (projects : query.Projects) (input : (inputStage source query.unfiltered).outcome = .ok rows) :
    (execute source query.unfiltered).outcome = .ok (project query.fields rows) :=
  (execute_eq_ok_iff projects.unfiltered).2 ⟨rows, rows, input, keepRows_no_predicates rows, rfl⟩

theorem execute_unfiltered_of_table {source : Source} {query : Query} {result : List Row}
    (projects : query.Projects) (single : query.join = none)
    (succeeds : (execute source query).outcome = .ok result) :
    ∃ all, (execute source query.unfiltered).outcome = .ok all ∧ result.Sublist all := by
  obtain ⟨rows, kept, input, filtered, rfl⟩ := (execute_eq_ok_iff projects).1 succeeds
  have sameInput : (inputStage source query.unfiltered).outcome = .ok rows := by
    have singleToo : query.unfiltered.join = none := single
    rw [outcome_inputStage_of_table singleToo, ← input, outcome_inputStage_of_table single]
    rfl
  exact ⟨_, execute_unfiltered_of_input projects sameInput, (sublist_of_keepRows filtered).map _⟩

theorem execute_unfiltered_of_join {source : Source} {query : Query} {clause : JoinClause}
    {result : List Row} (projects : query.Projects) (join : query.join = some clause)
    (succeeds : (execute source query).outcome = .ok result) :
    ∃ (base joined : List Row) (pairs : List Pair),
      source query.table = .ok base ∧ source clause.table = .ok joined ∧
        pairs.Sublist (joinPairs query clause base joined) ∧
        result = pairs.map (resultRow query clause base joined) ∧
        (execute source query.unfiltered).outcome =
          .ok ((joinPairs query clause base joined).map
            (resultRow query.unfiltered clause base joined)) := by
  obtain ⟨supported, base, joined, pairs, fetchBase, fetchJoined, sublist, rows⟩ :=
    exists_pairs_of_execute projects join succeeds
  have joinToo : query.unfiltered.join = some clause := join
  have executed := execute_unfiltered_of_input projects
    (inputStage_of_joinPairs joinToo supported fetchBase fetchJoined)
  rw [project, List.map_map] at executed
  exact ⟨base, joined, pairs, fetchBase, fetchJoined, sublist, rows, executed⟩

/-- A query that was read gives some of the rows that it gives without its conditions. They are the
same rows, unless a wildcard over a join copies columns that are read for the conditions alone; then
they have these in places of their own, and those that only the conditions bring in may be new. -/
theorem execute_unfiltered {source : Source} {text : String} {query : Query} {result : List Row}
    (accepted : (readQuery text).outcome = .ok query) (ungrouped : query.groupBy = none)
    (unaggregated : ∀ field ∈ query.fields, field.isAggregate = false)
    (unshadowed : ∀ clause ∈ query.join, ∀ base joined, source query.table = .ok base →
      source clause.table = .ok joined → query.Unshadowed clause base joined)
    (succeeds : (execute source query).outcome = .ok result) :
    ∃ all, (execute source query.unfiltered).outcome = .ok all ∧
      (query.join = none ∨ query.hasWildcard = false ∨ query.conditionColumns = [] →
        result.Sublist all) ∧
      ∀ clause ∈ query.join, ∀ base joined, source query.table = .ok base →
        source clause.table = .ok joined →
          List.SublistForall₂ (Row.Rearranged (query.conditionColumns.map .ofText)
            ((query.broughtColumns clause base joined).map .ofText)) result all := by
  have projects := projects_of_readQuery accepted ungrouped unaggregated
  cases join : query.join with
  | none =>
    obtain ⟨all, executed, sublist⟩ := execute_unfiltered_of_table projects join succeeds
    exact ⟨all, executed, fun _ => sublist, fun clause none => by cases none⟩
  | some clause =>
    obtain ⟨base, joined, pairs, fetchBase, fetchJoined, fewer, rfl, executed⟩ :=
      execute_unfiltered_of_join projects join succeeds
    have clear := unshadowed clause join base joined fetchBase fetchJoined
    refine ⟨_, executed, ?_, ?_⟩
    · intro settled
      have same : pairs.map (resultRow query clause base joined) =
          pairs.map (resultRow query.unfiltered clause base joined) :=
        List.map_congr_left fun pair member =>
          resultRow_unfiltered ungrouped clear (combines_of_mem_pairs (fewer.subset member))
            (settled.resolve_left (by simp))
      rw [same]
      exact fewer.map _
    · rintro _ ⟨⟩ base' joined' fetchBase' fetchJoined'
      obtain rfl : base = base' := Except.ok.inj (fetchBase.symm.trans fetchBase')
      obtain rfl : joined = joined' := Except.ok.inj (fetchJoined.symm.trans fetchJoined')
      refine List.sublistForall₂_iff.2 ⟨_, ?_, fewer.map _⟩
      rw [List.forall₂_map_left_iff, List.forall₂_map_right_iff, List.forall₂_same]
      exact fun pair member =>
        rearranged_resultRow ungrouped clear (combines_of_mem_pairs (fewer.subset member))

def physicsText : String :=
  "SELECT * FROM student JOIN enrollment ON student.id = enrollment.student_id " ++
    "WHERE enrollment.course = 'Physics'"

def physicsStudents : Query where
  fields := [⟨"*", .wildcard⟩]
  table := "student"
  join := some studentEnrollments
  conditions := [⟨"enrollment.course", .equal, "'Physics'"⟩]
  groupBy := none
  aggregatesAll := false

theorem readQuery_physicsText : (readQuery physicsText).outcome = .ok physicsStudents :=
  eq_ok_of_toOption (by decide +kernel)

theorem execute_unfiltered_school :
    ∃ result all, (execute school physicsStudents).outcome = .ok result ∧ result.length = 2 ∧
      (execute school physicsStudents.unfiltered).outcome = .ok all ∧
        List.SublistForall₂ (Row.Rearranged [.qualified "enrollment" "course"] []) result all := by
  have unshadowed : ∀ clause ∈ physicsStudents.join, ∀ base joined,
      school physicsStudents.table = .ok base → school clause.table = .ok joined →
        physicsStudents.Unshadowed clause base joined := by
    rintro _ ⟨⟩ _ _ ⟨⟩ ⟨⟩
    decide
  have filtered : (execute school physicsStudents).outcome.toOption.map List.length = some 2 := by
    decide +kernel
  obtain ⟨result, found, length⟩ := Option.map_eq_some_iff.1 filtered
  have succeeds := eq_ok_of_toOption found
  obtain ⟨all, executed, -, rearranged⟩ := execute_unfiltered readQuery_physicsText rfl (by decide)
    unshadowed succeeds
  exact ⟨result, all, succeeds, length, executed,
    rearranged studentEnrollments rfl students enrollments rfl rfl⟩

/-- The course, which the condition reads, comes first in the rows that the condition keeps and last
in those without it. -/
theorem execute_physicsStudents_reordered :
    (readQuery physicsText).outcome = .ok physicsStudents ∧ physicsStudents.groupBy = none ∧
      (∀ field ∈ physicsStudents.fields, field.isAggregate = false) ∧
      ∃ result all, (execute school physicsStudents).outcome = .ok result ∧
        (execute school physicsStudents.unfiltered).outcome = .ok all ∧ ¬ result.Sublist all :=
  ⟨readQuery_physicsText, rfl, by decide, _, _, rfl, rfl, by decide⟩

end TableQuery
