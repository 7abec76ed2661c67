import TableQuery.Proofs.Group.Extremes
import TableQuery.Proofs.Row.Setting

/-! The row of a group. It is named by the values of the group's first row and carries the
aggregates of the select list over the group's rows; where no sums are shared, those are the columns
of the aggregates of these rows by themselves. -/

namespace TableQuery

def aggregateColumns (fields : List Field) (value : Aggregate → Value) :
    List (ColumnKey × Value) :=
  fields.filterMap fun field => field.aggregate?.map fun aggregate =>
    (.ofText field.text, value aggregate)

theorem setAggregates_eq_setAll (fields : List Field) (value : Aggregate → Value) (start : Row) :
    setAggregates fields value start = start.setAll (aggregateColumns fields value) := by
  induction fields generalizing start with
  | nil => rfl
  | cons field rest ih =>
    rw [setAggregates, List.foldl_cons, aggregateColumns]
    cases selects : field.aggregate? with
    | none =>
      rw [List.filterMap_cons_none (by rw [selects]; rfl)]
      exact ih start
    | some aggregate =>
      rw [List.filterMap_cons_some (by rw [selects]; rfl)]
      exact ih (start.insert field.text (value aggregate))

theorem aggregateColumns_congr {fields : List Field} {value other : Aggregate → Value}
    (same : ∀ field ∈ fields, ∀ aggregate, field.aggregate? = some aggregate →
      value aggregate = other aggregate) :
    aggregateColumns fields value = aggregateColumns fields other := by
  apply List.filterMap_congr
  intro field member
  cases selects : field.aggregate? with
  | none => rfl
  | some aggregate => rw [Option.map_some, Option.map_some, same field member aggregate selects]

theorem Group.row_ofRows (groupBy : List String) (fields : List Field) (rows : List Row) :
    (ofRows groupBy fields rows).row groupBy fields =
      (labelRow groupBy (firstValues groupBy rows)).setAll
        (aggregateColumns fields fun aggregate =>
          aggregate.sharedValue (feeders fields .sum) rows) := by
  have columns : aggregateColumns fields (ofRows groupBy fields rows).value =
      aggregateColumns fields fun aggregate =>
        aggregate.sharedValue (feeders fields .sum) rows := by
    apply aggregateColumns_congr
    intro field member aggregate selects
    exact ofRows_value member selects groupBy rows
  rw [row, setAggregates_eq_setAll, ofRows_values, columns]

theorem aggregateAll_eq_ofColumns (fields : List Field) (rows : List Row) :
    aggregateAll fields rows = .ofColumns (aggregateColumns fields (Aggregate.value rows)) :=
  setAggregates_eq_setAll fields (Aggregate.value rows) .empty

theorem perm_flatMap_filter {keys : List String} (distinct : keys.Nodup) {groupBy : List String}
    {rows : List Row} (covered : ∀ row ∈ rows, rowKey groupBy row ∈ keys) :
    (keys.flatMap (groupRows groupBy rows)).Perm rows := by
  induction keys generalizing rows with
  | nil =>
    have empty : rows = [] := List.eq_nil_iff_forall_not_mem.2 fun row member => by
      simpa using covered row member
    rw [empty]
    exact .nil
  | cons key rest ih =>
    rw [List.nodup_cons] at distinct
    have others : ∀ row ∈ rows.filter (¬ rowKey groupBy · = key), rowKey groupBy row ∈ rest := by
      intro row member
      have kept := List.mem_filter.1 member
      have different : rowKey groupBy row ≠ key := by simpa using kept.2
      exact (List.mem_cons.1 (covered row kept.1)).resolve_left different
    have same : ∀ other ∈ rest,
        groupRows groupBy (rows.filter (¬ rowKey groupBy · = key)) other =
          groupRows groupBy rows other := by
      intro other member
      rw [groupRows, List.filter_filter, groupRows]
      apply List.filter_congr
      intro row _
      by_cases here : rowKey groupBy row = other
      · have differs : other ≠ key := fun e => distinct.1 (e ▸ member)
        simp [here, differs]
      · simp [here]
    have tail := ih distinct.2 others
    rw [List.flatMap_congr same] at tail
    rw [List.flatMap_cons]
    refine (List.Perm.append_left _ tail).trans ?_
    simpa [groupRows] using List.filter_append_perm (fun row => rowKey groupBy row = key) rows

theorem groups_perm (groupBy : List String) (rows : List Row) :
    ((groupKeys groupBy rows).flatMap (groupRows groupBy rows)).Perm rows :=
  perm_flatMap_filter (nodup_groupKeys groupBy rows) fun row member =>
    mem_groupKeys.2 ⟨row, member, rfl⟩

/-- A select list without sums gives for each key one row, in the order in which the keys first
occur: the values of the key's first row, and then the columns of all aggregates of the key's rows.
The rows of the keys are all rows. -/
theorem aggregateGroups_eq_partition (groupBy : List String) {fields : List Field}
    (noSums : ∀ field ∈ fields, ∀ column, field.aggregate? ≠ some (.sum column) ∧
      field.aggregate? ≠ some (.average column)) (rows : List Row) :
    aggregateGroups groupBy fields rows = ((groupKeys groupBy rows).map fun key =>
        (labelRow groupBy (firstValues groupBy (groupRows groupBy rows key))).setAll
          (aggregateAll fields (groupRows groupBy rows key)).columns) ∧
      (groupKeys groupBy rows).Nodup ∧
      ((groupKeys groupBy rows).flatMap (groupRows groupBy rows)).Perm rows := by
  refine ⟨?_, nodup_groupKeys groupBy rows, groups_perm groupBy rows⟩
  rw [aggregateGroups_eq_map]
  apply List.map_congr_left
  intro key _
  have columns : (aggregateColumns fields fun aggregate =>
        aggregate.sharedValue (feeders fields .sum) (groupRows groupBy rows key)) =
      aggregateColumns fields (Aggregate.value (groupRows groupBy rows key)) := by
    apply aggregateColumns_congr
    intro field member aggregate selects
    cases aggregate with
    | sum column => exact absurd selects (noSums field member column).1
    | average column => exact absurd selects (noSums field member column).2
    | count | minimum column | maximum column => rfl
  rw [Group.row_ofRows, columns, aggregateAll_eq_ofColumns, Row.setAll_ofColumns]

/-- Scores whose groups are mixed; one of the rows has no class, another has no score. -/
def classScores : List Row :=
  [.ofColumns [(.plain "class", .text "a"), (.plain "score", .number 7)],
    .ofColumns [(.plain "class", .text "b"), (.plain "score", .text "3")],
    .ofColumns [(.plain "score", .number 5)],
    .ofColumns [(.plain "class", .text "a"), (.plain "score", .number 4)],
    .ofColumns [(.plain "class", .text "b")]]

def scoreExtremes : List Field :=
  [⟨"COUNT(*)", .aggregate .count⟩, ⟨"MIN(score)", .aggregate (.minimum "score")⟩,
    ⟨"MIN(score)", .aggregate (.minimum "score")⟩, ⟨"MAX(score)", .aggregate (.maximum "score")⟩]

theorem aggregateGroups_eq_partition_scores :
    aggregateGroups ["class", "COUNT(*)"] scoreExtremes classScores =
        ((groupKeys ["class", "COUNT(*)"] classScores).map fun key =>
          (labelRow ["class", "COUNT(*)"] (firstValues ["class", "COUNT(*)"]
            (groupRows ["class", "COUNT(*)"] classScores key))).setAll
              (aggregateAll scoreExtremes
                (groupRows ["class", "COUNT(*)"] classScores key)).columns) ∧
      (groupKeys ["class", "COUNT(*)"] classScores).Nodup ∧
      ((groupKeys ["class", "COUNT(*)"] classScores).flatMap
        (groupRows ["class", "COUNT(*)"] classScores)).Perm classScores :=
  aggregateGroups_eq_partition ["class", "COUNT(*)"]
    (by simp [scoreExtremes, Field.aggregate?]) classScores

end TableQuery
