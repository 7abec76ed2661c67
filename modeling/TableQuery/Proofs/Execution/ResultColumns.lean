import TableQuery.Proofs.Execution.Outcome
import TableQuery.Proofs.Execution.School
import TableQuery.Proofs.Group.Summary
import TableQuery.Proofs.Query.Accepted
import TableQuery.Proofs.Row.Projected
import TableQuery.ResultSet

/-! The columns of a result. Without a wildcard they follow from the query alone: every row has the
same ones, in the same order, whatever columns the rows have that it was made from. -/

namespace TableQuery

def aggregateTexts (fields : List Field) : List String :=
  (fields.filter Field.isAggregate).map Field.text

/-- The texts that name the columns of a result: those of the select list or, where it aggregates,
the columns that it groups by and the texts of its aggregates. -/
def Query.columnTexts (query : Query) : List String :=
  match query.groupBy with
  | some columns => columns ++ aggregateTexts query.fields
  | none =>
    if query.fields.any Field.isAggregate then aggregateTexts query.fields
    else query.fields.map Field.text

def Query.columns (query : Query) : List ColumnKey :=
  firstSeen (query.columnTexts.map .ofText)

theorem map_fst_aggregateColumns (fields : List Field) (value : Aggregate → Value) :
    (aggregateColumns fields value).map Prod.fst = (aggregateTexts fields).map .ofText := by
  induction fields with
  | nil => rfl
  | cons field rest ih =>
    rw [aggregateColumns, aggregateTexts]
    cases selects : field.aggregate? with
    | none =>
      rw [List.filterMap_cons_none (by rw [selects]; rfl),
        List.filter_cons_of_neg (by simp [Field.isAggregate, selects])]
      exact ih
    | some aggregate =>
      rw [List.filterMap_cons_some (by rw [selects]; rfl),
        List.filter_cons_of_pos (by simp [Field.isAggregate, selects]), List.map_cons, List.map_cons,
        List.map_cons]
      exact congrArg _ ih

theorem keys_aggregateAll (fields : List Field) (rows : List Row) :
    (aggregateAll fields rows).keys = firstSeen ((aggregateTexts fields).map .ofText) := by
  rw [aggregateAll_eq_ofColumns, Row.ofColumns, Row.keys_setAll, map_fst_aggregateColumns,
    Row.keys_empty, firstSeen]

theorem keys_labelRow {groupBy : List String} {values : List Value}
    (filled : values.length = groupBy.length) :
    (labelRow groupBy values).keys = firstSeen (groupBy.map .ofText) := by
  have loop (label : Row) : ((groupBy.zip values).foldl
      (fun label entry => label.insert entry.1 entry.2) label).keys =
        (groupBy.map .ofText).foldl addIfNew label.keys := by
    induction groupBy generalizing values label with
    | nil => rfl
    | cons column rest ih =>
      cases values with
      | nil => cases filled
      | cons value others =>
        rw [List.zip_cons_cons, List.foldl_cons, ih (Nat.succ.inj filled), List.map_cons,
          List.foldl_cons]
        exact congrArg (List.foldl addIfNew · _) (Row.keys_set label (.ofText column) value)
  exact loop .empty

theorem length_firstValues (groupBy : List String) {rows : List Row} (nonempty : rows ≠ []) :
    (firstValues groupBy rows).length = groupBy.length := by
  cases rows with
  | nil => exact absurd rfl nonempty
  | cons row rest => simp [firstValues, groupValues]

theorem keys_of_mem_aggregateGroups {groupBy : List String} {fields : List Field}
    {rows : List Row} {row : Row} (member : row ∈ aggregateGroups groupBy fields rows) :
    row.keys = firstSeen ((groupBy ++ aggregateTexts fields).map .ofText) := by
  rw [aggregateGroups_eq_map] at member
  obtain ⟨key, occurs, rfl⟩ := List.mem_map.1 member
  have nonempty : groupRows groupBy rows key ≠ [] := fun none =>
    groupRows_eq_nil_iff.1 none occurs
  rw [Group.row_ofRows, Row.keys_setAll, map_fst_aggregateColumns,
    keys_labelRow (length_firstValues groupBy nonempty), List.map_append, firstSeen, firstSeen,
    List.foldl_append]

theorem keys_projectRow_of_plain {fields : List Field}
    (noWildcard : ∀ field ∈ fields, field.isWildcard = false)
    (unaggregated : ∀ field ∈ fields, field.isAggregate = false) (source : Row) :
    (projectRow fields source).keys = firstSeen ((fields.map Field.text).map .ofText) := by
  have single : fields.flatMap (Field.keys source.keys) = fields.map fun field =>
      .ofText field.text := by
    rw [List.map_eq_flatMap]
    refine List.flatMap_congr fun field member => ?_
    cases kind : field.kind with
    | plain column => rw [Field.keys, kind]
    | wildcard => simpa [Field.isWildcard, kind] using noWildcard field member
    | aggregate aggregate =>
      simpa [Field.isAggregate, Field.aggregate?, kind] using unaggregated field member
  rw [keys_projectRow, single, List.map_map]
  rfl

theorem keys_of_mem_resultRows {query : Query}
    (flag : query.aggregatesAll = (query.groupBy.isNone && query.fields.any Field.isAggregate))
    (noWildcard : query.hasWildcard = false) {rows : List Row} {row : Row}
    (member : row ∈ resultRows query rows) : row.keys = query.columns := by
  rw [Query.columns, Query.columnTexts]
  unfold resultRows at member
  cases grouped : query.groupBy with
  | some columns =>
    rw [flag, grouped] at member
    exact keys_of_mem_aggregateGroups member
  | none =>
    rw [flag, grouped] at member
    cases aggregates : query.fields.any Field.isAggregate with
    | true =>
      rw [aggregates] at member
      obtain rfl : row = aggregateAll query.fields rows := List.mem_singleton.1 member
      exact keys_aggregateAll query.fields rows
    | false =>
      rw [aggregates] at member
      obtain ⟨source, -, rfl⟩ := List.mem_map.1 member
      refine keys_projectRow_of_plain ?_ ?_ source
      · simpa [Query.hasWildcard] using noWildcard
      · simpa using aggregates

theorem columns_ofRows {rows : List Row} {keys : List ColumnKey} (nonempty : rows ≠ [])
    (alike : ∀ row ∈ rows, row.keys = keys) : (ResultSet.ofRows rows).columns = keys := by
  cases rows with
  | nil => exact absurd rfl nonempty
  | cons row rest =>
    have distinct : keys.Nodup := alike row List.mem_cons_self ▸ row.nodup_keys
    rw [ResultSet.ofRows, firstSeen, List.flatMap_cons, List.foldl_append,
      alike row List.mem_cons_self, foldl_addIfNew_of_begins List.nil_prefix distinct]
    refine foldl_addIfNew_of_subset fun key member => ?_
    obtain ⟨other, inRest, own⟩ := List.mem_flatMap.1 member
    rwa [alike other (List.mem_cons_of_mem row inRest)] at own

theorem mem_columns_of_aggregate {query : Query} {field : Field} (member : field ∈ query.fields)
    (aggregate : field.isAggregate) : .ofText field.text ∈ query.columns := by
  have own : field.text ∈ aggregateTexts query.fields :=
    List.mem_map_of_mem (List.mem_filter.2 ⟨member, aggregate⟩)
  have some : query.fields.any Field.isAggregate := List.any_eq_true.2 ⟨field, member, aggregate⟩
  rw [Query.columns, mem_firstSeen, Query.columnTexts]
  refine List.mem_map_of_mem ?_
  split
  next columns grouped => exact List.mem_append_right columns own
  next =>
    rw [if_pos some]
    exact own

/-- What a text without a wildcard shows has the columns that its query says, in every row, and the
aggregates of the query are all among them. -/
theorem executeText_columns {source : Source} {text : String} {query : Query} {rows : List Row}
    (accepted : (readQuery text).outcome = .ok query) (noWildcard : query.hasWildcard = false)
    (succeeds : (executeText source text).outcome = .ok rows) :
    (∀ row ∈ rows, row.keys = query.columns) ∧
    (query.groupBy = none → query.fields.any Field.isAggregate → rows.length = 1) ∧
    (rows ≠ [] → (ResultSet.ofRows rows).columns = query.columns) ∧
    (∀ row ∈ rows, ∀ key ∈ query.columns, ∃ value, row.find? key = some value) ∧
    ∀ field ∈ query.fields, field.isAggregate → .ofText field.text ∈ query.columns := by
  have flag := aggregatesAll_of_readQuery accepted
  rw [executeText, accepted] at succeeds
  change (execute source query).outcome = .ok rows at succeeds
  rw [outcome_execute_eq_bind, bind_eq_ok_iff] at succeeds
  obtain ⟨input, -, shown⟩ := succeeds
  obtain ⟨kept, -, rfl⟩ := map_eq_ok_iff.1 shown
  have alike : ∀ row ∈ resultRows query kept, row.keys = query.columns := fun row member =>
    keys_of_mem_resultRows flag noWildcard member
  refine ⟨alike, ?_, fun nonempty => columns_ofRows nonempty alike, ?_, ?_⟩
  · intro ungrouped aggregates
    rw [resultRows, flag, ungrouped, aggregates]
    rfl
  · intro row member key column
    rw [← alike row member] at column
    exact Option.ne_none_iff_exists'.1 (mt Row.find?_eq_none_iff.1 (not_not.2 column))
  · exact fun field member aggregate => mem_columns_of_aggregate member aggregate

def courseCountsText : String :=
  "SELECT COUNT(*), enrollment.course, MAX(age), COUNT(*) FROM student " ++
    "LEFT JOIN enrollment ON student.id = enrollment.student_id GROUP BY enrollment.course, name"

def courseCounts : Query where
  fields := [⟨"COUNT(*)", .aggregate .count⟩, ⟨"enrollment.course", .plain "enrollment.course"⟩,
    ⟨"MAX(age)", .aggregate (.maximum "age")⟩, ⟨"COUNT(*)", .aggregate .count⟩]
  table := "student"
  join := some { studentEnrollments with kind := .left }
  conditions := []
  groupBy := some ["enrollment.course", "name"]
  aggregatesAll := false

theorem readQuery_courseCountsText : (readQuery courseCountsText).outcome = .ok courseCounts :=
  eq_ok_of_toOption (by decide +kernel)

theorem executeText_columns_courses :
    (readQuery courseCountsText).outcome = .ok courseCounts ∧ courseCounts.hasWildcard = false ∧
    ∃ rows, (executeText school courseCountsText).outcome = .ok rows ∧ rows.length = 3 ∧
      (∀ row ∈ rows, row.keys = [.qualified "enrollment" "course", .plain "name",
        .plain "COUNT(*)", .plain "MAX(age)"]) ∧
      (ResultSet.ofRows rows).columns = courseCounts.columns := by
  have executed : (execute school courseCounts).outcome.toOption.map List.length = some 3 := by
    decide +kernel
  obtain ⟨rows, found, length⟩ := Option.map_eq_some_iff.1 executed
  have succeeds : (executeText school courseCountsText).outcome = .ok rows := by
    rw [executeText, readQuery_courseCountsText]
    exact eq_ok_of_toOption found
  have nonempty : rows ≠ [] := List.ne_nil_of_length_eq_add_one length
  obtain ⟨keys, -, columns, -⟩ := executeText_columns readQuery_courseCountsText rfl succeeds
  exact ⟨readQuery_courseCountsText, rfl, rows, succeeds, length, keys, columns nonempty⟩

end TableQuery
