import TableQuery.Proofs.Execution.JoinedRows
import TableQuery.Proofs.Execution.School

/-! A wildcard over a join. The columns of both tables come under keys of their own, so that a result
row shows every column of the rows it was built from, also where the tables share names or the
conditions ask for columns in other ways. -/

namespace TableQuery

structure IsTableName (name : String) : Prop where
  nonempty : name ≠ ""
  dotFree : '.' ∉ name.toList

structure Uniform (rows : List Row) : Prop where
  plain : ∀ row ∈ rows, row.PlainKeys
  named : ∀ row ∈ rows, ∀ key ∈ row.keys, key.name ≠ ""
  alike : ∀ row ∈ rows, ∀ other ∈ rows, row.keys = other.keys

/-- The row has the columns of one side of a pair under the keys of its table. A missing side has
null in all columns of the table. -/
def Shows (table : String) (rows : List Row) (side : Option Row) (row : Row) : Prop :=
  match side with
  | some own => ∀ key ∈ own.keys, row.find? (.qualified table key.name) = own.find? key
  | none => ∀ other ∈ rows, ∀ key ∈ other.keys,
      row.find? (.qualified table key.name) = some .null

theorem mem_tableColumns {table : String} {rows : List Row} (uniform : Uniform rows)
    {row : Row} (member : row ∈ rows) {key : ColumnKey} (column : key ∈ row.keys) :
    (ColumnKey.qualified table key.name).text ∈ tableColumns table rows := by
  cases rows with
  | nil => simp at member
  | cons first rest =>
    rw [uniform.alike row member first List.mem_cons_self] at column
    exact List.mem_map_of_mem column

theorem mem_joinFields_of_wildcard {query : Query} {clause : JoinClause} {base joined : List Row}
    (wildcard : query.hasWildcard) {column : String}
    (member : column ∈ tableColumns query.table base ∨
      column ∈ tableColumns clause.table joined) :
    column ∈ joinFields query clause base joined := by
  rw [joinFields, if_pos wildcard, mem_foldl_addIfNew, List.mem_append]
  exact .inr member

section

variable {query : Query} {clause : JoinClause} {base joined : List Row} {pair : Pair}
  {outer : Bool}

theorem find?_joinedRow {table : String} (name : IsTableName table) {column : ColumnKey}
    (named : column.name ≠ "")
    (carried : (ColumnKey.qualified table column.name).text ∈
      joinFields query clause base joined) {value : Value}
    (read : pair.value? query.table (.qualified table column.name) = some value) :
    (pair.row (joinSpec query clause base joined) outer).find? (.qualified table column.name) =
      some value := by
  have requested : ColumnKey.qualified table column.name ∈
      (joinSpec query clause base joined).fields.map .ofText :=
    List.mem_map.2 ⟨_, carried, ColumnKey.ofText_qualified name.nonempty name.dotFree named⟩
  have own : pair.value? (joinSpec query clause base joined).baseTable
      (.qualified table column.name) = some value := read
  rw [Pair.find?_row, if_pos requested, own, Option.some_or]

theorem shows_of_value? {table : String} {rows : List Row} {side : Option Row}
    (name : IsTableName table) (uniform : Uniform rows) (source : ∀ row ∈ side, row ∈ rows)
    (carried : ∀ column ∈ tableColumns table rows, column ∈ joinFields query clause base joined)
    (read : ∀ row ∈ rows, ∀ key ∈ row.keys,
      pair.value? query.table (.qualified table key.name) =
        (side.map fun own => own.get? key.name).getD (some .null)) :
    Shows table rows side (pair.row (joinSpec query clause base joined) outer) := by
  cases side with
  | some own =>
    intro key column
    have member : own ∈ rows := source own rfl
    obtain ⟨value, held⟩ := Row.exists_find?_of_mem column
    have value? := read own member key column
    rw [Option.map_some, Option.getD_some, (uniform.plain own member).get?_name column,
      held] at value?
    rw [held]
    exact find?_joinedRow name (uniform.named own member key column)
      (carried _ (mem_tableColumns uniform member column)) value?
  | none =>
    intro row member key column
    exact find?_joinedRow name (uniform.named row member key column)
      (carried _ (mem_tableColumns uniform member column)) (read row member key column)

theorem shows_base (wildcard : query.hasWildcard) (name : IsTableName query.table)
    (uniform : Uniform base) (source : ∀ b ∈ pair.base, b ∈ base) :
    Shows query.table base pair.base
      ((pair.padded base).row (joinSpec query clause base joined) outer) := by
  refine shows_of_value? name uniform source
    (fun column member => mem_joinFields_of_wildcard wildcard (.inl member)) ?_
  intro row member key column
  have own : (ColumnKey.qualified query.table key.name).belongsTo query.table := by
    simp [ColumnKey.belongsTo]
  rw [Pair.value?_of_belongsTo own]
  obtain ⟨found, other⟩ := pair
  cases found with
  | some own => rfl
  | none =>
    cases base with
    | nil => rfl
    | cons first rest =>
      -- The first row stands in, and it has the column since all rows have the same ones.
      rw [uniform.alike row member first List.mem_cons_self] at column
      obtain ⟨value, held⟩ := Row.exists_find?_of_mem column
      have first_value := ((uniform.plain first List.mem_cons_self).get?_name column).trans held
      change first.nulled.get? key.name = some .null
      rw [Row.get?_nulled, first_value, Option.map_some]

theorem shows_joined (wildcard : query.hasWildcard) (distinct : query.table ≠ clause.table)
    (name : IsTableName clause.table) (uniform : Uniform joined)
    (source : ∀ j ∈ pair.joined, j ∈ joined) :
    Shows clause.table joined pair.joined
      ((pair.padded base).row (joinSpec query clause base joined) outer) := by
  refine shows_of_value? name uniform source
    (fun column member => mem_joinFields_of_wildcard wildcard (.inr member)) ?_
  intro row member key column
  have foreign : (ColumnKey.qualified clause.table key.name).belongsTo query.table = false := by
    simpa [ColumnKey.belongsTo] using distinct.symm
  exact Pair.value?_of_foreign foreign _

end

/-- Every row that a wildcard gives over a join comes from one pair of the join and shows all columns
of both tables. -/
theorem execute_wildcard_shows {source : Source} {query : Query} {clause : JoinClause}
    {base joined result : List Row} {text : String} (projects : query.Projects)
    (wildcard : query.fields = [⟨text, .wildcard⟩]) (join : query.join = some clause)
    (distinct : query.table ≠ clause.table) (baseName : IsTableName query.table)
    (joinedName : IsTableName clause.table) (fetchBase : source query.table = .ok base)
    (fetchJoined : source clause.table = .ok joined) (uniformBase : Uniform base)
    (uniformJoined : Uniform joined) (succeeds : (execute source query).outcome = .ok result) :
    ∃ pairs : List Pair, pairs.Sublist (joinPairs query clause base joined) ∧
      List.Forall₂ (fun pair row =>
        clause.kind.Combines (clause.condition.oriented query.table clause.table) base joined
          pair ∧
        Shows query.table base pair.base row ∧ Shows clause.table joined pair.joined row)
        pairs result := by
  obtain ⟨-, base', joined', pairs, fetchBase', fetchJoined', sublist, rfl⟩ :=
    exists_pairs_of_execute projects join succeeds
  obtain rfl : base = base' := Except.ok.inj (fetchBase.symm.trans fetchBase')
  obtain rfl : joined = joined' := Except.ok.inj (fetchJoined.symm.trans fetchJoined')
  have hasWildcard : query.hasWildcard := by simp [Query.hasWildcard, wildcard, Field.isWildcard]
  have copied (table : String) (rows : List Row) (side : Option Row) (row : Row)
      (shows : Shows table rows side row) :
      Shows table rows side (projectRow query.fields row) := by
    rw [wildcard]
    cases side with
    | some own => exact fun key column => (find?_projectRow_wildcard ..).trans (shows key column)
    | none =>
      exact fun other member key column =>
        (find?_projectRow_wildcard ..).trans (shows other member key column)
  refine ⟨pairs, sublist, List.forall₂_map_right_iff.2 (List.forall₂_same.2 ?_)⟩
  intro pair member
  have combines := combines_of_mem_pairs (sublist.subset member)
  exact ⟨combines, copied _ _ _ _ (shows_base hasWildcard baseName uniformBase combines.base_mem),
    copied _ _ _ _ (shows_joined hasWildcard distinct joinedName uniformJoined combines.joined_mem)⟩

def olderThanThirty : Query where
  fields := [⟨"*", .wildcard⟩]
  table := "student"
  join := some { studentEnrollments with kind := .right }
  conditions := [⟨"age", .notEqual, "30"⟩]
  groupBy := none
  aggregatesAll := false

theorem execute_wildcard_shows_school :
    ∃ result, (execute school olderThanThirty).outcome = .ok result ∧ result.length = 2 ∧
      ∃ pairs : List Pair,
        pairs.Sublist (joinPairs olderThanThirty { studentEnrollments with kind := .right }
          students enrollments) ∧
        List.Forall₂ (fun pair row =>
          JoinKind.right.Combines (studentEnrollments.condition.oriented "student" "enrollment")
            students enrollments pair ∧
          Shows "student" students pair.base row ∧ Shows "enrollment" enrollments pair.joined row)
          pairs result := by
  have executed : (execute school olderThanThirty).outcome.toOption.map List.length = some 2 := by
    decide +kernel
  obtain ⟨result, found, length⟩ := Option.map_eq_some_iff.1 executed
  have succeeds := eq_ok_of_toOption found
  have shown := execute_wildcard_shows ⟨rfl, rfl⟩ rfl rfl (by decide) ⟨by decide, by decide⟩
    ⟨by decide, by decide⟩ (rfl : school "student" = .ok students)
    (rfl : school "enrollment" = .ok enrollments) ⟨by decide, by decide, by decide⟩
    ⟨by decide, by decide, by decide⟩ succeeds
  exact ⟨result, succeeds, length, shown⟩

end TableQuery
