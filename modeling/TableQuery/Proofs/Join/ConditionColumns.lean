import TableQuery.Proofs.Join.BareName
import TableQuery.Proofs.Join.Kinds
import TableQuery.Proofs.Row.Omission

/-! What a join carries for the conditions of a query. The columns that the conditions read come
before those that a wildcard asks for, and some of them come for the conditions alone; every other
column of a joined row is the same with the conditions and without. -/

namespace TableQuery

namespace Query

def unfiltered (query : Query) : Query := { query with conditions := [] }

def selectedColumns (query : Query) : List String := query.fields.filterMap Field.column?

def conditionColumns (query : Query) : List String :=
  (query.conditions.map Predicate.field).filter (· ∉ query.selectedColumns)

def broughtColumns (query : Query) (clause : JoinClause) (base joined : List Row) : List String :=
  (query.conditions.map Predicate.field).filter
    (· ∉ joinFields query.unfiltered clause base joined)

/-- The conditions bring in no bare name that answers for a selected column in a joined row without
that column. -/
def Unshadowed (query : Query) (clause : JoinClause) (base joined : List Row) : Prop :=
  ∀ b ∈ base, ∀ j ∈ joined,
    rowsMatch (clause.condition.oriented query.table clause.table) b j →
      ∀ column ∈ query.selectedColumns,
        (joinSpec query clause base joined).Shadowed b j column →
          (joinSpec query.unfiltered clause base joined).Shadowed b j column

instance (query : Query) (clause : JoinClause) (base joined : List Row) :
    Decidable (query.Unshadowed clause base joined) :=
  inferInstanceAs (Decidable (∀ b ∈ base, ∀ j ∈ joined,
    rowsMatch (clause.condition.oriented query.table clause.table) b j →
      ∀ column ∈ query.selectedColumns,
        (joinSpec query clause base joined).Shadowed b j column →
          (joinSpec query.unfiltered clause base joined).Shadowed b j column))

end Query

section

variable {query : Query} {clause : JoinClause} {base joined : List Row}

theorem joinFields_eq_foldl (ungrouped : query.groupBy = none) :
    joinFields query clause base joined =
      ((query.conditions.map Predicate.field) ++
        if query.hasWildcard then
          tableColumns query.table base ++ tableColumns clause.table joined
        else []).foldl addIfNew (firstSeen query.selectedColumns) := by
  have read : query.referencedColumns =
      (query.conditions.map Predicate.field).foldl addIfNew
        (firstSeen query.selectedColumns) := by
    simp [Query.referencedColumns, ungrouped, firstSeen, Query.selectedColumns]
  rw [joinFields, read]
  split <;> simp [List.foldl_append]

theorem mem_joinFields_iff (ungrouped : query.groupBy = none) {column : String} :
    column ∈ joinFields query clause base joined ↔
      column ∈ joinFields query.unfiltered clause base joined ∨
        column ∈ query.conditions.map Predicate.field := by
  have ungrouped' : query.unfiltered.groupBy = none := ungrouped
  rw [joinFields_eq_foldl ungrouped, joinFields_eq_foldl ungrouped', mem_foldl_addIfNew,
    mem_foldl_addIfNew, List.mem_append, List.mem_append]
  have none_read : column ∉ query.unfiltered.conditions.map Predicate.field := by
    simp [Query.unfiltered]
  have same : query.unfiltered.selectedColumns = query.selectedColumns := rfl
  have same_wildcard : query.unfiltered.hasWildcard = query.hasWildcard := rfl
  have same_table : query.unfiltered.table = query.table := rfl
  rw [same, same_wildcard, same_table]
  tauto

theorem mem_joinFields_of_selected {column : String} (ungrouped : query.groupBy = none)
    (selected : column ∈ query.selectedColumns) :
    column ∈ joinFields query clause base joined := by
  rw [joinFields_eq_foldl ungrouped, mem_foldl_addIfNew, mem_firstSeen]
  exact .inl selected

theorem mem_map_joinFields_iff (ungrouped : query.groupBy = none) {key : ColumnKey} :
    key ∈ (joinFields query clause base joined).map .ofText ↔
      key ∈ (joinFields query.unfiltered clause base joined).map .ofText ∨
        key ∈ (query.broughtColumns clause base joined).map .ofText := by
  have parts (column : String) : column ∈ joinFields query clause base joined ↔
      column ∈ joinFields query.unfiltered clause base joined ∨
        column ∈ query.broughtColumns clause base joined := by
    rw [mem_joinFields_iff ungrouped, Query.broughtColumns, List.mem_filter, decide_eq_true_iff]
    tauto
  simp only [List.mem_map, parts, or_and_right, exists_or]

theorem not_mem_brought {key : ColumnKey}
    (carried : key ∈ (joinFields query.unfiltered clause base joined).map .ofText) :
    key ∉ (query.broughtColumns clause base joined).map .ofText := by
  intro brought
  obtain ⟨column, hcolumn, rfl⟩ := List.mem_map.1 carried
  obtain ⟨other, hother, same⟩ := List.mem_map.1 brought
  obtain ⟨-, fresh⟩ := List.mem_filter.1 hother
  rw [ColumnKey.ofText_inj.1 same] at fresh
  simp [hcolumn] at fresh

theorem filter_joinFields (ungrouped : query.groupBy = none) :
    (joinFields query clause base joined).filter (· ∉ query.conditionColumns) =
      (joinFields query.unfiltered clause base joined).filter (· ∉ query.conditionColumns) := by
  have ungrouped' : query.unfiltered.groupBy = none := ungrouped
  have present : ∀ column ∈ (query.conditions.map Predicate.field).filter
      (· ∉ query.conditionColumns),
        column ∈ (firstSeen query.selectedColumns).filter (· ∉ query.conditionColumns) := by
    intro column member
    obtain ⟨read, outside⟩ := List.mem_filter.1 member
    refine List.mem_filter.2 ⟨?_, outside⟩
    rw [mem_firstSeen]
    by_contra unselected
    have inside : column ∈ query.conditionColumns :=
      List.mem_filter.2 ⟨read, by simpa using unselected⟩
    simp [inside] at outside
  rw [joinFields_eq_foldl ungrouped, joinFields_eq_foldl ungrouped', filter_foldl_addIfNew,
    filter_foldl_addIfNew, List.filter_append, List.foldl_append,
    foldl_addIfNew_of_subset present]
  rfl

theorem carry_without (pair : Pair) (baseTable : String) (columns : List String) (row : Row)
    (field : String) :
    (pair.carry baseTable row field).without (columns.map .ofText) =
      if field ∈ columns then row.without (columns.map .ofText)
      else pair.carry baseTable (row.without (columns.map .ofText)) field := by
  have inside : ColumnKey.ofText field ∈ columns.map .ofText ↔ field ∈ columns := by
    simp [ColumnKey.ofText_inj]
  unfold Pair.carry
  cases pair.value? baseTable (.ofText field) with
  | none => exact (ite_self _).symm
  | some value =>
    change (row.set (.ofText field) value).without _ =
      if field ∈ columns then _ else (row.without _).set (.ofText field) value
    rw [Row.without_set]
    simp only [inside]

theorem foldl_carry_without (pair : Pair) (baseTable : String) (columns fields : List String)
    (row : Row) :
    (fields.foldl (pair.carry baseTable) row).without (columns.map .ofText) =
      (fields.filter (· ∉ columns)).foldl (pair.carry baseTable)
        (row.without (columns.map .ofText)) := by
  induction fields generalizing row with
  | nil => rfl
  | cons field rest ih =>
    rw [List.foldl_cons, ih, carry_without]
    by_cases left : field ∈ columns
    · rw [if_pos left, List.filter_cons_of_neg (by simpa using left)]
    · rw [if_neg left, List.filter_cons_of_pos (by simpa using left), List.foldl_cons]

theorem rearranged_row (ungrouped : query.groupBy = none) (pair : Pair) (outer : Bool) :
    Row.Rearranged (query.conditionColumns.map .ofText)
      ((query.broughtColumns clause base joined).map .ofText)
      (pair.row (joinSpec query clause base joined) outer)
      (pair.row (joinSpec query.unfiltered clause base joined) outer) where
  without_moved := by
    rw [Pair.row, Pair.row, foldl_carry_without, foldl_carry_without]
    change ((joinFields query clause base joined).filter _).foldl _ _ =
      ((joinFields query.unfiltered clause base joined).filter _).foldl _ _
    rw [filter_joinFields ungrouped]
    rfl
  find?_kept := by
    intro key kept
    have same : key ∈ (joinFields query clause base joined).map .ofText ↔
        key ∈ (joinFields query.unfiltered clause base joined).map .ofText := by
      rw [mem_map_joinFields_iff ungrouped, or_iff_left kept]
    rw [Pair.find?_row, Pair.find?_row]
    change (if key ∈ (joinFields query clause base joined).map .ofText then _ else _) =
      if key ∈ (joinFields query.unfiltered clause base joined).map .ofText then _ else _
    simp only [same]
    rfl

/-- In a match that lacks a selected column but for the bare name that the conditions bring in, the
base row does not have that name either. -/
theorem get?_brought_of_matched (ungrouped : query.groupBy = none)
    (unshadowed : query.Unshadowed clause base joined) {b j : Row} (hb : b ∈ base)
    (hj : j ∈ joined)
    (matched : rowsMatch (clause.condition.oriented query.table clause.table) b j)
    {column : String} (selected : column ∈ query.selectedColumns)
    (lacking : Pair.value? ⟨some b, some j⟩ query.table (.ofText column) = none)
    (brought : ColumnKey.plain (ColumnKey.ofText column).name ∈
      (query.broughtColumns clause base joined).map .ofText) :
    b.get? (ColumnKey.ofText column).name = none := by
  have side : (if (ColumnKey.ofText column).belongsTo query.table then b else j).get?
      (ColumnKey.ofText column).name = none :=
    (Pair.value?_matched b j (joinSpec query clause base joined) column).symm.trans lacking
  by_cases own : (ColumnKey.ofText column).belongsTo query.table
  · rwa [if_pos own] at side
  · rw [if_neg own] at side
    by_contra held
    have shadowed : (joinSpec query clause base joined).Shadowed b j column :=
      ⟨own, side, (mem_map_joinFields_iff ungrouped).2 (.inr brought), held⟩
    exact not_mem_brought (unshadowed b hb j hj matched column selected shadowed).requested brought

theorem value?_brought (ungrouped : query.groupBy = none)
    (unshadowed : query.Unshadowed clause base joined) {pair : Pair}
    (combines : clause.kind.Combines (clause.condition.oriented query.table clause.table) base
      joined pair) {column : String} (selected : column ∈ query.selectedColumns)
    (lacking : (pair.padded base).value? query.table (.ofText column) = none)
    (brought : ColumnKey.plain (ColumnKey.ofText column).name ∈
      (query.broughtColumns clause base joined).map .ofText) :
    ((pair.padded base).value? query.table
      (.plain (ColumnKey.ofText column).name)).getD .null = .null := by
  have bare : (ColumnKey.plain (ColumnKey.ofText column).name).belongsTo query.table := rfl
  rw [Pair.value?_of_belongsTo bare]
  cases combines with
  | @matched b j hb hj matched =>
    change (b.get? (ColumnKey.ofText column).name).getD .null = .null
    rw [get?_brought_of_matched ungrouped unshadowed hb hj matched selected lacking brought]
    rfl
  | @baseAlone b left hb alone =>
    -- The missing row has null for every column, so the column is one of the base table.
    have own : (ColumnKey.ofText column).belongsTo query.table := by
      by_contra foreign
      simp [Pair.value?, foreign] at lacking
    have absent : b.get? (ColumnKey.ofText column).name = none := by
      simpa [Pair.value?, own] using lacking
    change (b.get? (ColumnKey.ofText column).name).getD .null = .null
    rw [absent]
    rfl
  | @joinedAlone j right hj alone =>
    change (((base.head?.map Row.nulled).map fun row =>
      row.get? (ColumnKey.ofText column).name).getD (some .null)).getD .null = .null
    cases base.head? with
    | none => rfl
    | some first =>
      change (first.nulled.get? (ColumnKey.ofText column).name).getD .null = .null
      rw [Row.get?_nulled]
      cases first.get? (ColumnKey.ofText column).name <;> rfl

theorem find?_row_brought (ungrouped : query.groupBy = none) (pair : Pair) (outer : Bool)
    {name : String}
    (brought : ColumnKey.plain name ∈ (query.broughtColumns clause base joined).map .ofText) :
    (pair.row (joinSpec query clause base joined) outer).find? (.plain name) =
        pair.value? query.table (.plain name) ∧
      (pair.row (joinSpec query.unfiltered clause base joined) outer).find? (.plain name) =
        none := by
  have present : ColumnKey.plain name ∈ (joinSpec query clause base joined).fields.map .ofText :=
    (mem_map_joinFields_iff ungrouped).2 (.inr brought)
  have absent : ColumnKey.plain name ∉
      (joinSpec query.unfiltered clause base joined).fields.map .ofText :=
    fun carried => not_mem_brought carried brought
  rw [Pair.find?_row, Pair.find?_row, if_pos present, if_neg absent, Pair.find?_start_plain,
    Pair.find?_start_plain, Option.or_none]
  exact ⟨rfl, rfl⟩

theorem getD_get?_row (ungrouped : query.groupBy = none)
    (unshadowed : query.Unshadowed clause base joined) {pair : Pair}
    (combines : clause.kind.Combines (clause.condition.oriented query.table clause.table) base
      joined pair) (outer : Bool) {column : String} (selected : column ∈ query.selectedColumns) :
    (((pair.padded base).row (joinSpec query clause base joined) outer).get? column).getD .null =
      (((pair.padded base).row (joinSpec query.unfiltered clause base joined) outer).get?
        column).getD .null := by
  have kept : ∀ key ∉ (query.broughtColumns clause base joined).map .ofText,
      ((pair.padded base).row (joinSpec query clause base joined) outer).find? key =
        ((pair.padded base).row (joinSpec query.unfiltered clause base joined) outer).find? key :=
    (rearranged_row ungrouped (pair.padded base) outer).find?_kept
  have ungrouped' : query.unfiltered.groupBy = none := ungrouped
  have carried : ColumnKey.ofText column ∈
      (joinSpec query.unfiltered clause base joined).fields.map .ofText :=
    List.mem_map_of_mem (mem_joinFields_of_selected ungrouped' selected)
  rw [Row.get?_eq, Row.get?_eq, kept _ (not_mem_brought carried)]
  by_cases qualified : (ColumnKey.ofText column).isQualified
  · rw [if_pos qualified, if_pos qualified]
    by_cases brought : ColumnKey.plain (ColumnKey.ofText column).name ∈
        (query.broughtColumns clause base joined).map .ofText
    · have bare := find?_row_brought ungrouped (pair.padded base) outer brought
      rw [bare.1, bare.2]
      cases found : ((pair.padded base).row (joinSpec query.unfiltered clause base joined)
          outer).find? (.ofText column) with
      | some value => simp
      | none =>
        rw [Pair.find?_row, if_pos carried] at found
        exact value?_brought ungrouped unshadowed combines selected
          (Option.or_eq_none_iff.1 found).1 brought
    · rw [kept _ brought]
  · rw [if_neg qualified, if_neg qualified]

end

end TableQuery
