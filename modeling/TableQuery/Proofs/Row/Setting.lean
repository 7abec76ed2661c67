import TableQuery.Row

/-! Setting columns one after the other. What a row becomes when columns are set in it depends on
them only through the row that they make by themselves. -/

namespace TableQuery

namespace Keyed

variable {κ α : Type} [DecidableEq κ]

theorem set_set (entries : List (κ × α)) (key : κ) (first second : α) :
    set (set entries key first) key second = set entries key second := by
  induction entries with
  | nil => simp [set]
  | cons entry rest ih =>
    by_cases here : entry.1 = key
    · simp [set, here]
    · simp [set, here, ih]

/-- A key that is present has its place, so another key can be set before it or after it. -/
theorem set_comm {entries : List (κ × α)} {key other : κ} (present : key ∈ entries.map Prod.fst)
    (differs : other ≠ key) (value otherValue : α) :
    set (set entries other otherValue) key value = set (set entries key value) other otherValue := by
  induction entries with
  | nil => simp at present
  | cons entry rest ih =>
    by_cases here : entry.1 = key
    · have notOther : entry.1 ≠ other := fun e => differs (e.symm.trans here)
      simp [set, here, differs.symm]
    · have tail : key ∈ rest.map Prod.fst := by
        rw [List.map_cons, List.mem_cons] at present
        exact present.resolve_left fun e => here e.symm
      by_cases there : entry.1 = other
      · simp [set, there, differs]
      · simp [set, here, there, ih tail]

end Keyed

namespace Row

theorem set_set (row : Row) (key : ColumnKey) (first second : Value) :
    (row.set key first).set key second = row.set key second :=
  Row.ext (Keyed.set_set row.columns key first second)

theorem set_comm {row : Row} {key other : ColumnKey} (present : key ∈ row.keys)
    (differs : other ≠ key) (value otherValue : Value) :
    (row.set other otherValue).set key value = (row.set key value).set other otherValue :=
  Row.ext (Keyed.set_comm present differs value otherValue)

theorem set_setAll {row : Row} {key : ColumnKey} (present : key ∈ row.keys)
    {columns : List (ColumnKey × Value)} (absent : key ∉ columns.map Prod.fst) (value : Value) :
    (row.setAll columns).set key value = (row.set key value).setAll columns := by
  induction columns generalizing row with
  | nil => rfl
  | cons column rest ih =>
    rw [List.map_cons, List.mem_cons, not_or] at absent
    have kept : key ∈ (row.set column.1 column.2).keys := by
      rw [keys_set, mem_addIfNew]
      exact Or.inl present
    change ((row.set column.1 column.2).setAll rest).set key value =
      ((row.set key value).set column.1 column.2).setAll rest
    rw [ih kept absent.2, set_comm present (Ne.symm absent.1)]

theorem setAll_keyedSet (start : Row) {columns : List (ColumnKey × Value)}
    (distinct : (columns.map Prod.fst).Nodup) (key : ColumnKey) (value : Value) :
    start.setAll (Keyed.set columns key value) = (start.setAll columns).set key value := by
  induction columns generalizing start with
  | nil => rfl
  | cons column rest ih =>
    rw [List.map_cons, List.nodup_cons] at distinct
    by_cases here : column.1 = key
    · have present : key ∈ (start.set column.1 column.2).keys := by
        rw [keys_set, mem_addIfNew]
        exact Or.inr here.symm
      have absent : key ∉ rest.map Prod.fst := here ▸ distinct.1
      have replaced : Keyed.set (column :: rest) key value = (key, value) :: rest := by
        rw [Keyed.set, if_pos here]
      rw [replaced]
      change (start.set key value).setAll rest =
        ((start.set column.1 column.2).setAll rest).set key value
      rw [set_setAll present absent, here, set_set]
    · have later : Keyed.set (column :: rest) key value =
          column :: Keyed.set rest key value := by
        rw [Keyed.set, if_neg here]
      rw [later]
      exact ih (start.set column.1 column.2) distinct.2

theorem setAll_columns_setAll (start row : Row) (columns : List (ColumnKey × Value)) :
    start.setAll (row.setAll columns).columns = (start.setAll row.columns).setAll columns := by
  induction columns generalizing row with
  | nil => rfl
  | cons column rest ih =>
    change start.setAll ((row.set column.1 column.2).setAll rest).columns = _
    rw [ih]
    have first : start.setAll (row.set column.1 column.2).columns =
        (start.setAll row.columns).set column.1 column.2 :=
      setAll_keyedSet start row.distinct column.1 column.2
    rw [first]
    rfl

theorem keys_setAll (row : Row) (columns : List (ColumnKey × Value)) :
    (row.setAll columns).keys = (columns.map Prod.fst).foldl addIfNew row.keys := by
  induction columns generalizing row with
  | nil => rfl
  | cons column rest ih =>
    change ((row.set column.1 column.2).setAll rest).keys = _
    rw [ih, keys_set, List.map_cons, List.foldl_cons]

theorem setAll_ofColumns (start : Row) (columns : List (ColumnKey × Value)) :
    start.setAll (ofColumns columns).columns = start.setAll columns :=
  setAll_columns_setAll start .empty columns

end Row

end TableQuery
