import TableQuery.ColumnKey
import TableQuery.Keyed
import TableQuery.Value

/-! A row: columns in the order in which they were first set, no two of them under one key. A
lookup by field text tries the exact key and then the bare name. -/

namespace TableQuery

@[ext]
structure Row where
  columns : List (ColumnKey × Value)
  distinct : (columns.map Prod.fst).Nodup
  deriving DecidableEq

namespace Row

def empty : Row := ⟨[], List.nodup_nil⟩

def keys (row : Row) : List ColumnKey := row.columns.map Prod.fst

def size (row : Row) : Nat := row.columns.length

theorem nodup_keys (row : Row) : row.keys.Nodup := row.distinct

@[simp] theorem keys_empty : empty.keys = [] := rfl

def set (row : Row) (key : ColumnKey) (value : Value) : Row :=
  ⟨Keyed.set row.columns key value, Keyed.nodup_set key value row.distinct⟩

def insert (row : Row) (field : String) (value : Value) : Row :=
  row.set (ColumnKey.ofText field) value

def find? (row : Row) (key : ColumnKey) : Option Value := row.columns.lookup key

def get? (row : Row) (field : String) : Option Value :=
  let key := ColumnKey.ofText field
  match row.find? key with
  | some value => some value
  | none => if key.isQualified then row.find? key.unqualified else none

def nulled (row : Row) : Row :=
  ⟨row.columns.map fun column => (column.1, .null), by
    simpa [Function.comp_def] using row.distinct⟩

def setAll (row : Row) (columns : List (ColumnKey × Value)) : Row :=
  columns.foldl (fun row column => row.set column.1 column.2) row

def ofColumns (columns : List (ColumnKey × Value)) : Row := empty.setAll columns

theorem keys_set (row : Row) (key : ColumnKey) (value : Value) :
    (row.set key value).keys = addIfNew row.keys key :=
  Keyed.keys_set row.columns key value

@[simp] theorem keys_nulled (row : Row) : row.nulled.keys = row.keys := by
  simp [keys, nulled, Function.comp_def]

@[simp] theorem find?_empty (key : ColumnKey) : empty.find? key = none := rfl

theorem find?_set (row : Row) (key other : ColumnKey) (value : Value) :
    (row.set key value).find? other = if other = key then some value else row.find? other :=
  Keyed.lookup_set row.columns key other value

end Row

end TableQuery
