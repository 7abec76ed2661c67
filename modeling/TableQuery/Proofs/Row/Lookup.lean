import TableQuery.Row

/-! Lookups in rows of plain keys. Such a row, when each of its names also reads back as its key,
answers a field text by the bare name that the text ends in, and tagging it with a table answers
that table's keys alone. -/

namespace TableQuery

namespace Row

theorem find?_eq_none_iff {row : Row} {key : ColumnKey} : row.find? key = none ↔ key ∉ row.keys := by
  rw [find?, List.lookup_eq_none_iff]
  constructor
  · intro absent member
    obtain ⟨column, hcolumn, rfl⟩ := List.mem_map.1 member
    simpa using absent column hcolumn
  · intro absent column hcolumn
    have differs : key ≠ column.1 := fun e => absent (e ▸ List.mem_map_of_mem hcolumn)
    simpa using differs

theorem mem_keys_of_find? {row : Row} {key : ColumnKey} {value : Value}
    (h : row.find? key = some value) : key ∈ row.keys := by
  by_cases member : key ∈ row.keys
  · exact member
  · simp [find?_eq_none_iff.2 member] at h

theorem exists_find?_of_mem {row : Row} {key : ColumnKey} (member : key ∈ row.keys) :
    ∃ value, row.find? key = some value := by
  cases found : row.find? key with
  | none => exact absurd member (find?_eq_none_iff.1 found)
  | some value => exact ⟨value, rfl⟩

theorem get?_eq (row : Row) (field : String) :
    row.get? field = (row.find? (.ofText field)).or
      (if (ColumnKey.ofText field).isQualified then
        row.find? (.plain (ColumnKey.ofText field).name) else none) := by
  cases h : row.find? (.ofText field) with
  | none => simp [get?, h, ColumnKey.unqualified]
  | some value => simp [get?, h]

theorem get?_insert_self (row : Row) (field : String) (value : Value) :
    (row.insert field value).get? field = some value := by
  rw [get?_eq, insert, find?_set, if_pos rfl, Option.some_or]

theorem find?_nulled (row : Row) (key : ColumnKey) :
    row.nulled.find? key = (row.find? key).map fun _ => .null := by
  obtain ⟨columns, distinct⟩ := row
  simp only [find?, nulled]
  clear distinct
  induction columns with
  | nil => rfl
  | cons column rest ih =>
    rw [List.map_cons, Keyed.lookup_cons, Keyed.lookup_cons, ih]
    split <;> rfl

theorem get?_nulled (row : Row) (field : String) :
    row.nulled.get? field = (row.get? field).map fun _ => .null := by
  rw [get?_eq, get?_eq, find?_nulled, find?_nulled]
  cases row.find? (.ofText field) with
  | none => split <;> simp
  | some value => simp

theorem find?_setAll {columns : List (ColumnKey × Value)} (distinct : (columns.map Prod.fst).Nodup)
    (row : Row) (key : ColumnKey) :
    (row.setAll columns).find? key = (columns.lookup key).or (row.find? key) := by
  induction columns generalizing row with
  | nil => simp [setAll]
  | cons column rest ih =>
    rw [List.map_cons, List.nodup_cons] at distinct
    have step : row.setAll (column :: rest) = (row.set column.1 column.2).setAll rest := rfl
    rw [step, ih distinct.2, find?_set, Keyed.lookup_cons]
    by_cases h : key = column.1
    · have absent : rest.lookup key = none := by
        rw [List.lookup_eq_none_iff]
        intro other hother
        have differs : key ≠ other.1 := fun e =>
          distinct.1 (h ▸ e ▸ List.mem_map_of_mem hother)
        simpa using differs
      simp [h ▸ absent, h]
    · simp [h]

theorem find?_setAll_reverse (columns : List (ColumnKey × Value)) (row : Row) (key : ColumnKey) :
    (row.setAll columns).find? key = (columns.reverse.lookup key).or (row.find? key) := by
  induction columns generalizing row with
  | nil => simp [setAll]
  | cons column rest ih =>
    have step : row.setAll (column :: rest) = (row.set column.1 column.2).setAll rest := rfl
    rw [step, ih, find?_set, List.reverse_cons, List.lookup_append, Keyed.lookup_cons]
    by_cases h : key = column.1
    · simp [h]
    · simp [h]

theorem get?_of_untagged {row : Row} (untagged : ∀ key ∈ row.keys, key.table = none)
    (field : String) : row.get? field = row.find? (.plain (ColumnKey.ofText field).name) := by
  rw [get?_eq]
  by_cases qualified : (ColumnKey.ofText field).isQualified
  · have absent : row.find? (.ofText field) = none := by
      rw [find?_eq_none_iff]
      intro member
      simp [ColumnKey.isQualified, untagged _ member] at qualified
    simp [absent, qualified]
  · have bare : (ColumnKey.ofText field).table = none := by
      simpa [ColumnKey.isQualified] using qualified
    rw [if_neg qualified, Option.or_none, ← ColumnKey.eq_plain_name bare]

/-- All keys are plain, and the text of each reads back as the key. -/
def PlainKeys (row : Row) : Prop :=
  ∀ key ∈ row.keys, key.table = none ∧ ColumnKey.ofText key.name = key

instance (row : Row) : Decidable row.PlainKeys :=
  inferInstanceAs (Decidable (∀ key ∈ row.keys, key.table = none ∧ ColumnKey.ofText key.name = key))

theorem PlainKeys.nulled {row : Row} (h : row.PlainKeys) : row.nulled.PlainKeys := by
  intro key member
  exact h key (keys_nulled row ▸ member)

theorem PlainKeys.get?_eq_find? {row : Row} (h : row.PlainKeys) (field : String) :
    row.get? field = row.find? (.plain (ColumnKey.ofText field).name) :=
  get?_of_untagged (fun key member => (h key member).1) field

theorem PlainKeys.get?_of_find? {row : Row} (h : row.PlainKeys) {name : String} {value : Value}
    (found : row.find? (.plain name) = some value) : row.get? name = some value := by
  have readable : ColumnKey.ofText name = .plain name := (h _ (mem_keys_of_find? found)).2
  rw [h.get?_eq_find?, readable, ColumnKey.plain_name, found]

theorem PlainKeys.get?_name {row : Row} (h : row.PlainKeys) {key : ColumnKey}
    (member : key ∈ row.keys) : row.get? key.name = row.find? key := by
  obtain ⟨value, found⟩ := exists_find?_of_mem member
  have bare : key = .plain key.name := ColumnKey.eq_plain_name (h key member).1
  rw [found]
  exact h.get?_of_find? (bare ▸ found)

end Row

end TableQuery
