import Mathlib.Data.List.Nodup
import TableQuery.Proofs.Join.Pairs
import TableQuery.Proofs.Row.Lookup
import TableQuery.Proofs.Row.Setting

/-! What a joined row answers for a requested field. It carries the value that the pair has for the
field, and where the pair has none the lookup goes on to the bare name, which another requested
field can have set. -/

namespace TableQuery

theorem lookup_tagged (columns : List (ColumnKey × Value)) (table : String) (key : ColumnKey)
    (plain : ∀ column ∈ columns, column.1.table = none) :
    (columns.map fun column => (ColumnKey.qualified table column.1.name, column.2)).lookup key =
      if key.table = some table then columns.lookup (.plain key.name) else none := by
  induction columns with
  | nil => simp
  | cons column rest ih =>
    have bare : column.1 = .plain column.1.name :=
      ColumnKey.eq_plain_name (plain column List.mem_cons_self)
    have tail := ih fun other member => plain other (List.mem_cons_of_mem _ member)
    have here : key = .qualified table column.1.name ↔
        key.table = some table ∧ ColumnKey.plain key.name = column.1 := by
      rw [bare]
      simp [ColumnKey.ext_iff]
    rw [List.map_cons, Keyed.lookup_cons, Keyed.lookup_cons, tail]
    by_cases htable : key.table = some table <;>
      simp [here, htable]

namespace Row

theorem PlainKeys.find?_tagged {row : Row} (h : row.PlainKeys) (table : String) (key : ColumnKey) :
    (row.tagged table).find? key =
      if key.table = some table then row.find? (.plain key.name) else none := by
  have plain : ∀ column ∈ row.columns, column.1.table = none :=
    fun column member => (h _ (List.mem_map_of_mem member)).1
  have inverse : ∀ key ∈ row.keys, key = .plain key.name :=
    fun key member => ColumnKey.eq_plain_name (h key member).1
  have distinct : ((row.columns.map fun column =>
      (ColumnKey.qualified table column.1.name, column.2)).map Prod.fst).Nodup := by
    have keys := row.nodup_keys.map_on (f := fun key => ColumnKey.qualified table key.name) ?_
    · simpa [Row.keys, Function.comp_def] using keys
    · intro k hk l hl same
      rw [inverse k hk, inverse l hl]
      exact congrArg (fun key => ColumnKey.plain key.name) same
  rw [tagged, ofColumns, find?_setAll distinct, lookup_tagged _ _ _ plain, find?_empty,
    Option.or_none, find?]

end Row

namespace Pair

theorem find?_carry (pair : Pair) (baseTable : String) (row : Row) (field : String)
    (key : ColumnKey) :
    (pair.carry baseTable row field).find? key =
      if key = .ofText field then (pair.value? baseTable key).or (row.find? key)
      else row.find? key := by
  by_cases h : key = .ofText field
  · subst h
    cases hvalue : pair.value? baseTable (.ofText field) with
    | none => simp [carry, hvalue]
    | some value => simp [carry, hvalue, Row.insert, Row.find?_set]
  · cases hvalue : pair.value? baseTable (.ofText field) with
    | none => simp [carry, hvalue, h]
    | some value => simp [carry, hvalue, Row.insert, Row.find?_set, h]

theorem find?_foldl_carry (pair : Pair) (baseTable : String) (fields : List String) (row : Row)
    (key : ColumnKey) :
    (fields.foldl (pair.carry baseTable) row).find? key =
      if key ∈ fields.map .ofText then (pair.value? baseTable key).or (row.find? key)
      else row.find? key := by
  induction fields generalizing row with
  | nil => simp
  | cons field rest ih =>
    rw [List.foldl_cons, ih, find?_carry, List.map_cons]
    by_cases here : key = .ofText field
    · cases pair.value? baseTable key <;> simp [here]
    · simp [here]

theorem find?_row (pair : Pair) (spec : JoinSpec) (outer : Bool) (key : ColumnKey) :
    (pair.row spec outer).find? key =
      if key ∈ spec.fields.map .ofText then
        (pair.value? spec.baseTable key).or ((pair.start spec.baseTable outer).find? key)
      else (pair.start spec.baseTable outer).find? key := by
  rw [row, find?_foldl_carry]

theorem value?_of_belongsTo {baseTable : String} {key : ColumnKey} (own : key.belongsTo baseTable)
    (pair : Pair) :
    pair.value? baseTable key =
      (pair.base.map fun row => row.get? key.name).getD (some .null) := by
  cases base : pair.base <;> simp [value?, own, base]

theorem value?_of_foreign {baseTable : String} {key : ColumnKey}
    (foreign : key.belongsTo baseTable = false) (pair : Pair) :
    pair.value? baseTable key =
      (pair.joined.map fun row => row.get? key.name).getD (some .null) := by
  cases joined : pair.joined <;> simp [value?, foreign, joined]

theorem find?_start_plain (pair : Pair) (baseTable : String) (outer : Bool) (name : String) :
    (pair.start baseTable outer).find? (.plain name) = none := by
  rw [Row.find?_eq_none_iff]
  unfold start
  split
  next row _ =>
    rw [Row.tagged, Row.ofColumns, Row.keys_setAll, mem_foldl_addIfNew]
    simp [ColumnKey.ext_iff]
  next => simp

/-- The columns an outer join carries besides the requested ones are columns of the base table,
with the values that a request for them would give. -/
theorem value?_of_find?_start {pair : Pair} {baseTable : String} {outer : Bool} {key : ColumnKey}
    {value : Value} (plain : ∀ b ∈ pair.base, b.PlainKeys)
    (found : (pair.start baseTable outer).find? key = some value) :
    key.table = some baseTable ∧ pair.value? baseTable key = some value := by
  unfold start at found
  split at found
  next base hbase =>
    have plainBase := plain base hbase
    rw [plainBase.find?_tagged] at found
    split at found
    next htable =>
      have side : key.belongsTo baseTable := by simp [ColumnKey.belongsTo, htable]
      refine ⟨htable, ?_⟩
      simp only [value?, side, if_true, hbase]
      exact plainBase.get?_of_find? found
    next => contradiction
  next => contradiction

theorem get?_row {pair : Pair} {spec : JoinSpec} (plain : ∀ b ∈ pair.base, b.PlainKeys)
    (outer : Bool) {field : String} (requested : field ∈ spec.fields) :
    (pair.row spec outer).get? field =
      (pair.value? spec.baseTable (.ofText field)).or
        (if ColumnKey.plain (ColumnKey.ofText field).name ∈ spec.fields.map .ofText then
          pair.value? spec.baseTable (.plain (ColumnKey.ofText field).name) else none) := by
  have member : ColumnKey.ofText field ∈ spec.fields.map .ofText := List.mem_map_of_mem requested
  rw [Row.get?_eq, find?_row, find?_row, if_pos member, find?_start_plain, Option.or_none]
  cases hvalue : pair.value? spec.baseTable (.ofText field) with
  | some value => simp
  | none =>
    have fieldStart : (pair.start spec.baseTable outer).find? (.ofText field) = none := by
      cases h : (pair.start spec.baseTable outer).find? (.ofText field) with
      | none => rfl
      | some value => simp [(value?_of_find?_start plain h).2] at hvalue
    rw [fieldStart, Option.or_none, Option.none_or, Option.none_or]
    by_cases qualified : (ColumnKey.ofText field).isQualified
    · rw [if_pos qualified]
    · have bare : (ColumnKey.ofText field).table = none := by
        simpa [ColumnKey.isQualified] using qualified
      rw [if_neg qualified, ← ColumnKey.eq_plain_name bare, hvalue, ite_self]

end Pair

end TableQuery
