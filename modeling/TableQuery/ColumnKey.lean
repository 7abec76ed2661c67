/-! The name of a column, with the table it came from when that is known. A field text is split
at its first dot, provided that both parts hold something. -/

namespace TableQuery

@[ext]
structure ColumnKey where
  table : Option String
  name : String
  deriving DecidableEq

namespace ColumnKey

def plain (name : String) : ColumnKey := ⟨none, name⟩

def qualified (table name : String) : ColumnKey := ⟨some table, name⟩

def splitAtDot? (field : List Char) : Option (List Char × List Char) :=
  match field.takeWhile (· != '.'), field.dropWhile (· != '.') with
  | c :: table, _ :: d :: name => some (c :: table, d :: name)
  | _, _ => none

def ofText (field : String) : ColumnKey :=
  match splitAtDot? field.toList with
  | some (table, name) => qualified (String.ofList table) (String.ofList name)
  | none => plain field

def text (key : ColumnKey) : String :=
  match key.table with
  | some table => table ++ "." ++ key.name
  | none => key.name

def isQualified (key : ColumnKey) : Bool := key.table.isSome

def unqualified (key : ColumnKey) : ColumnKey := plain key.name

/-- A key that names no table belongs to any. -/
def belongsTo (key : ColumnKey) (table : String) : Bool := key.table.all (· == table)

@[simp] theorem plain_table (name : String) : (plain name).table = none := rfl

@[simp] theorem plain_name (name : String) : (plain name).name = name := rfl

@[simp] theorem qualified_table (table name : String) :
    (qualified table name).table = some table := rfl

@[simp] theorem qualified_name (table name : String) : (qualified table name).name = name := rfl

@[simp] theorem text_plain (name : String) : (plain name).text = name := rfl

@[simp] theorem text_qualified (table name : String) :
    (qualified table name).text = table ++ "." ++ name := rfl

@[simp] theorem unqualified_plain (name : String) : (plain name).unqualified = plain name := rfl

theorem splitAtDot?_append {table name : List Char} (nonempty : table ≠ [])
    (dotFree : '.' ∉ table) (named : name ≠ []) :
    splitAtDot? (table ++ '.' :: name) = some (table, name) := by
  have letters : ∀ c ∈ table, (c != '.') = true := by
    intro c member
    have differs : c ≠ '.' := fun e => dotFree (e ▸ member)
    simpa using differs
  have before : (table ++ '.' :: name).takeWhile (· != '.') = table := by
    rw [List.takeWhile_append_of_pos letters]
    simp
  have after : (table ++ '.' :: name).dropWhile (· != '.') = '.' :: name := by
    rw [List.dropWhile_append_of_pos letters]
    simp
  obtain ⟨c, table, rfl⟩ := List.exists_cons_of_ne_nil nonempty
  obtain ⟨d, name, rfl⟩ := List.exists_cons_of_ne_nil named
  rw [splitAtDot?, before, after]

theorem splitAtDot?_eq_some_iff {field table name : List Char} :
    splitAtDot? field = some (table, name) ↔
      table ≠ [] ∧ '.' ∉ table ∧ name ≠ [] ∧ field = table ++ '.' :: name := by
  constructor
  · intro h
    have whole := List.takeWhile_append_dropWhile (p := (· != '.')) (l := field)
    have letters := List.all_takeWhile (p := (· != '.')) (l := field)
    have first := List.head?_dropWhile_not (· != '.') field
    rw [splitAtDot?] at h
    split at h
    next c before dot d after hbefore hafter =>
      have hdot : dot = '.' := by simpa [hafter] using first
      obtain ⟨rfl, rfl⟩ := Prod.mk.inj (Option.some.inj h)
      rw [hbefore] at letters
      refine ⟨List.cons_ne_nil _ _, fun member => ?_, List.cons_ne_nil _ _, ?_⟩
      · simpa using List.all_eq_true.1 letters '.' member
      · rw [← whole, hbefore, hafter, hdot]
    next => contradiction
  · rintro ⟨nonempty, dotFree, named, rfl⟩
    exact splitAtDot?_append nonempty dotFree named

@[simp] theorem text_ofText (field : String) : (ofText field).text = field := by
  unfold ofText
  split
  next table name h =>
    rw [text_qualified, ← String.toList_inj]
    simp [(splitAtDot?_eq_some_iff.1 h).2.2.2]
  next => rfl

theorem ofText_qualified {table name : String} (nonempty : table ≠ "")
    (dotFree : '.' ∉ table.toList) (named : name ≠ "") :
    ofText (qualified table name).text = qualified table name := by
  have split : splitAtDot? (qualified table name).text.toList =
      some (table.toList, name.toList) := by
    have parts : (qualified table name).text.toList = table.toList ++ '.' :: name.toList := by
      simp
    rw [parts]
    exact splitAtDot?_append (by simpa using nonempty) dotFree (by simpa using named)
  rw [ofText, split]
  simp

theorem ofText_inj {f g : String} : ofText f = ofText g ↔ f = g := by
  constructor
  · intro h
    rw [← text_ofText f, h, text_ofText]
  · exact congrArg ofText

theorem eq_plain_name {key : ColumnKey} (h : key.table = none) : key = plain key.name := by
  obtain ⟨table, name⟩ := key
  cases h
  rfl

theorem name_ofText_of_bare {field : String} (bare : (ofText field).table = none) :
    (ofText field).name = field := by
  have whole := text_ofText field
  rwa [eq_plain_name bare, text_plain] at whole

end ColumnKey

end TableQuery
