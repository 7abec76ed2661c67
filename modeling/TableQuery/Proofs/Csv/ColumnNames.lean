import Mathlib.Data.List.Forall2
import TableQuery.Csv.Table
import TableQuery.Except
import TableQuery.Proofs.Row.Lookup
import TableQuery.Proofs.Row.Setting

/-! The rows of a file and the names in its header. Every row has a cell under each name, the last one
where a name is repeated. A lookup takes a name with a dot in it for a table and a column, and goes on
to the part after the dot, so that it finds the cell of that column in place of the one of the name. -/

namespace TableQuery.Csv

def Reads (field : List UInt8) (text : String) : Prop :=
  ∃ chars, Text.decode field = .ok chars ∧ text = String.ofList (Text.trim chars)

theorem texts_eq_ok_iff {margin : List UInt8 → Nat} {index : Nat} {fields : List (List UInt8)}
    {found : List String} :
    texts margin index fields = .ok found ↔ List.Forall₂ Reads fields found := by
  induction fields generalizing index found with
  | nil => simp [texts, eq_comm]
  | cons field rest ih =>
    rw [texts, List.forall₂_cons_left_iff]
    cases decoded : Text.decode field with
    | error byte => simp [Reads, decoded]
    | ok chars =>
      constructor
      · intro read
        obtain ⟨others, later, rfl⟩ := map_eq_ok_iff.1 read
        exact ⟨_, others, ⟨chars, decoded, rfl⟩, ih.1 later, rfl⟩
      · rintro ⟨text, others, ⟨_, same, rfl⟩, later, rfl⟩
        obtain rfl := Except.ok.inj (decoded.symm.trans same)
        exact map_eq_ok_iff.2 ⟨others, ih.2 later, rfl⟩

theorem recordTexts_eq_ok_iff {margin : List UInt8 → Nat} {file : List UInt8} {record : Record}
    {index : Nat} {found : List String} :
    recordTexts margin file record index = .ok found ↔ List.Forall₂ Reads record.fields found :=
  mapError_eq_ok_iff.trans texts_eq_ok_iff

def IsRowOf (names : List String) (record : Record) (row : Row) : Prop :=
  ∃ cells, List.Forall₂ Reads record.fields cells ∧ cells.length = names.length ∧
    Csv.row names cells = row

theorem rows_eq_ok_iff {file : List UInt8} {names : List String} {index : Nat}
    {records : List Record} {found : List Row} :
    rows file names index records = .ok found ↔ List.Forall₂ (IsRowOf names) records found := by
  induction records generalizing index found with
  | nil => simp [rows, eq_comm]
  | cons record rest ih =>
    rw [rows, List.forall₂_cons_left_iff]
    by_cases sameLength : record.fields.length = names.length
    · rw [if_neg (not_not.2 sameLength)]
      constructor
      · intro read
        split at read
        next => cases read
        next cells texts =>
          obtain ⟨others, later, rfl⟩ := map_eq_ok_iff.1 read
          have read := recordTexts_eq_ok_iff.1 texts
          exact ⟨_, others, ⟨cells, read, read.length_eq.symm.trans sameLength, rfl⟩, ih.1 later, rfl⟩
      · rintro ⟨row, others, ⟨cells, texts, -, rfl⟩, later, rfl⟩
        have read : cellTexts file record index = .ok cells := recordTexts_eq_ok_iff.2 texts
        rw [read]
        exact map_eq_ok_iff.2 ⟨others, ih.2 later, rfl⟩
    · rw [if_pos sameLength]
      constructor
      · intro fails
        cases fails
      · rintro ⟨row, others, ⟨cells, texts, length, -⟩, -⟩
        exact absurd (texts.length_eq.trans length) sameLength

theorem exists_names_of_table {file : List UInt8} {found : List Row}
    (succeeds : table file = .ok found) :
    ∃ names, (∀ header ∈ (fileRecords file).head?, List.Forall₂ Reads header.fields names) ∧
      List.Forall₂ (IsRowOf names) (fileRecords file).tail found := by
  rw [table] at succeeds
  split at succeeds
  next empty =>
    cases succeeds
    exact ⟨[], by simp [empty], by simp [empty]⟩
  next header rest records =>
    split at succeeds
    next => cases succeeds
    next names texts =>
      rw [records]
      refine ⟨names, ?_, rows_eq_ok_iff.1 succeeds⟩
      rintro _ ⟨⟩
      exact recordTexts_eq_ok_iff.1 texts

/-- The cell under a name, the last one where the name is repeated. -/
def lastCell? (names cells : List String) (name : String) : Option String :=
  (names.zip cells).reverse.lookup name

theorem exists_lastCell? {names cells : List String} (sameLength : cells.length = names.length)
    {name : String} (member : name ∈ names) : ∃ cell, lastCell? names cells name = some cell := by
  cases found : lastCell? names cells name with
  | some cell => exact ⟨cell, rfl⟩
  | none =>
    have zipped : (names.zip cells).map Prod.fst = names :=
      List.map_fst_zip (Nat.le_of_eq sameLength.symm)
    rw [← zipped] at member
    obtain ⟨pair, present, rfl⟩ := List.mem_map.1 member
    have absent := List.lookup_eq_none_iff.1 found pair (List.mem_reverse.2 present)
    simp at absent

theorem lookup_plain_text (pairs : List (String × String)) (name : String) :
    (pairs.map fun (name, cell) => (ColumnKey.plain name, Value.text cell)).lookup (.plain name) =
      (pairs.lookup name).map .text := by
  induction pairs with
  | nil => rfl
  | cons pair rest ih =>
    rw [List.map_cons, Keyed.lookup_cons, Keyed.lookup_cons, ih]
    by_cases here : name = pair.1
    · simp [here]
    · have differs : ColumnKey.plain name ≠ ColumnKey.plain pair.1 := fun same =>
        here (congrArg ColumnKey.name same)
      simp [here, differs]

theorem find?_row (names cells : List String) (name : String) :
    (Csv.row names cells).find? (.plain name) = (lastCell? names cells name).map .text := by
  rw [Csv.row, Row.ofColumns, Row.find?_setAll_reverse, Row.find?_empty, Option.or_none,
    ← List.map_reverse, lookup_plain_text, lastCell?]

theorem get?_row (names cells : List String) (field : String) :
    (Csv.row names cells).get? field =
      (lastCell? names cells (ColumnKey.ofText field).name).map .text := by
  rw [← find?_row]
  refine Row.get?_of_untagged (fun key member => ?_) field
  rw [Csv.row, Row.ofColumns, Row.keys_setAll, mem_foldl_addIfNew] at member
  rcases member with none | set
  · cases none
  · simp only [List.map_map, List.mem_map, Function.comp_apply] at set
    obtain ⟨pair, -, rfl⟩ := set
    rfl

structure Answers (names cells : List String) (row : Row) (name : String) : Prop where
  stored : ∃ cell, lastCell? names cells name = some cell ∧
    row.find? (.plain name) = some (.text cell)
  own_iff : row.get? name = row.find? (.plain name) ↔ (ColumnKey.ofText name).table = none ∨
    lastCell? names cells (ColumnKey.ofText name).name = lastCell? names cells name
  found : row.get? name = (lastCell? names cells (ColumnKey.ofText name).name).map .text

theorem answers_row {names cells : List String} (sameLength : cells.length = names.length)
    {name : String} (member : name ∈ names) : Answers names cells (Csv.row names cells) name where
  stored := by
    obtain ⟨cell, held⟩ := exists_lastCell? sameLength member
    exact ⟨cell, held, by rw [find?_row, held, Option.map_some]⟩
  own_iff := by
    have injective : Function.Injective Value.text := fun _ _ => Value.text.inj
    rw [get?_row, find?_row, (Option.map_injective injective).eq_iff]
    constructor
    · exact .inr
    · rintro (bare | same)
      · rw [ColumnKey.name_ofText_of_bare bare]
      · exact same
  found := get?_row names cells name

/-- Each row that is read from a file has the last cell of the record under every name of the header.
A lookup of the name finds it when the name has no dot with text on both sides, or when the column
named by what comes after the first one has the same cell. -/
theorem table_answers {file : List UInt8} {found : List Row} (succeeds : table file = .ok found) :
    ∃ names, (∀ header ∈ (fileRecords file).head?, List.Forall₂ Reads header.fields names) ∧
      List.Forall₂ (fun record row => ∃ cells, List.Forall₂ Reads record.fields cells ∧
        cells.length = names.length ∧ ∀ name ∈ names, Answers names cells row name)
        (fileRecords file).tail found := by
  obtain ⟨names, named, built⟩ := exists_names_of_table succeeds
  refine ⟨names, named, built.imp ?_⟩
  rintro record row ⟨cells, texts, sameLength, rfl⟩
  exact ⟨cells, texts, sameLength, fun name member => answers_row sameLength member⟩

/-- Two names with a dot, one of which ends in the name of another column. -/
def dottedFile : List UInt8 := "a.b,b,c.d\n1,2,3\n".toList.map fun c => c.toNat.toUInt8

def dottedRow : Row :=
  .ofColumns [(.plain "a.b", .text "1"), (.plain "b", .text "2"), (.plain "c.d", .text "3")]

theorem table_answers_dotted : table dottedFile = .ok [dottedRow] ∧
    ∃ names, (∀ header ∈ (fileRecords dottedFile).head?, List.Forall₂ Reads header.fields names) ∧
      List.Forall₂ (fun record row => ∃ cells, List.Forall₂ Reads record.fields cells ∧
        cells.length = names.length ∧ ∀ name ∈ names, Answers names cells row name)
        (fileRecords dottedFile).tail [dottedRow] := by
  have succeeds : table dottedFile = .ok [dottedRow] := eq_ok_of_toOption (by decide +kernel)
  exact ⟨succeeds, table_answers succeeds⟩

theorem dottedRow_misread : table dottedFile = .ok [dottedRow] ∧
    dottedRow.find? (.plain "a.b") = some (.text "1") ∧ dottedRow.get? "a.b" = some (.text "2") ∧
    dottedRow.find? (.plain "c.d") = some (.text "3") ∧ dottedRow.get? "c.d" = none :=
  ⟨eq_ok_of_toOption (by decide +kernel), by decide⟩

end TableQuery.Csv
