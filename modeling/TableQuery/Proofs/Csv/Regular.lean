import TableQuery.Csv.Directory
import TableQuery.Proofs.Csv.ColumnNames
import TableQuery.Proofs.Text.Utf8

/-! Which files are tables, and what rows they give. A file is read when its fields are text and its
records are as long as its header, and then all its rows have the same columns. -/

namespace TableQuery.Csv

def Holds (field : List UInt8) (text : String) : Prop :=
  ∃ whole : String, whole.toUTF8 = field.toByteArray ∧ text = String.ofList (Text.trim whole.toList)

theorem reads_iff_holds {field : List UInt8} {text : String} :
    Reads field text ↔ Holds field text := by
  constructor
  · rintro ⟨chars, decoded, rfl⟩
    rw [Text.decode_eq_ok_iff] at decoded
    refine ⟨String.ofList chars, ?_, by rw [String.toList_ofList]⟩
    rw [String.toUTF8, String.toByteArray_ofList, decoded, List.utf8Encode]
  · rintro ⟨whole, encoded, rfl⟩
    refine ⟨whole.toList, Text.decode_eq_ok_iff.2 ?_, rfl⟩
    rw [String.toUTF8, ← String.utf8Encode_toList, List.utf8Encode, List.toByteArray_inj] at encoded
    exact encoded.symm

theorem reads_eq_holds : Reads = Holds := by
  funext field text
  exact propext reads_iff_holds

theorem exists_holds_iff {field : List UInt8} :
    (∃ text, Holds field text) ↔ field.toByteArray.IsValidUTF8 := by
  constructor
  · rintro ⟨_, whole, encoded, rfl⟩
    rw [← encoded]
    exact whole.isValidUTF8
  · intro valid
    exact ⟨_, String.ofByteArray field.toByteArray valid, rfl, rfl⟩

theorem exists_texts_iff {fields : List (List UInt8)} :
    (∃ texts, List.Forall₂ Holds fields texts) ↔
      ∀ field ∈ fields, field.toByteArray.IsValidUTF8 := by
  induction fields with
  | nil => simp
  | cons field rest ih =>
    rw [List.forall_mem_cons, ← ih, ← exists_holds_iff]
    constructor
    · rintro ⟨_, text | ⟨first, later⟩⟩
      exact ⟨⟨_, first⟩, _, later⟩
    · rintro ⟨⟨text, first⟩, texts, later⟩
      exact ⟨text :: texts, .cons first later⟩

structure Regular (file : List UInt8) : Prop where
  text : ∀ record ∈ fileRecords file, ∀ field ∈ record.fields, field.toByteArray.IsValidUTF8
  even : ∀ header ∈ (fileRecords file).head?, ∀ record ∈ (fileRecords file).tail,
    record.fields.length = header.fields.length

theorem exists_rows_iff {names : List String} {records : List Record} :
    (∃ found, List.Forall₂ (IsRowOf names) records found) ↔
      ∀ record ∈ records, record.fields.length = names.length ∧
        ∀ field ∈ record.fields, field.toByteArray.IsValidUTF8 := by
  induction records with
  | nil => simp
  | cons record rest ih =>
    rw [List.forall_mem_cons, ← ih, ← exists_texts_iff]
    constructor
    · rintro ⟨_, _ | ⟨⟨cells, texts, sameLength, -⟩, later⟩⟩
      rw [reads_eq_holds] at texts
      exact ⟨⟨texts.length_eq.trans sameLength, _, texts⟩, _, later⟩
    · rintro ⟨⟨sameLength, cells, texts⟩, found, later⟩
      have first : IsRowOf names record (Csv.row names cells) :=
        ⟨cells, reads_eq_holds ▸ texts, texts.length_eq.symm.trans sameLength, rfl⟩
      exact ⟨_, .cons first later⟩

theorem table_eq_ok_iff {file : List UInt8} {found : List Row} :
    table file = .ok found ↔
      ∃ names, (∀ header ∈ (fileRecords file).head?, List.Forall₂ Reads header.fields names) ∧
        List.Forall₂ (IsRowOf names) (fileRecords file).tail found := by
  refine ⟨exists_names_of_table, ?_⟩
  rintro ⟨names, named, built⟩
  rw [table]
  cases records : fileRecords file with
  | nil =>
    rw [records] at built
    cases built
    rfl
  | cons header rest =>
    rw [records] at named built
    have texts : headerTexts file header 0 = .ok names :=
      recordTexts_eq_ok_iff.2 (named header rfl)
    dsimp only
    rw [texts]
    exact rows_eq_ok_iff.2 built

theorem regular_iff {file : List UInt8} : Regular file ↔ ∃ found, table file = .ok found := by
  constructor
  · rintro ⟨text, even⟩
    simp only [table_eq_ok_iff]
    cases records : fileRecords file with
    | nil => exact ⟨[], [], nofun, .nil⟩
    | cons header rest =>
      rw [records] at text even
      obtain ⟨names, named⟩ := exists_texts_iff.2 (text header List.mem_cons_self)
      obtain ⟨found, built⟩ := exists_rows_iff.2 fun record member =>
        ⟨(even header rfl record member).trans named.length_eq,
          text record (List.mem_cons_of_mem header member)⟩
      refine ⟨found, names, ?_, built⟩
      rintro _ ⟨⟩
      exact reads_eq_holds ▸ named
  · rintro ⟨found, succeeds⟩
    obtain ⟨names, named, built⟩ := exists_names_of_table succeeds
    rw [reads_eq_holds] at named
    have later := exists_rows_iff.1 ⟨found, built⟩
    constructor
    · intro record member
      cases records : fileRecords file with
      | nil => simp [records] at member
      | cons header rest =>
        rw [records] at named later member
        rcases List.mem_cons.1 member with rfl | member
        · exact exists_texts_iff.1 ⟨names, named record rfl⟩
        · exact (later record member).2
    · intro header first record member
      exact (later record member).1.trans (named header first).length_eq.symm

structure HasCells (names cells : List String) (row : Row) : Prop where
  keys : row.keys = (names.map ColumnKey.plain).eraseDups
  cell : ∀ name, row.find? (.plain name) = (lastCell? names cells name).map .text

theorem hasCells_row {names cells : List String} (sameLength : cells.length = names.length) :
    HasCells names cells (Csv.row names cells) where
  keys := by
    have keyed : (names.zip cells).map (ColumnKey.plain ∘ Prod.fst) =
        names.map ColumnKey.plain := by
      rw [← List.map_map, List.map_fst_zip (Nat.le_of_eq sameLength.symm)]
    rw [Csv.row, Row.ofColumns, Row.keys_setAll, Row.keys_empty, List.map_map,
      ← firstSeen_eq_eraseDups, ← keyed]
    rfl
  cell := find?_row names cells

/-- A file is read as a table exactly when all its fields are text and its records are as long as
its header. There is then one row for each record, and the rows have the same columns. Of any other
file there is a fault and no row, whatever records come before the bad one. -/
theorem tableNamed_cases (name : String) (file : List UInt8) :
    (Regular file ∧ ∃ names found, tableNamed name file = .ok found ∧
      (∀ header ∈ (fileRecords file).head?, List.Forall₂ Holds header.fields names) ∧
      List.Forall₂ (fun record row => ∃ cells, List.Forall₂ Holds record.fields cells ∧
        HasCells names cells row) (fileRecords file).tail found) ∨
    (¬ Regular file ∧ ∃ fault, tableNamed name file = .error (.unreadable name fault)) := by
  by_cases regular : Regular file
  · obtain ⟨found, succeeds⟩ := regular_iff.1 regular
    obtain ⟨names, named, built⟩ := exists_names_of_table succeeds
    rw [reads_eq_holds] at named
    refine .inl ⟨regular, names, found, mapError_eq_ok_iff.2 succeeds, named, built.imp ?_⟩
    rintro record row ⟨cells, texts, sameLength, rfl⟩
    exact ⟨cells, reads_eq_holds ▸ texts, hasCells_row sameLength⟩
  · refine .inr ⟨regular, ?_⟩
    cases read : table file with
    | error fault => exact ⟨fault, by rw [tableNamed, read]; rfl⟩
    | ok found => exact absurd (regular_iff.2 ⟨found, read⟩) regular

/-- Two columns are named alike and two have a blank name. -/
example : (table ("a,,a, \n1,2,3,4\n".toList.map fun c => c.toNat.toUInt8)).toOption =
    some [.ofColumns [(.plain "a", .text "3"), (.plain "", .text "4")]] := by decide +kernel

end TableQuery.Csv
