import Mathlib.Logic.Function.Defs
import TableQuery.ColumnKey

/-! Column keys written as texts and read back. Every text is the text of the key that it reads as,
so that different texts never name one column. A key comes back from its text when the text is split
where the table ends, or for a key without a table not at all. -/

namespace TableQuery.ColumnKey

def Splits (text : String) : Prop :=
  ∃ before after : String, before ≠ "" ∧ '.' ∉ before.toList ∧ after ≠ "" ∧
    text = before ++ "." ++ after

theorem ofText_eq_qualified_iff {field table name : String} :
    ofText field = qualified table name ↔
      table ≠ "" ∧ '.' ∉ table.toList ∧ name ≠ "" ∧ field = table ++ "." ++ name := by
  constructor
  · intro reads
    have whole : field = table ++ "." ++ name := by
      rw [← text_ofText field, reads, text_qualified]
    unfold ofText at reads
    split at reads
    next before after split =>
      obtain ⟨nonempty, dotFree, named, -⟩ := splitAtDot?_eq_some_iff.1 split
      obtain ⟨rfl, rfl⟩ : String.ofList before = table ∧ String.ofList after = name := by
        simpa [qualified] using reads
      exact ⟨by simpa using nonempty, by simpa using dotFree, by simpa using named, whole⟩
    next => simp [plain, qualified] at reads
  · rintro ⟨nonempty, dotFree, named, rfl⟩
    exact ofText_qualified nonempty dotFree named

theorem splits_iff {text : String} : Splits text ↔ (ofText text).table ≠ none := by
  constructor
  · rintro ⟨before, after, parts⟩
    rw [ofText_eq_qualified_iff.2 parts]
    exact Option.some_ne_none before
  · intro tagged
    obtain ⟨table, found⟩ := Option.ne_none_iff_exists'.1 tagged
    have reads : ofText text = qualified table (ofText text).name := ColumnKey.ext found rfl
    exact ⟨table, _, ofText_eq_qualified_iff.1 reads⟩

theorem ofText_eq_plain_iff {field name : String} :
    ofText field = plain name ↔ field = name ∧ ¬ Splits name := by
  constructor
  · intro reads
    have whole : field = name := by rw [← text_ofText field, reads, text_plain]
    refine ⟨whole, fun splits => splits_iff.1 splits ?_⟩
    rw [← whole, reads, plain_table]
  · rintro ⟨rfl, whole⟩
    have bare : (ofText field).table = none := Classical.not_not.1 (mt splits_iff.2 whole)
    rw [eq_plain_name bare, name_ofText_of_bare bare]

/-- A text is read as a key with this text, so two texts are never read as one key. A key is read
back from its text exactly when it has a table, not empty and without a dot, and a name that is not
empty, or when it has no table and its name is not split. -/
theorem keys_read_back :
    (∀ field, (ofText field).text = field) ∧ Function.Injective ofText ∧
      ∀ key : ColumnKey, ofText key.text = key ↔
        (∃ table, key.table = some table ∧ table ≠ "" ∧ '.' ∉ table.toList ∧ key.name ≠ "") ∨
          (key.table = none ∧ ¬ Splits key.name) := by
  refine ⟨text_ofText, fun _ _ => ofText_inj.1, fun key => ?_⟩
  obtain ⟨table, name⟩ := key
  cases table with
  | none =>
    change ofText (plain name).text = plain name ↔ _
    rw [ofText_eq_plain_iff, text_plain]
    simp
  | some table =>
    change ofText (qualified table name).text = qualified table name ↔ _
    rw [ofText_eq_qualified_iff, text_qualified]
    simp

example : ofText "a.b.c" = qualified "a" "b.c" ∧ ofText ".a.b" = plain ".a.b" ∧
    ofText "a." = plain "a." := by decide

end TableQuery.ColumnKey
