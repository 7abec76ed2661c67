import TableQuery.Projection
import TableQuery.Proofs.Row.Lookup
import TableQuery.Proofs.Row.Setting

/-! The columns of a projected row. Their order comes from the select list and, for a wildcard, from
the keys of the source; their values are what the source answers for the keys. Both stay as they are
when the projected row is projected again. -/

namespace TableQuery

def Field.keys (source : List ColumnKey) (field : Field) : List ColumnKey :=
  match field.kind with
  | .wildcard => source
  | .plain _ => [.ofText field.text]
  | .aggregate _ => []

/-- The entries of a select list are named by the columns that they read. -/
def NamedByColumn (fields : List Field) : Prop :=
  ∀ field ∈ fields, ∀ column, field.kind = .plain column → field.text = column

theorem keys_projectField (source row : Row) (field : Field) :
    (projectField source row field).keys = (field.keys source.keys).foldl addIfNew row.keys := by
  unfold projectField Field.keys
  cases field.kind with
  | wildcard => exact Row.keys_setAll row source.columns
  | plain column => exact Row.keys_set row _ _
  | aggregate aggregate => rfl

theorem keys_foldl_projectField (fields : List Field) (source row : Row) :
    (fields.foldl (projectField source) row).keys =
      (fields.flatMap (Field.keys source.keys)).foldl addIfNew row.keys := by
  induction fields generalizing row with
  | nil => rfl
  | cons field rest ih =>
    rw [List.foldl_cons, ih, keys_projectField, List.flatMap_cons, List.foldl_append]

theorem keys_projectRow (fields : List Field) (source : Row) :
    (projectRow fields source).keys = firstSeen (fields.flatMap (Field.keys source.keys)) :=
  keys_foldl_projectField fields source .empty

/-- Copying the keys of a projected row puts none of them in another place. -/
theorem foldl_keys_again {fields : List Field} {source seen all : List ColumnKey}
    (distinct : seen.Nodup) (found : (fields.flatMap (Field.keys source)).foldl addIfNew seen = all) :
    (fields.flatMap (Field.keys all)).foldl addIfNew seen = all := by
  induction fields generalizing seen with
  | nil => exact found
  | cons field rest ih =>
    rw [List.flatMap_cons, List.foldl_append] at found ⊢
    cases kind : field.kind with
    | plain column =>
      have same (keys : List ColumnKey) : field.keys keys = [.ofText field.text] := by
        rw [Field.keys, kind]
      rw [same] at found ⊢
      exact ih (nodup_foldl_addIfNew distinct) found
    | aggregate aggregate =>
      have none (keys : List ColumnKey) : field.keys keys = [] := by
        rw [Field.keys, kind]
      rw [none] at found ⊢
      exact ih distinct found
    | wildcard =>
      have copied (keys : List ColumnKey) : field.keys keys = keys := by
        rw [Field.keys, kind]
      rw [copied] at found ⊢
      have begins : seen <+: all :=
        (prefix_foldl_addIfNew source seen).trans (found ▸ prefix_foldl_addIfNew _ _)
      have distinctAll : all.Nodup :=
        found ▸ nodup_foldl_addIfNew (nodup_foldl_addIfNew distinct)
      rw [foldl_addIfNew_of_begins begins distinctAll]
      -- The wildcard has set every key by now, so that the entries after it set none anew.
      refine foldl_addIfNew_of_subset fun key member => ?_
      obtain ⟨later, inRest, own⟩ := List.mem_flatMap.1 member
      cases laterKind : later.kind with
      | wildcard => simpa [Field.keys, laterKind] using own
      | aggregate aggregate => simp [Field.keys, laterKind] at own
      | plain column =>
        rw [← found, mem_foldl_addIfNew]
        refine .inr (List.mem_flatMap.2 ⟨later, inRest, ?_⟩)
        simpa [Field.keys, laterKind] using own

theorem keys_projectRow_again (fields : List Field) (source : Row) :
    (projectRow fields (projectRow fields source)).keys = (projectRow fields source).keys := by
  rw [keys_projectRow fields (projectRow fields source)]
  exact foldl_keys_again List.nodup_nil (keys_projectRow fields source).symm

namespace Row

def answer? (row : Row) (key : ColumnKey) : Option Value :=
  (row.find? key).or (if key.isQualified then row.find? (.plain key.name) else none)

theorem get?_eq_answer? (row : Row) (field : String) : row.get? field = row.answer? (.ofText field) :=
  get?_eq row field

theorem answer?_of_find? {row : Row} {key : ColumnKey} {value : Value}
    (found : row.find? key = some value) : row.answer? key = some value := by
  rw [answer?, found, Option.some_or]

def AnswersAs (row source : Row) : Prop :=
  ∀ key ∈ row.keys, row.find? key = some ((source.answer? key).getD .null)

theorem AnswersAs.set {row source : Row} (answers : row.AnswersAs source) {key : ColumnKey}
    {value : Value} (own : value = (source.answer? key).getD .null) :
    (row.set key value).AnswersAs source := by
  intro other member
  rw [find?_set]
  by_cases here : other = key
  · rw [if_pos here, here, own]
  · rw [keys_set, mem_addIfNew] at member
    rw [if_neg here]
    exact answers other (member.resolve_right here)

theorem AnswersAs.setAll {row source : Row} (answers : row.AnswersAs source) :
    (row.setAll source.columns).AnswersAs source := by
  intro key member
  rw [find?_setAll source.distinct]
  change (source.find? key).or (row.find? key) = _
  cases found : source.find? key with
  | some value => rw [Option.some_or, answer?_of_find? found, Option.getD_some]
  | none =>
    rw [keys_setAll, mem_foldl_addIfNew] at member
    rw [Option.none_or]
    exact answers key (member.resolve_right (find?_eq_none_iff.1 found))

theorem eq_of_keys {row other : Row} (keys : row.keys = other.keys)
    (values : ∀ key ∈ row.keys, row.find? key = other.find? key) : row = other :=
  Row.ext (Keyed.eq_of_keys row.distinct keys values)

end Row

theorem projectRow_answersAs {fields : List Field} (named : NamedByColumn fields) (source : Row) :
    (projectRow fields source).AnswersAs source := by
  have loop (row : Row) (answers : row.AnswersAs source) :
      (fields.foldl (projectField source) row).AnswersAs source := by
    induction fields generalizing row with
    | nil => exact answers
    | cons field rest ih =>
      rw [NamedByColumn, List.forall_mem_cons] at named
      refine ih named.2 _ ?_
      unfold projectField
      cases kind : field.kind with
      | wildcard => exact answers.setAll
      | aggregate aggregate => exact answers
      | plain column =>
        refine answers.set ?_
        rw [named.1 column kind, Row.get?_eq_answer?]
  exact loop .empty fun key member => by cases member

theorem mem_keys_projectRow_of_plain {fields : List Field} {field : Field} {column : String}
    (member : field ∈ fields) (plain : field.kind = .plain column) (source : Row) :
    .ofText field.text ∈ (projectRow fields source).keys := by
  rw [keys_projectRow, mem_firstSeen, List.mem_flatMap]
  exact ⟨field, member, by simp [Field.keys, plain]⟩

theorem mem_keys_projectRow_of_wildcard {fields : List Field}
    (wildcard : ∃ field ∈ fields, field.isWildcard) {source : Row} {key : ColumnKey}
    (member : key ∈ source.keys) : key ∈ (projectRow fields source).keys := by
  obtain ⟨field, inFields, isWildcard⟩ := wildcard
  rw [keys_projectRow, mem_firstSeen, List.mem_flatMap]
  refine ⟨field, inFields, ?_⟩
  cases kind : field.kind with
  | wildcard => simpa [Field.keys, kind] using member
  | plain column => simp [Field.isWildcard, kind] at isWildcard
  | aggregate aggregate => simp [Field.isWildcard, kind] at isWildcard

theorem get?_projectRow {fields : List Field} (named : NamedByColumn fields) {source : Row}
    {column : String} {value : Value}
    (covered : (∃ field ∈ fields, field.isWildcard) ∨ ∃ field ∈ fields, field.kind = .plain column)
    (answered : source.get? column = some value) :
    (projectRow fields source).get? column = some value := by
  have answers := projectRow_answersAs named source
  rw [Row.get?_eq_answer?] at answered ⊢
  by_cases present : .ofText column ∈ (projectRow fields source).keys
  · rw [Row.answer?_of_find? (answers _ present), answered, Option.getD_some]
  · rcases covered with wildcard | ⟨field, member, plain⟩
    · -- The source has no such key either, so that it has answered by the bare name.
      have absent : source.find? (.ofText column) = none := Row.find?_eq_none_iff.2 fun own =>
        present (mem_keys_projectRow_of_wildcard wildcard own)
      rw [Row.answer?, absent, Option.none_or] at answered
      rw [Row.answer?, Row.find?_eq_none_iff.2 present, Option.none_or]
      split at answered
      next qualified =>
        have copied := mem_keys_projectRow_of_wildcard wildcard (Row.mem_keys_of_find? answered)
        rw [if_pos qualified, answers _ copied, Row.answer?_of_find? answered, Option.getD_some]
      next => cases answered
    · have own := mem_keys_projectRow_of_plain member plain source
      rw [named field member column plain] at own
      exact absurd own present

theorem projectRow_projectRow {fields : List Field} (named : NamedByColumn fields) (source : Row) :
    projectRow fields (projectRow fields source) = projectRow fields source := by
  have keys := keys_projectRow_again fields source
  refine Row.eq_of_keys keys fun key member => ?_
  have own : key ∈ (projectRow fields source).keys := keys ▸ member
  have found := projectRow_answersAs named source key own
  rw [projectRow_answersAs named (projectRow fields source) key member, Row.answer?_of_find? found,
    found, Option.getD_some]

end TableQuery
