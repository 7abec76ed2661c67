import TableQuery.Proofs.Execution.JoinedRows
import TableQuery.Proofs.Execution.School
import TableQuery.Proofs.Join.Lookup

/-! Conditions on columns that do not exist. The rows that come before the conditions have no value
for such a column, but for the rows of an outer join in which a whole side is missing, and the query
fails as soon as one of them gets as far as the condition. A row that an earlier condition turns away
does not get that far. -/

namespace TableQuery

structure Row.Lacks (row : Row) (name : String) : Prop where
  unnamed : ∀ key ∈ row.keys, key.name ≠ name
  unanswered : row.get? name = none

instance (row : Row) (name : String) : Decidable (row.Lacks name) :=
  decidable_of_iff ((∀ key ∈ row.keys, key.name ≠ name) ∧ row.get? name = none)
    ⟨fun ⟨unnamed, unanswered⟩ => ⟨unnamed, unanswered⟩,
      fun ⟨unnamed, unanswered⟩ => ⟨unnamed, unanswered⟩⟩

theorem Row.Lacks.nulled {row : Row} {name : String} (lacks : row.Lacks name) :
    row.nulled.Lacks name where
  unnamed := by
    rw [Row.keys_nulled]
    exact lacks.unnamed
  unanswered := by rw [Row.get?_nulled, lacks.unanswered, Option.map_none]

theorem Row.PlainKeys.lacks {row : Row} (plain : row.PlainKeys) {field : String}
    (readable : ColumnKey.ofText (ColumnKey.ofText field).name =
      .plain (ColumnKey.ofText field).name) (absent : row.get? field = none) :
    row.Lacks (ColumnKey.ofText field).name where
  unnamed := by
    intro key member same
    rw [plain.get?_eq_find?, Row.find?_eq_none_iff, ← same] at absent
    rw [ColumnKey.eq_plain_name (plain key member).1] at member
    exact absent member
  unanswered := by
    rw [plain.get?_eq_find?, readable, ColumnKey.plain_name, ← plain.get?_eq_find?, absent]

def Query.Missing (query : Query) (source : Source) (field : String) : Prop :=
  match query.join with
  | none => ∀ rows, source query.table = .ok rows → ∀ row ∈ rows, row.get? field = none
  | some clause => ∀ base joined, source query.table = .ok base → source clause.table = .ok joined →
      ∀ row ∈ base ++ joined, row.Lacks (ColumnKey.ofText field).name

/-- The row comes from an outer join and has nothing but padding on one of its sides. -/
def Query.Pads (query : Query) (source : Source) (row : Row) : Prop :=
  ∃ clause ∈ query.join, clause.kind.isOuter ∧ ∃ base joined, source query.table = .ok base ∧
    source clause.table = .ok joined ∧ ∃ pair ∈ joinPairs query clause base joined,
      row = (pair.padded base).row (joinSpec query clause base joined) clause.kind.isOuter ∧
        ((pair.padded base).base = none ∨ pair.joined = none)

theorem JoinKind.Combines.isOuter_of_missing {kind : JoinKind} {condition : JoinCondition}
    {base joined : List Row} {pair : Pair} (combines : kind.Combines condition base joined pair)
    (missing : (pair.padded base).base = none ∨ pair.joined = none) : kind.isOuter := by
  cases combines with
  | matched hb hj matched => simp at missing
  | baseAlone left hb alone => rw [left, JoinKind.isOuter]
  | joinedAlone right hj alone => rw [right, JoinKind.isOuter]

def Reaches (row : Row) (before : List Predicate) : Prop :=
  ∀ earlier ∈ before, earlier.evaluate row ≠ .ok false

instance (row : Row) (before : List Predicate) : Decidable (Reaches row before) :=
  inferInstanceAs (Decidable (∀ earlier ∈ before, earlier.evaluate row ≠ .ok false))

theorem not_settled_of_reaches {row : Row} {before after : List Predicate} {predicate : Predicate}
    (reaches : Reaches row before) (absent : row.get? predicate.field = none) :
    ¬ Settled (before ++ predicate :: after) row := by
  rintro ⟨holds, decided⟩
  induction before with
  | nil =>
    have fails : predicate.evaluate row = .error (.field predicate.field) :=
      Predicate.evaluate_eq_error_iff.2 ⟨absent, rfl⟩
    simp [satisfies, fails] at decided
  | cons earlier before ih =>
    rw [Reaches, List.forall_mem_cons] at reaches
    rw [List.cons_append, satisfies] at decided
    split at decided
    next => cases decided
    next turnedAway => exact reaches.1 turnedAway
    next => exact ih reaches.2 decided

theorem keepRows_eq_error_of_not_settled {predicates : List Predicate} {rows : List Row} {row : Row}
    (member : row ∈ rows) (unsettled : ¬ Settled predicates row) :
    ∃ name, keepRows predicates rows = .error (.field name) := by
  cases outcome : keepRows predicates rows with
  | ok kept => exact absurd ((keepRows_eq_ok_iff.1 outcome).1 row member) unsettled
  | error error =>
    obtain ⟨-, name, rfl⟩ := keepRows_eq_error outcome
    exact ⟨name, rfl⟩

/-- What stops the conditions stops the query, whatever it does with the rows that are left. -/
theorem execute_eq_error_of_keepRows {source : Source} {query : Query} {rows : List Row}
    {error : QueryError} (input : (inputStage source query).outcome = .ok rows)
    (fails : keepRows query.conditions rows = .error error) :
    (execute source query).outcome = .error error := by
  rw [execute, Traced.note_bind]
  change (inputStage source query >>= _).outcome = _
  rw [Traced.outcome_bind, input]
  change (filterStage query.conditions rows >>= _).outcome = _
  rw [Traced.outcome_bind, outcome_filterStage, fails]
  rfl

theorem Pair.find?_start_of_lacks {pair : Pair} {baseTable : String} {outer : Bool}
    {key : ColumnKey} (lacks : ∀ b ∈ pair.base, b.Lacks key.name) :
    (pair.start baseTable outer).find? key = none := by
  rw [Row.find?_eq_none_iff]
  unfold start
  split
  next base hbase =>
    rw [Row.tagged, Row.ofColumns, Row.keys_setAll, mem_foldl_addIfNew]
    rintro (none | member)
    · cases none
    · simp only [List.map_map, List.mem_map, Function.comp_apply] at member
      obtain ⟨column, found, rfl⟩ := member
      exact (lacks base hbase).unnamed column.1 (List.mem_map_of_mem found) rfl
  next => simp

def Pair.Padding (pair : Pair) (found : Option Value) : Prop :=
  found = none ∨ found = some .null ∧ (pair.base = none ∨ pair.joined = none)

theorem Pair.Padding.or {pair : Pair} {first second : Option Value} (one : pair.Padding first)
    (other : pair.Padding second) : pair.Padding (first.or second) := by
  rcases one with rfl | ⟨rfl, missing⟩
  · rwa [Option.none_or]
  · exact .inr ⟨rfl, missing⟩

theorem Pair.forall_padded_base {holds : Row → Prop} {pair : Pair} {base : List Row}
    (rows : ∀ b ∈ base, holds b) (nulled : ∀ b, holds b → holds b.nulled)
    (own : ∀ b ∈ pair.base, b ∈ base) : ∀ b ∈ (pair.padded base).base, holds b := by
  intro b member
  rw [padded, Option.mem_def, Option.or_eq_some_iff] at member
  rcases member with given | ⟨-, standIn⟩
  · exact rows b (own b given)
  · obtain ⟨first, head, rfl⟩ := Option.map_eq_some_iff.1 standIn
    exact nulled first (rows first (List.mem_of_head? head))

section

variable {pair : Pair} {spec : JoinSpec}

theorem Pair.padding_value? {baseTable : String} {key : ColumnKey}
    (base : ∀ b ∈ pair.base, b.Lacks key.name) (joined : ∀ j ∈ pair.joined, j.Lacks key.name) :
    pair.Padding (pair.value? baseTable key) := by
  by_cases own : key.belongsTo baseTable
  · rw [value?_of_belongsTo own]
    cases side : pair.base with
    | none => exact .inr ⟨rfl, .inl side⟩
    | some b => exact .inl (base b side).unanswered
  · rw [value?_of_foreign (by simpa using own)]
    cases side : pair.joined with
    | none => exact .inr ⟨rfl, .inr side⟩
    | some j => exact .inl (joined j side).unanswered

theorem Pair.padding_get?_row (outer : Bool) {field : String}
    (base : ∀ b ∈ pair.base, b.Lacks (ColumnKey.ofText field).name)
    (joined : ∀ j ∈ pair.joined, j.Lacks (ColumnKey.ofText field).name) :
    pair.Padding ((pair.row spec outer).get? field) := by
  have found {key : ColumnKey} (named : key.name = (ColumnKey.ofText field).name) :
      pair.Padding ((pair.row spec outer).find? key) := by
    have start : (pair.start spec.baseTable outer).find? key = none :=
      find?_start_of_lacks (named ▸ base)
    rw [find?_row, start]
    split
    · rw [Option.or_none]
      exact padding_value? (named ▸ base) (named ▸ joined)
    · exact .inl rfl
  rw [Row.get?_eq]
  refine (found rfl).or ?_
  split
  · exact found rfl
  · exact .inl rfl

end

theorem Query.Missing.get?_input {source : Source} {query : Query} {rows : List Row}
    {field : String} (missing : query.Missing source field)
    (input : (inputStage source query).outcome = .ok rows) {row : Row} (member : row ∈ rows) :
    row.get? field = none ∨ row.get? field = some .null ∧ query.Pads source row := by
  unfold Query.Missing at missing
  cases join : query.join with
  | none =>
    rw [outcome_inputStage_of_table join, mapError_eq_ok_iff] at input
    rw [join] at missing
    exact .inl (missing rows input row member)
  | some clause =>
    obtain ⟨base, joined, fetchBase, fetchJoined, joins⟩ := inputStage_eq_ok_of_join join input
    rw [joinRows_eq_map (isSupported_of_joinRows joins)] at joins
    rw [← Except.ok.inj joins] at member
    obtain ⟨pair, found, rfl⟩ := List.mem_map.1 member
    rw [join] at missing
    have lacks := missing base joined fetchBase fetchJoined
    have combines := combines_of_mem_pairs found
    have baseLacks : ∀ b ∈ (pair.padded base).base, b.Lacks (ColumnKey.ofText field).name :=
      Pair.forall_padded_base (fun b own => lacks b (List.mem_append_left joined own))
        (fun _ => Row.Lacks.nulled) combines.base_mem
    have joinedLacks : ∀ j ∈ pair.joined, j.Lacks (ColumnKey.ofText field).name :=
      fun j own => lacks j (List.mem_append_right base (combines.joined_mem j own))
    rcases Pair.padding_get?_row clause.kind.isOuter baseLacks joinedLacks with absent | padded
    · exact .inl absent
    · exact .inr ⟨padded.1, clause, join, combines.isOuter_of_missing padded.2, base, joined, fetchBase,
        fetchJoined, pair, found, rfl, padded.2⟩

/-- A condition on a column that does not exist is reported when a row without a value for it gets
as far as the condition. Only padding can give a row a value for it. -/
theorem execute_of_missing {source : Source} {query : Query} {rows : List Row}
    {before after : List Predicate} {predicate : Predicate}
    (input : (inputStage source query).outcome = .ok rows)
    (placed : query.conditions = before ++ predicate :: after)
    (missing : query.Missing source predicate.field) :
    (∀ row ∈ rows, row.get? predicate.field = none ∨
      row.get? predicate.field = some .null ∧ query.Pads source row) ∧
    ((∃ row ∈ rows, row.get? predicate.field = none ∧ Reaches row before) →
      ∃ name, (execute source query).outcome = .error (.field name)) := by
  refine ⟨fun row member => missing.get?_input input member, ?_⟩
  rintro ⟨row, member, absent, reaches⟩
  have unsettled : ¬ Settled query.conditions row :=
    placed ▸ not_settled_of_reaches reaches absent
  obtain ⟨name, fails⟩ := keepRows_eq_error_of_not_settled member unsettled
  exact ⟨name, execute_eq_error_of_keepRows input fails⟩

def gradedStudents : Query where
  fields := [⟨"name", .plain "name"⟩]
  table := "student"
  join := some { studentEnrollments with kind := .left }
  conditions := [⟨"student.name", .notEqual, "'John'"⟩, ⟨"enrollment.grade", .equal, "'A'"⟩]
  groupBy := none
  aggregatesAll := false

theorem execute_of_missing_grade :
    ∃ rows, (inputStage school gradedStudents).outcome = .ok rows ∧
      gradedStudents.Missing school "enrollment.grade" ∧
      ∃ name, (execute school gradedStudents).outcome = .error (.field name) := by
  have plain : ∀ row ∈ students ++ enrollments, row.PlainKeys := by decide
  have absent : ∀ row ∈ students ++ enrollments, row.get? "enrollment.grade" = none := by decide
  have missing : gradedStudents.Missing school "enrollment.grade" := by
    rintro _ _ ⟨⟩ ⟨⟩ row member
    exact (plain row member).lacks (by decide) (absent row member)
  refine ⟨_, rfl, missing, ?_⟩
  refine (@execute_of_missing school gradedStudents _ [⟨"student.name", .notEqual, "'John'"⟩] []
    ⟨"enrollment.grade", .equal, "'A'"⟩ rfl rfl missing).2 ?_
  decide

def unreachedText : String := "SELECT id FROM student WHERE name = 'Bob' AND grade = 'A'"

def unreachedGrade : Query where
  fields := [⟨"id", .plain "id"⟩]
  table := "student"
  join := none
  conditions := [⟨"name", .equal, "'Bob'"⟩, ⟨"grade", .equal, "'A'"⟩]
  groupBy := none
  aggregatesAll := false

/-- Nobody is called Bob, so that nobody is asked for a grade. -/
theorem execute_unreachedGrade :
    (readQuery unreachedText).outcome = .ok unreachedGrade ∧
      (inputStage school unreachedGrade).outcome = .ok students ∧ students ≠ [] ∧
      (∃ predicate ∈ unreachedGrade.conditions,
        ∀ row ∈ students, row.get? predicate.field = none) ∧
      (execute school unreachedGrade).outcome = .ok [] :=
  ⟨eq_ok_of_toOption (by decide +kernel), rfl, by decide, by decide, rfl⟩

end TableQuery
