import TableQuery.Filter
import TableQuery.Projection
import TableQuery.Proofs.Join.Lookup

/-! The row that a requested field of a join is read from. A row built from a matching pair answers
each requested field by the row of its table, with one exception: when the joined row lacks the
column, a request for the bare name that the base row can answer answers for it as well. -/

namespace TableQuery

namespace JoinSpec

def side (spec : JoinSpec) (base joined : Row) (field : String) : Row :=
  if (ColumnKey.ofText field).belongsTo spec.baseTable then base else joined

/-- The joined row lacks the column of a field of its own table, the bare name of that column is
requested too, and the base row has it. -/
structure Shadowed (spec : JoinSpec) (base joined : Row) (field : String) : Prop where
  foreign : ¬ (ColumnKey.ofText field).belongsTo spec.baseTable
  lacking : joined.get? (ColumnKey.ofText field).name = none
  requested : ColumnKey.plain (ColumnKey.ofText field).name ∈ spec.fields.map ColumnKey.ofText
  held : base.get? (ColumnKey.ofText field).name ≠ none

instance (spec : JoinSpec) (base joined : Row) (field : String) :
    Decidable (spec.Shadowed base joined field) :=
  decidable_of_iff
    (¬ (ColumnKey.ofText field).belongsTo spec.baseTable ∧
      joined.get? (ColumnKey.ofText field).name = none ∧
      ColumnKey.plain (ColumnKey.ofText field).name ∈ spec.fields.map ColumnKey.ofText ∧
      base.get? (ColumnKey.ofText field).name ≠ none)
    ⟨fun ⟨foreign, lacking, requested, held⟩ => ⟨foreign, lacking, requested, held⟩,
      fun ⟨foreign, lacking, requested, held⟩ => ⟨foreign, lacking, requested, held⟩⟩

structure Answers (spec : JoinSpec) (base joined out : Row) (field : String) : Prop where
  own_iff : out.get? field = (spec.side base joined field).get? (ColumnKey.ofText field).name ↔
    ¬ spec.Shadowed base joined field
  of_shadowed : spec.Shadowed base joined field →
    out.get? field = base.get? (ColumnKey.ofText field).name
  project_lacking : ¬ spec.Shadowed base joined field →
    (spec.side base joined field).get? (ColumnKey.ofText field).name = none →
    projectRow [⟨field, .plain field⟩] out = Row.empty.insert field .null
  evaluate_lacking : ¬ spec.Shadowed base joined field →
    (spec.side base joined field).get? (ColumnKey.ofText field).name = none →
    ∀ operator literal,
      (Predicate.mk field operator literal).evaluate out = .error (.field field)

end JoinSpec

theorem Pair.value?_matched (base joined : Row) (spec : JoinSpec) (field : String) :
    Pair.value? ⟨some base, some joined⟩ spec.baseTable (.ofText field) =
      (spec.side base joined field).get? (ColumnKey.ofText field).name := by
  by_cases own : (ColumnKey.ofText field).belongsTo spec.baseTable
  · simp [Pair.value?, JoinSpec.side, own]
  · simp [Pair.value?, JoinSpec.side, own]

section

variable {spec : JoinSpec} {base joined : Row} {field : String}

theorem get?_of_shadowed (plain : base.PlainKeys) (outer : Bool)
    (requested : field ∈ spec.fields) (shadowed : spec.Shadowed base joined field) :
    (Pair.row ⟨some base, some joined⟩ spec outer).get? field =
      base.get? (ColumnKey.ofText field).name := by
  have lacking : (spec.side base joined field).get? (ColumnKey.ofText field).name = none := by
    rw [JoinSpec.side, if_neg shadowed.foreign, shadowed.lacking]
  rw [Pair.get?_row (by simpa using plain) outer requested, Pair.value?_matched, lacking,
    Option.none_or, if_pos shadowed.requested]
  rfl

theorem get?_of_not_shadowed (plain : base.PlainKeys) (outer : Bool)
    (requested : field ∈ spec.fields) (unshadowed : ¬ spec.Shadowed base joined field) :
    (Pair.row ⟨some base, some joined⟩ spec outer).get? field =
      (spec.side base joined field).get? (ColumnKey.ofText field).name := by
  rw [Pair.get?_row (by simpa using plain) outer requested, Pair.value?_matched]
  cases own : (spec.side base joined field).get? (ColumnKey.ofText field).name with
  | some value => rfl
  | none =>
    rw [Option.none_or]
    split
    next bare =>
      -- The bare name is read from the base row, which has no such column either.
      change base.get? (ColumnKey.ofText field).name = none
      by_cases baseField : (ColumnKey.ofText field).belongsTo spec.baseTable
      · rwa [JoinSpec.side, if_pos baseField] at own
      · rw [JoinSpec.side, if_neg baseField] at own
        by_cases held : base.get? (ColumnKey.ofText field).name = none
        · exact held
        · exact absurd ⟨baseField, own, bare, held⟩ unshadowed
    next => rfl

theorem answers_of_matched (plain : base.PlainKeys) (outer : Bool)
    (requested : field ∈ spec.fields) :
    spec.Answers base joined (Pair.row ⟨some base, some joined⟩ spec outer) field where
  own_iff := by
    constructor
    · intro own shadowed
      rw [get?_of_shadowed plain outer requested shadowed, JoinSpec.side,
        if_neg shadowed.foreign, shadowed.lacking] at own
      exact shadowed.held own
    · exact get?_of_not_shadowed plain outer requested
  of_shadowed := get?_of_shadowed plain outer requested
  project_lacking := by
    intro unshadowed lacking
    have absent := (get?_of_not_shadowed plain outer requested unshadowed).trans lacking
    simp [projectRow, projectField, absent]
  evaluate_lacking := by
    intro unshadowed lacking operator literal
    have absent := (get?_of_not_shadowed plain outer requested unshadowed).trans lacking
    exact Predicate.evaluate_eq_error_iff.2 ⟨absent, rfl⟩

end

/-- Every kind of join answers the requested fields of a matching pair from the rows they belong
to, except for the shadowed ones. -/
theorem joinRows_answers {kind : JoinKind} (supported : kind.isSupported) {spec : JoinSpec}
    {base joined : List Row} (plain : ∀ b ∈ base, b.PlainKeys) {b j : Row} (hb : b ∈ base)
    (hj : j ∈ joined) (matched : rowsMatch spec.condition b j) :
    ∃ rows, joinRows kind spec base joined = .ok rows ∧
      Pair.row ⟨some b, some j⟩ spec kind.isOuter ∈ rows ∧
      ∀ field ∈ spec.fields,
        spec.Answers b j (Pair.row ⟨some b, some j⟩ spec kind.isOuter) field := by
  obtain ⟨rows, joins, member⟩ := matched_mem_joinRows supported hb hj matched
  refine ⟨rows, joins, member, ?_⟩
  intro field requested
  exact answers_of_matched (plain b hb) kind.isOuter requested

def namedStudent : Row := .ofColumns [(.plain "id", .text "1"), (.plain "name", .text "John")]

def namelessEnrollment : Row := .ofColumns [(.plain "student_id", .text "1")]

def bothNames : JoinSpec where
  condition := ⟨"student.id", "enrollment.student_id"⟩
  fields := ["name", "enrollment.name"]
  baseTable := "student"

theorem joinRows_answers_students :
    ∃ rows, joinRows .left bothNames [namedStudent] [namelessEnrollment] = .ok rows ∧
      Pair.row ⟨some namedStudent, some namelessEnrollment⟩ bothNames true ∈ rows ∧
      ∀ field ∈ bothNames.fields, bothNames.Answers namedStudent namelessEnrollment
        (Pair.row ⟨some namedStudent, some namelessEnrollment⟩ bothNames true) field :=
  joinRows_answers (by decide : JoinKind.left.isSupported) (by decide) (by decide) (by decide)
    (by decide)

/-- The enrollment has no name, and the name of the student is answered for it. -/
theorem enrollment_name_of_student :
    namedStudent.PlainKeys ∧ namelessEnrollment.PlainKeys ∧
      rowsMatch bothNames.condition namedStudent namelessEnrollment ∧
      namelessEnrollment.get? "name" = none ∧
      (innerJoin bothNames [namedStudent] [namelessEnrollment]).map (·.get? "enrollment.name") =
        [some (.text "John")] := by
  decide

end TableQuery
