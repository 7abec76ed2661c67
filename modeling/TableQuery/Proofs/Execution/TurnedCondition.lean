import TableQuery.Proofs.Execution.JoinedRows
import TableQuery.Proofs.Execution.School
import TableQuery.Proofs.Join.Coverage

/-! The way the condition of a join is written. A condition that compares a column of one table with a
column of the other is oriented by the names of the tables, so that the side on which each column is
written does not matter, and the rows that match are those that agree in the two columns. -/

namespace TableQuery

namespace JoinCondition

def turned (condition : JoinCondition) : JoinCondition := ⟨condition.right, condition.left⟩

/-- The two columns are compared, on whichever side each of them is written. -/
def Compares (condition : JoinCondition) (column other : ColumnKey) : Prop :=
  (ColumnKey.ofText condition.left = column ∧ ColumnKey.ofText condition.right = other) ∨
    ColumnKey.ofText condition.left = other ∧ ColumnKey.ofText condition.right = column

variable {condition : JoinCondition} {base joined column other : String}

theorem Compares.turned {first second : ColumnKey} (compares : condition.Compares first second) :
    condition.turned.Compares first second := by
  rcases compares with ⟨left, right⟩ | ⟨left, right⟩
  · exact .inr ⟨right, left⟩
  · exact .inl ⟨right, left⟩

theorem Compares.ofText_oriented (distinct : base ≠ joined)
    (compares : condition.Compares (.qualified base column) (.qualified joined other)) :
    ColumnKey.ofText (condition.oriented base joined).left = .qualified base column ∧
      ColumnKey.ofText (condition.oriented base joined).right = .qualified joined other := by
  rcases compares with ⟨left, right⟩ | ⟨left, right⟩
  · have straight : condition.oriented base joined = condition := by
      simp [oriented, isReversed, left, distinct]
    rw [straight]
    exact ⟨left, right⟩
  · have reversed : condition.oriented base joined = condition.turned := by
      simp [oriented, isReversed, left, right, distinct, JoinCondition.turned]
    rw [reversed]
    exact ⟨right, left⟩

theorem Compares.oriented_turned (distinct : base ≠ joined)
    (compares : condition.Compares (.qualified base column) (.qualified joined other)) :
    condition.turned.oriented base joined = condition.oriented base joined := by
  obtain ⟨ownLeft, ownRight⟩ := compares.ofText_oriented distinct
  obtain ⟨turnedLeft, turnedRight⟩ := compares.turned.ofText_oriented distinct
  have left := ColumnKey.ofText_inj.1 (turnedLeft.trans ownLeft.symm)
  have right := ColumnKey.ofText_inj.1 (turnedRight.trans ownRight.symm)
  exact congrArg₂ JoinCondition.mk left right

end JoinCondition

def ColumnsAgree (base : Row) (column : String) (joined : Row) (other : String) : Prop :=
  ∃ a ∈ base.find? (.plain column), ∃ b ∈ joined.find? (.plain other),
    a ≠ .null ∧ b ≠ .null ∧ a.equals b

instance (base : Row) (column : String) (joined : Row) (other : String) :
    Decidable (ColumnsAgree base column joined other) :=
  inferInstanceAs (Decidable (∃ a ∈ base.find? (.plain column),
    ∃ b ∈ joined.find? (.plain other), a ≠ .null ∧ b ≠ .null ∧ a.equals b))

theorem Value.isNull_eq_false_iff {v : Value} : v.isNull = false ↔ v ≠ .null := by
  cases v <;> simp [isNull]

theorem rowsMatch_iff_columnsAgree {condition : JoinCondition} {b j : Row} (plainBase : b.PlainKeys)
    (plainJoined : j.PlainKeys) :
    rowsMatch condition b j ↔ ColumnsAgree b (ColumnKey.ofText condition.left).name j
      (ColumnKey.ofText condition.right).name := by
  rw [rowsMatch, plainBase.get?_eq_find?, plainJoined.get?_eq_find?, ColumnsAgree]
  cases b.find? (.plain (ColumnKey.ofText condition.left).name) with
  | none => simp
  | some v =>
    cases j.find? (.plain (ColumnKey.ofText condition.right).name) with
    | none => simp
    | some w => simp [Value.isNull_eq_false_iff, and_assoc]

def Pair.both? (pair : Pair) : Option (Row × Row) :=
  pair.base.bind fun b => pair.joined.map fun j => (b, j)

theorem filterMap_both?_pairs {kind : JoinKind} (supported : kind.isSupported)
    (condition : JoinCondition) (base joined : List Row) :
    ((kind.pairs condition base joined).filterMap Pair.both?).Perm
      (matchedPairs condition base joined) := by
  cases kind with
  | inner =>
    rw [JoinKind.pairs, List.filterMap_map]
    exact .of_eq List.filterMap_some
  | left =>
    rw [JoinKind.pairs, List.filterMap_map]
    exact .of_eq (covers_outerPairs _ base joined).matched
  | right =>
    have matched := (covers_outerPairs (fun j b => rowsMatch condition b j) joined base).matched
    have swapped : (JoinKind.right.pairs condition base joined).filterMap Pair.both? =
        ((joined ×ˢ base).filter fun pair => rowsMatch condition pair.2 pair.1).map Prod.swap := by
      rw [JoinKind.pairs, List.filterMap_map, ← matched, List.map_filterMap]
      refine List.filterMap_congr fun pair _ => ?_
      obtain ⟨j, found⟩ := pair
      cases found with
      | none => rfl
      | some b => rfl
    rw [swapped]
    have turnedBack := (map_swap_matchedPairs_perm condition base joined).symm.map Prod.swap
    simpa [List.map_map] using turnedBack
  | unsupported name => simp [JoinKind.isSupported] at supported

def Query.turned (query : Query) (clause : JoinClause) : Query :=
  { query with join := some { clause with condition := clause.condition.turned } }

section

variable {query : Query} {clause : JoinClause} {column other : String}

theorem joinStage_turned (distinct : query.table ≠ clause.table)
    (compares : clause.condition.Compares (.qualified query.table column)
      (.qualified clause.table other)) :
    joinStage (query.turned clause) { clause with condition := clause.condition.turned } =
      joinStage query clause := by
  funext base joined
  have spec : joinSpec (query.turned clause)
      { clause with condition := clause.condition.turned } base joined =
        joinSpec query clause base joined := by
    change JoinSpec.mk (clause.condition.turned.oriented query.table clause.table) _ _ = _
    rw [compares.oriented_turned distinct]
    rfl
  rw [joinStage, spec]
  rfl

theorem inputStage_turned (join : query.join = some clause) (distinct : query.table ≠ clause.table)
    (compares : clause.condition.Compares (.qualified query.table column)
      (.qualified clause.table other)) (source : Source) :
    inputStage source (query.turned clause) = inputStage source query := by
  rw [inputStage, inputStage, join]
  change (do
    let base ← fetchTable source query.table
    let joined ← fetchTable source clause.table
    joinStage (query.turned clause) { clause with condition := clause.condition.turned } base
      joined) = _
  rw [joinStage_turned distinct compares]

/-- It does not matter on which side of the condition a column is written: the execution returns the
same and notes the same. Of tables with plain keys it pairs up the rows that agree in the two
columns, with the rows that are alone in an outer join. -/
theorem execute_turned (join : query.join = some clause) (distinct : query.table ≠ clause.table)
    (compares : clause.condition.Compares (.qualified query.table column)
      (.qualified clause.table other)) (source : Source) :
    execute source (query.turned clause) = execute source query ∧
      ∀ base joined, source query.table = .ok base → source clause.table = .ok joined →
        (∀ b ∈ base, b.PlainKeys) → (∀ j ∈ joined, j.PlainKeys) → clause.kind.isSupported →
          (inputStage source query).outcome =
            .ok ((joinPairs query clause base joined).map fun pair =>
              (pair.padded base).row (joinSpec query clause base joined) clause.kind.isOuter) ∧
          ((joinPairs query clause base joined).filterMap Pair.both?).Perm
            ((base ×ˢ joined).filter fun pair => ColumnsAgree pair.1 column pair.2 other) := by
  constructor
  · rw [execute, execute, inputStage_turned join distinct compares, join]
    rfl
  · intro base joined fetchBase fetchJoined plainBase plainJoined supported
    refine ⟨inputStage_of_joinPairs join supported fetchBase fetchJoined, ?_⟩
    refine (filterMap_both?_pairs supported _ base joined).trans (.of_eq ?_)
    obtain ⟨left, right⟩ := compares.ofText_oriented distinct
    refine List.filter_congr fun pair member => ?_
    obtain ⟨hb, hj⟩ := List.mem_product.1 member
    have agree : rowsMatch (clause.condition.oriented query.table clause.table) pair.1 pair.2 ↔ _ :=
      rowsMatch_iff_columnsAgree (plainBase pair.1 hb) (plainJoined pair.2 hj)
    rw [left, right] at agree
    exact Bool.eq_iff_iff.2 (agree.trans decide_eq_true_iff.symm)

end

def enrollmentsFirst : JoinClause where
  kind := .right
  table := "enrollment"
  condition := ⟨"enrollment.student_id", "student.id"⟩

def namesAndCourses : Query where
  fields := [⟨"name", .plain "name"⟩, ⟨"enrollment.course", .plain "enrollment.course"⟩]
  table := "student"
  join := some enrollmentsFirst
  conditions := [⟨"student.age", .less, "40"⟩]
  groupBy := none
  aggregatesAll := false

theorem execute_turned_school :
    execute school (namesAndCourses.turned enrollmentsFirst) = execute school namesAndCourses ∧
      (∀ b ∈ students, b.PlainKeys) ∧ (∀ j ∈ enrollments, j.PlainKeys) ∧
      (inputStage school namesAndCourses).outcome =
        .ok ((joinPairs namesAndCourses enrollmentsFirst students enrollments).map fun pair =>
          (pair.padded students).row (joinSpec namesAndCourses enrollmentsFirst students enrollments)
            true) ∧
      ((joinPairs namesAndCourses enrollmentsFirst students enrollments).filterMap Pair.both?).Perm
        ((students ×ˢ enrollments).filter fun pair =>
          ColumnsAgree pair.1 "id" pair.2 "student_id") := by
  have compares : enrollmentsFirst.condition.Compares (.qualified "student" "id")
      (.qualified "enrollment" "student_id") := .inr ⟨by decide, by decide⟩
  have plainStudents : ∀ b ∈ students, b.PlainKeys := by decide
  have plainEnrollments : ∀ j ∈ enrollments, j.PlainKeys := by decide
  obtain ⟨same, pairs⟩ := execute_turned (rfl : namesAndCourses.join = some enrollmentsFirst)
    (by decide) compares school
  exact ⟨same, plainStudents, plainEnrollments,
    pairs students enrollments rfl rfl plainStudents plainEnrollments rfl⟩

end TableQuery
