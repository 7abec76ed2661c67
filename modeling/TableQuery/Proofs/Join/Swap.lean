import TableQuery.Proofs.Join.Lookup
import TableQuery.Proofs.Value.Equality

/-! A right join beside the left join of the exchanged tables. Both go through the same pairs in
the same order, and for fields that name their tables the rows built from a pair answer alike. They
differ where a joined row is alone and the row of nulls in place of its partner lacks the column. -/

namespace TableQuery

namespace JoinSpec

def swapped (spec : JoinSpec) (joinTable : String) : JoinSpec where
  condition := ⟨spec.condition.right, spec.condition.left⟩
  fields := spec.fields
  baseTable := joinTable

/-- A joined row without a partner, for which a field of the base table is asked that the first
base row has no column for. -/
structure Unshaped (spec : JoinSpec) (base : List Row) (joined : Row) (field : String) : Prop where
  unmatched : ∀ b ∈ base, rowsMatch spec.condition b joined = false
  baseField : (ColumnKey.ofText field).table = some spec.baseTable
  shapeless : ∃ first ∈ base.head?, first.get? (ColumnKey.ofText field).name = none

def SameAnswers (spec : JoinSpec) (base : List Row) (joined right left : Row) : Prop :=
  ∀ field ∈ spec.fields,
    (spec.Unshaped base joined field → right.get? field = none ∧ left.get? field = some .null) ∧
    (¬ spec.Unshaped base joined field → right.get? field = left.get? field)

end JoinSpec

theorem rowsMatch_swap (condition : JoinCondition) (base joined : Row) :
    rowsMatch ⟨condition.right, condition.left⟩ joined base = rowsMatch condition base joined := by
  unfold rowsMatch
  cases base.get? condition.left with
  | none => cases joined.get? condition.right <;> rfl
  | some a =>
    cases joined.get? condition.right with
    | none => rfl
    | some b =>
      change (!b.isNull && !a.isNull && b.equals a) = (!a.isNull && !b.isNull && a.equals b)
      rw [Value.equals_comm b a, Bool.and_comm (!b.isNull)]

/-- Where every field names its table, no bare name is requested to fall back on. -/
theorem Pair.get?_row_of_qualified {pair : Pair} {spec : JoinSpec}
    (plain : ∀ b ∈ pair.base, b.PlainKeys) (outer : Bool)
    (qualified : ∀ field ∈ spec.fields, (ColumnKey.ofText field).table ≠ none) {field : String}
    (requested : field ∈ spec.fields) :
    (pair.row spec outer).get? field = pair.value? spec.baseTable (.ofText field) := by
  have noBare : ColumnKey.plain (ColumnKey.ofText field).name ∉
      spec.fields.map ColumnKey.ofText := by
    intro member
    obtain ⟨other, hother, bare⟩ := List.mem_map.1 member
    exact qualified other hother (by simp [bare])
  rw [Pair.get?_row plain outer requested, if_neg noBare, Option.or_none]

def rightPairs (condition : JoinCondition) (base joined : List Row) : List (Row × Option Row) :=
  outerPairs (fun j b => rowsMatch condition b j) joined base

theorem rightJoin_eq_map (spec : JoinSpec) (base joined : List Row) :
    rightJoin spec base joined = (rightPairs spec.condition base joined).map fun pair =>
      Pair.row ⟨pair.2.or (base.head?.map Row.nulled), some pair.1⟩ spec true := by
  rw [rightJoin, outerJoin_eq_map]
  rfl

theorem leftJoin_swapped_eq_map (spec : JoinSpec) (joinTable : String) (base joined : List Row) :
    leftJoin (spec.swapped joinTable) joined base =
      (rightPairs spec.condition base joined).map fun pair =>
        Pair.row ⟨some pair.1, pair.2⟩ (spec.swapped joinTable) true := by
  have holds : rowsMatch (spec.swapped joinTable).condition =
      fun j b => rowsMatch spec.condition b j := by
    funext j b
    exact rowsMatch_swap spec.condition b j
  rw [leftJoin, outerJoin_eq_map, holds]
  rfl

section

variable {spec : JoinSpec} {joinTable : String} {base joined : List Row} {j : Row}
  {found : Option Row} {field : String}

theorem value?_joinField (distinct : spec.baseTable ≠ joinTable)
    (tagged : (ColumnKey.ofText field).table = some joinTable) (stand : Option Row) :
    Pair.value? ⟨stand, some j⟩ spec.baseTable (.ofText field) =
      Pair.value? ⟨some j, found⟩ joinTable (.ofText field) := by
  have notBase : (ColumnKey.ofText field).belongsTo spec.baseTable = false := by
    simpa [ColumnKey.belongsTo, tagged] using distinct.symm
  have ofJoined : (ColumnKey.ofText field).belongsTo joinTable = true := by
    simp [ColumnKey.belongsTo, tagged]
  simp [Pair.value?, notBase, ofJoined]

theorem value?_baseField (tagged : (ColumnKey.ofText field).table = some spec.baseTable)
    (stand : Option Row) :
    Pair.value? ⟨stand, some j⟩ spec.baseTable (.ofText field) =
      (stand.map fun row => row.get? (ColumnKey.ofText field).name).getD (some .null) := by
  have ofBase : (ColumnKey.ofText field).belongsTo spec.baseTable := by
    simp [ColumnKey.belongsTo, tagged]
  exact Pair.value?_of_belongsTo ofBase _

theorem value?_partnerField (distinct : spec.baseTable ≠ joinTable)
    (tagged : (ColumnKey.ofText field).table = some spec.baseTable) (found : Option Row) :
    Pair.value? ⟨some j, found⟩ joinTable (.ofText field) =
      (found.map fun row => row.get? (ColumnKey.ofText field).name).getD (some .null) := by
  have notJoined : (ColumnKey.ofText field).belongsTo joinTable = false := by
    simpa [ColumnKey.belongsTo, tagged] using distinct
  exact Pair.value?_of_foreign notJoined _

theorem value?_of_unshaped (distinct : spec.baseTable ≠ joinTable)
    (pair : found ∈ partners (fun b => rowsMatch spec.condition b j) base)
    (unshaped : spec.Unshaped base j field) :
    Pair.value? ⟨found.or (base.head?.map Row.nulled), some j⟩ spec.baseTable (.ofText field) =
        none ∧
      Pair.value? ⟨some j, found⟩ joinTable (.ofText field) = some .null := by
  have alone : found = none := by
    cases found with
    | none => rfl
    | some b =>
      obtain ⟨member, matched⟩ := some_mem_partners.1 pair
      simp [unshaped.unmatched b member] at matched
  obtain ⟨first, hfirst, absent⟩ := unshaped.shapeless
  have head : base.head? = some first := hfirst
  rw [value?_baseField unshaped.baseField, value?_partnerField distinct unshaped.baseField, alone,
    head]
  simp [Row.get?_nulled, absent]

theorem value?_of_shaped (distinct : spec.baseTable ≠ joinTable)
    (tagged : (ColumnKey.ofText field).table = some spec.baseTable ∨
      (ColumnKey.ofText field).table = some joinTable)
    (pair : found ∈ partners (fun b => rowsMatch spec.condition b j) base)
    (shaped : ¬ spec.Unshaped base j field) :
    Pair.value? ⟨found.or (base.head?.map Row.nulled), some j⟩ spec.baseTable (.ofText field) =
      Pair.value? ⟨some j, found⟩ joinTable (.ofText field) := by
  rcases tagged with ofBase | ofJoin
  · rw [value?_baseField ofBase, value?_partnerField distinct ofBase]
    cases found with
    | some b => rfl
    | none =>
      cases head : base.head? with
      | none => rfl
      | some first =>
        cases value : first.get? (ColumnKey.ofText field).name with
        | some value => simp [Row.get?_nulled, value]
        | none =>
          exact absurd ⟨none_mem_partners.1 pair, ofBase, first, head, value⟩ shaped
  · exact value?_joinField distinct ofJoin _

end

/-- Row by row a right join answers every requested field as the left join of the exchanged tables
does, except that it leaves out what its row of nulls has no column for. -/
theorem rightJoin_get?_swapped {spec : JoinSpec} {joinTable : String} {base joined : List Row}
    (plainBase : ∀ b ∈ base, b.PlainKeys) (plainJoined : ∀ j ∈ joined, j.PlainKeys)
    (distinct : spec.baseTable ≠ joinTable)
    (tagged : ∀ field ∈ spec.fields, (ColumnKey.ofText field).table = some spec.baseTable ∨
      (ColumnKey.ofText field).table = some joinTable) :
    (rightJoin spec base joined).length =
        (leftJoin (spec.swapped joinTable) joined base).length ∧
      ∀ (i : Nat) (right left : Row), (rightJoin spec base joined)[i]? = some right →
        (leftJoin (spec.swapped joinTable) joined base)[i]? = some left →
        ∃ j found, (rightPairs spec.condition base joined)[i]? = some (j, found) ∧
          spec.SameAnswers base j right left := by
  have qualified : ∀ field ∈ spec.fields, (ColumnKey.ofText field).table ≠ none := by
    intro field requested
    rcases tagged field requested with h | h <;> simp [h]
  rw [rightJoin_eq_map, leftJoin_swapped_eq_map]
  refine ⟨by simp, ?_⟩
  intro i right left hright hleft
  rw [List.getElem?_map, Option.map_eq_some_iff] at hright hleft
  obtain ⟨⟨j, found⟩, source, rfl⟩ := hright
  obtain ⟨same, hsame, rfl⟩ := hleft
  obtain rfl : (j, found) = same := Option.some.inj (source.symm.trans hsame)
  obtain ⟨hj, pair⟩ := mem_outerPairs.1 (List.mem_of_getElem? source)
  have plainRight : ∀ b ∈ found.or (base.head?.map Row.nulled), b.PlainKeys := by
    intro b hb
    cases found with
    | some partner =>
      obtain rfl : partner = b := by simpa using hb
      exact plainBase partner (some_mem_partners.1 pair).1
    | none =>
      obtain ⟨first, head, rfl⟩ : ∃ first, base.head? = some first ∧ first.nulled = b := by
        simpa using hb
      exact (plainBase first (List.mem_of_head? head)).nulled
  have plainLeft : ∀ b ∈ some j, b.PlainKeys := by
    intro b hb
    obtain rfl : j = b := by simpa using hb
    exact plainJoined j hj
  refine ⟨j, found, source, ?_⟩
  intro field requested
  have qualifiedSwapped : ∀ field ∈ (spec.swapped joinTable).fields,
      (ColumnKey.ofText field).table ≠ none := qualified
  rw [Pair.get?_row_of_qualified plainRight true qualified requested,
    Pair.get?_row_of_qualified plainLeft true qualifiedSwapped requested]
  exact ⟨value?_of_unshaped distinct pair, value?_of_shaped distinct (tagged field requested) pair⟩

def ungradedStudents : List Row :=
  [.ofColumns [(.plain "id", .text "1"), (.plain "name", .text "John")],
    .ofColumns [(.plain "id", .text "2"), (.plain "grade", .text "A")]]

def twoEnrollments : List Row :=
  [.ofColumns [(.plain "student_id", .text "5"), (.plain "course", .text "Biology")],
    .ofColumns [(.plain "student_id", .text "2"), (.plain "course", .text "Physics")]]

def gradesByCourse : JoinSpec where
  condition := ⟨"student.id", "enrollment.student_id"⟩
  fields := ["student.grade", "student.name", "enrollment.course"]
  baseTable := "student"

theorem rightJoin_get?_swapped_students :
    (rightJoin gradesByCourse ungradedStudents twoEnrollments).length =
        (leftJoin (gradesByCourse.swapped "enrollment") twoEnrollments ungradedStudents).length ∧
      ∀ (i : Nat) (right left : Row),
        (rightJoin gradesByCourse ungradedStudents twoEnrollments)[i]? = some right →
        (leftJoin (gradesByCourse.swapped "enrollment") twoEnrollments ungradedStudents)[i]? =
          some left →
        ∃ j found, (rightPairs gradesByCourse.condition ungradedStudents twoEnrollments)[i]? =
            some (j, found) ∧
          gradesByCourse.SameAnswers ungradedStudents j right left :=
  rightJoin_get?_swapped (by decide) (by decide) (by decide) (by decide)

example :
    (rightJoin gradesByCourse ungradedStudents twoEnrollments).map (·.get? "student.grade") =
        [none, some (.text "A")] ∧
      (leftJoin (gradesByCourse.swapped "enrollment") twoEnrollments ungradedStudents).map
        (·.get? "student.grade") = [some .null, some (.text "A")] := by
  decide

end TableQuery
