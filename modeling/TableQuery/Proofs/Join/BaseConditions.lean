import TableQuery.Proofs.Filter.Kept
import TableQuery.Proofs.Join.Coverage

/-! Conditions on the base table of a join. A joined row reads the columns of its base row, also where
it is padded, so it makes no difference whether the conditions are asked of the base table before the
join or of the joined rows after it. -/

namespace TableQuery

structure Predicate.OnBase (predicate : Predicate) (spec : JoinSpec) (base : List Row) : Prop where
  carried : predicate.field ∈ spec.fields
  own : (ColumnKey.ofText predicate.field).belongsTo spec.baseTable
  present : ∀ b ∈ base, ColumnKey.plain (ColumnKey.ofText predicate.field).name ∈ b.keys

instance (predicate : Predicate) (spec : JoinSpec) (base : List Row) :
    Decidable (predicate.OnBase spec base) :=
  decidable_of_iff
    (predicate.field ∈ spec.fields ∧ (ColumnKey.ofText predicate.field).belongsTo spec.baseTable ∧
      ∀ b ∈ base, ColumnKey.plain (ColumnKey.ofText predicate.field).name ∈ b.keys)
    ⟨fun ⟨carried, own, present⟩ => ⟨carried, own, present⟩,
      fun ⟨carried, own, present⟩ => ⟨carried, own, present⟩⟩

theorem keepRows_flatMap {predicates : List Predicate} {build : Row → List Row} {base : List Row}
    (settled : ∀ b ∈ base, Settled predicates b)
    (same : ∀ b ∈ base, ∀ row ∈ build b, satisfies row predicates = satisfies b predicates) :
    keepRows predicates (base.flatMap build) =
      .ok ((base.filter (passes predicates)).flatMap build) := by
  refine keepRows_eq_ok_iff.2 ⟨fun row member => ?_, filter_flatMap_of_forall ?_⟩
  · obtain ⟨b, hb, built⟩ := List.mem_flatMap.1 member
    rw [Settled, same b hb row built]
    exact settled b hb
  · intro b hb row built
    rw [passes, same b hb row built, passes]

theorem leftJoin_eq_flatMap (spec : JoinSpec) (base joined : List Row) :
    leftJoin spec base joined = base.flatMap fun b =>
      (partners (rowsMatch spec.condition b) joined).map fun found => spec.leftRow (b, found) := by
  rw [leftJoin_eq_map, leftPairs, outerPairs, List.map_flatMap]
  simp only [List.map_map, Function.comp_def, JoinSpec.leftRow]

section

variable {predicate : Predicate} {spec : JoinSpec} {base : List Row} {b : Row}

theorem Predicate.OnBase.get? (onBase : predicate.OnBase spec base) (plain : b.PlainKeys)
    (member : b ∈ base) :
    b.get? predicate.field = b.get? (ColumnKey.ofText predicate.field).name := by
  rw [plain.get?_eq_find?]
  exact (plain.get?_name (onBase.present b member)).symm

theorem Predicate.OnBase.get?_ne_none (onBase : predicate.OnBase spec base) (plain : b.PlainKeys)
    (member : b ∈ base) : b.get? predicate.field ≠ none := by
  obtain ⟨value, held⟩ := Row.exists_find?_of_mem (onBase.present b member)
  rw [plain.get?_eq_find?, held]
  exact Option.some_ne_none value

theorem Predicate.OnBase.evaluate_row (onBase : predicate.OnBase spec base) (plain : b.PlainKeys)
    (member : b ∈ base) (found : Option Row) (outer : Bool) :
    predicate.evaluate (Pair.row ⟨some b, found⟩ spec outer) = predicate.evaluate b := by
  have plainPair : ∀ row ∈ some b, row.PlainKeys := by simpa using plain
  have read : (Pair.row ⟨some b, found⟩ spec outer).get? predicate.field =
      b.get? predicate.field := by
    rw [Pair.get?_row_of_belongsTo plainPair outer onBase.carried onBase.own,
      Pair.value?_of_belongsTo onBase.own, onBase.get? plain member]
    rfl
  rw [Predicate.evaluate, Predicate.evaluate, read]

end

/-- Filtering an inner or a left join by conditions on the base table is joining the base rows that
the conditions keep. -/
theorem keepRows_join {spec : JoinSpec} {base : List Row} {predicates : List Predicate}
    (plain : ∀ b ∈ base, b.PlainKeys) (onBase : ∀ predicate ∈ predicates, predicate.OnBase spec base)
    (joined : List Row) :
    ∃ kept, keepRows predicates base = .ok kept ∧
      keepRows predicates (innerJoin spec base joined) = .ok (innerJoin spec kept joined) ∧
      keepRows predicates (leftJoin spec base joined) = .ok (leftJoin spec kept joined) := by
  have settled : ∀ b ∈ base, Settled predicates b := fun b hb =>
    settled_of_get? fun predicate member => (onBase predicate member).get?_ne_none (plain b hb) hb
  have same : ∀ b ∈ base, ∀ found outer,
      satisfies (Pair.row ⟨some b, found⟩ spec outer) predicates = satisfies b predicates :=
    fun b hb found outer => satisfies_congr fun predicate member =>
      (onBase predicate member).evaluate_row (plain b hb) hb found outer
  refine ⟨base.filter (passes predicates), keepRows_eq_ok_iff.2 ⟨settled, rfl⟩, ?_, ?_⟩
  · refine keepRows_flatMap settled fun b hb row built => ?_
    obtain ⟨j, -, rfl⟩ := List.mem_map.1 built
    exact same b hb (some j) false
  · rw [leftJoin_eq_flatMap, leftJoin_eq_flatMap]
    refine keepRows_flatMap settled fun b hb row built => ?_
    obtain ⟨found, -, rfl⟩ := List.mem_map.1 built
    exact same b hb found true

def namesByCourse : JoinSpec where
  condition := ⟨"student.id", "enrollment.student_id"⟩
  fields := ["enrollment.course", "name", "student.id"]
  baseTable := "student"

def namedStudents : List Row :=
  [.ofColumns [(.plain "id", .text "1"), (.plain "name", .text "John")],
    .ofColumns [(.plain "id", .text "2"), (.plain "name", .text "Jane")],
    .ofColumns [(.plain "id", .text "3"), (.plain "name", .text "Bob")]]

theorem keepRows_join_students :
    (∀ b ∈ namedStudents, b.PlainKeys) ∧
      (∀ predicate ∈ [(⟨"name", .notEqual, "John"⟩ : Predicate), ⟨"student.id", .less, "9"⟩],
        predicate.OnBase namesByCourse namedStudents) ∧
      ∃ kept, keepRows [⟨"name", .notEqual, "John"⟩, ⟨"student.id", .less, "9"⟩] namedStudents =
          .ok kept ∧
        keepRows [⟨"name", .notEqual, "John"⟩, ⟨"student.id", .less, "9"⟩]
          (innerJoin namesByCourse namedStudents twoEnrollments) =
            .ok (innerJoin namesByCourse kept twoEnrollments) ∧
        keepRows [⟨"name", .notEqual, "John"⟩, ⟨"student.id", .less, "9"⟩]
          (leftJoin namesByCourse namedStudents twoEnrollments) =
            .ok (leftJoin namesByCourse kept twoEnrollments) :=
  ⟨by decide, by decide, keepRows_join (by decide) (by decide) twoEnrollments⟩

end TableQuery
