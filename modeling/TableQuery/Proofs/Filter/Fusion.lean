import TableQuery.Proofs.Filter.Kept

/-! Two lists of conditions, one used after the other. The second list is asked of the rows that the
first one keeps, whether they are filtered in between or not, so that both ways need the same columns
and keep the same rows. The order of the conditions matters only for whether there is a result. -/

namespace TableQuery

theorem satisfies_append (row : Row) (first second : List Predicate) :
    satisfies row (first ++ second) =
      match satisfies row first with
      | .ok true => satisfies row second
      | stopped => stopped := by
  induction first with
  | nil => rfl
  | cons predicate rest ih =>
    rw [List.cons_append, satisfies, satisfies, ih]
    cases predicate.evaluate row with
    | error error => rfl
    | ok holds =>
      cases holds with
      | true => rfl
      | false => rfl

/-- A row needs the columns of the second list only where the first list keeps it. -/
theorem settled_append_iff {first second : List Predicate} {row : Row} :
    Settled (first ++ second) row ↔
      Settled first row ∧ (passes first row → Settled second row) := by
  rw [passes_iff, Settled, Settled, Settled, satisfies_append]
  cases satisfies row first with
  | error error => simp
  | ok holds =>
    cases holds with
    | true => simp
    | false => simp

theorem passes_append (first second : List Predicate) (row : Row) :
    passes (first ++ second) row = (passes first row && passes second row) := by
  rw [Bool.eq_iff_iff, Bool.and_eq_true, passes_iff_forall, passes_iff_forall, passes_iff_forall,
    List.forall_mem_append]

theorem passes_perm {predicates others : List Predicate} (reordered : predicates.Perm others) :
    passes predicates = passes others := by
  funext row
  rw [Bool.eq_iff_iff, passes_iff_forall, passes_iff_forall]
  constructor
  · intro all predicate member
    exact all predicate (reordered.mem_iff.2 member)
  · intro all predicate member
    exact all predicate (reordered.mem_iff.1 member)

theorem filter_passes_append (first second : List Predicate) (rows : List Row) :
    rows.filter (passes (first ++ second)) =
      (rows.filter (passes first)).filter (passes second) := by
  rw [List.filter_filter]
  refine List.filter_congr fun row _ => ?_
  rw [passes_append, Bool.and_comm]

theorem keepRows_append_eq_ok_iff {first second : List Predicate} {rows result : List Row} :
    keepRows (first ++ second) rows = .ok result ↔
      ∃ kept, keepRows first rows = .ok kept ∧ keepRows second kept = .ok result := by
  rw [keepRows_eq_ok_iff, filter_passes_append]
  constructor
  · rintro ⟨all, same⟩
    have settled := fun row member => settled_append_iff.1 (all row member)
    have keeps : keepRows first rows = .ok (rows.filter (passes first)) :=
      keepRows_eq_ok_iff.2 ⟨fun row member => (settled row member).1, rfl⟩
    refine ⟨_, keeps, keepRows_eq_ok_iff.2 ⟨fun row member => ?_, same⟩⟩
    obtain ⟨present, passed⟩ := List.mem_filter.1 member
    exact (settled row present).2 passed
  · rintro ⟨kept, keeps, keepsAgain⟩
    obtain ⟨settled, rfl⟩ := keepRows_eq_ok_iff.1 keeps
    obtain ⟨settledAgain, same⟩ := keepRows_eq_ok_iff.1 keepsAgain
    refine ⟨fun row member => settled_append_iff.2 ⟨settled row member, fun passed => ?_⟩, same⟩
    exact settledAgain row (List.mem_filter.2 ⟨member, passed⟩)

/-- Conditions one after the other keep what they keep together, and they have a result when they
have one together. What is kept is part of what there was, and nothing changes when it is filtered
again or by the conditions in another order. -/
theorem keepRows_fused (first second : List Predicate) (rows : List Row) :
    (∀ result, keepRows (first ++ second) rows = .ok result ↔
      ∃ kept, keepRows first rows = .ok kept ∧ keepRows second kept = .ok result) ∧
    (∀ kept, keepRows first rows = .ok kept →
      kept.Sublist rows ∧ keepRows first kept = .ok kept) ∧
    ∀ reordered, first.Perm reordered → ∀ kept other, keepRows first rows = .ok kept →
      keepRows reordered rows = .ok other → kept = other := by
  refine ⟨fun result => keepRows_append_eq_ok_iff, fun kept keeps => ?_, ?_⟩
  · exact ⟨sublist_of_keepRows keeps, keepRows_eq_self (satisfies_of_keepRows keeps)⟩
  · intro reordered perm kept other keeps keepsOther
    rw [← (keepRows_eq_ok_iff.1 keeps).2, ← (keepRows_eq_ok_iff.1 keepsOther).2, passes_perm perm]

/-- The second has no grade, but is turned away for the age. -/
def pupilGrades : List Row :=
  [.ofColumns [(.plain "id", .text "1"), (.plain "age", .text "30"), (.plain "grade", .text "A")],
    .ofColumns [(.plain "id", .text "2"), (.plain "age", .text "22")],
    .ofColumns [(.plain "id", .text "3"), (.plain "age", .text "41"), (.plain "grade", .text "B")]]

def adult : Predicate := ⟨"age", .greater, "25"⟩

def notThird : Predicate := ⟨"id", .notEqual, "3"⟩

def bestGrade : Predicate := ⟨"grade", .equal, "A"⟩

theorem keepRows_fused_pupilGrades :
    ∃ kept result, keepRows [adult, notThird] pupilGrades = .ok kept ∧
      keepRows [bestGrade] kept = .ok result ∧
      keepRows [adult, notThird, bestGrade] pupilGrades = .ok result ∧
      kept.Sublist pupilGrades ∧ keepRows [adult, notThird] kept = .ok kept ∧
      [adult, notThird].Perm [notThird, adult] ∧
      ∃ other, keepRows [notThird, adult] pupilGrades = .ok other ∧ kept = other := by
  obtain ⟨fused, again, perm⟩ := keepRows_fused [adult, notThird] [bestGrade] pupilGrades
  have keeps : keepRows [adult, notThird] pupilGrades = .ok (pupilGrades.take 1) := rfl
  have keepsReordered : keepRows [notThird, adult] pupilGrades = .ok (pupilGrades.take 1) := rfl
  have keepsBest : keepRows [bestGrade] (pupilGrades.take 1) = .ok (pupilGrades.take 1) := rfl
  have swapped : [adult, notThird].Perm [notThird, adult] := .swap _ _ _
  exact ⟨_, _, keeps, keepsBest, (fused _).2 ⟨_, keeps, keepsBest⟩, (again _ keeps).1,
    (again _ keeps).2, swapped, _, keepsReordered, perm _ swapped _ _ keeps keepsReordered⟩

end TableQuery
