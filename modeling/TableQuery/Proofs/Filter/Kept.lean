import TableQuery.Filter

/-! The rows that a list of conditions keeps. They are those that pass, in their order, and it takes
a row that lacks the column of a condition to have no result, so that the order of the rows matters
neither for the result nor for whether there is one. -/

namespace TableQuery

/-- The row has the columns that it takes to tell whether all the conditions hold. -/
def Settled (predicates : List Predicate) (row : Row) : Prop :=
  ∃ holds, satisfies row predicates = .ok holds

def passes (predicates : List Predicate) (row : Row) : Bool :=
  match satisfies row predicates with
  | .ok holds => holds
  | .error _ => false

theorem passes_iff {predicates : List Predicate} {row : Row} :
    passes predicates row ↔ satisfies row predicates = .ok true := by
  unfold passes
  cases satisfies row predicates with
  | ok holds => simp
  | error error => simp

theorem passes_iff_forall {predicates : List Predicate} {row : Row} :
    passes predicates row ↔ ∀ predicate ∈ predicates, predicate.evaluate row = .ok true := by
  rw [passes_iff]
  induction predicates with
  | nil => simp
  | cons predicate rest ih =>
    rw [List.forall_mem_cons, ← ih, satisfies]
    cases predicate.evaluate row with
    | error error => simp
    | ok holds =>
      cases holds with
      | true => simp
      | false => simp

theorem satisfies_congr {row other : Row} {predicates : List Predicate}
    (same : ∀ predicate ∈ predicates, predicate.evaluate row = predicate.evaluate other) :
    satisfies row predicates = satisfies other predicates := by
  induction predicates with
  | nil => rfl
  | cons predicate rest ih =>
    rw [List.forall_mem_cons] at same
    rw [satisfies, satisfies, same.1, ih same.2]

theorem satisfies_eq_error {row : Row} {predicates : List Predicate} {error : QueryError}
    (fails : satisfies row predicates = .error error) :
    ∃ predicate ∈ predicates, row.get? predicate.field = none ∧ error = .field predicate.field := by
  induction predicates with
  | nil => simp at fails
  | cons predicate rest ih =>
    rw [satisfies] at fails
    split at fails
    next found evaluated =>
      obtain rfl : found = error := Except.error.inj fails
      exact ⟨predicate, List.mem_cons_self, Predicate.evaluate_eq_error_iff.1 evaluated⟩
    next => cases fails
    next =>
      obtain ⟨later, member, same⟩ := ih fails
      exact ⟨later, List.mem_cons_of_mem predicate member, same⟩

theorem settled_of_get? {row : Row} {predicates : List Predicate}
    (answers : ∀ predicate ∈ predicates, row.get? predicate.field ≠ none) :
    Settled predicates row := by
  cases decided : satisfies row predicates with
  | ok holds => exact ⟨holds, decided⟩
  | error error =>
    obtain ⟨predicate, member, absent, -⟩ := satisfies_eq_error decided
    exact absurd absent (answers predicate member)

theorem keepRows_eq_ok_iff {predicates : List Predicate} {rows kept : List Row} :
    keepRows predicates rows = .ok kept ↔
      (∀ row ∈ rows, Settled predicates row) ∧ rows.filter (passes predicates) = kept := by
  induction rows generalizing kept with
  | nil => simp
  | cons row rest ih =>
    rw [keepRows, List.forall_mem_cons]
    cases decided : satisfies row predicates with
    | error error => simp [Settled, decided]
    | ok holds =>
      have settled : Settled predicates row := ⟨holds, decided⟩
      have passed : passes predicates row = holds := by rw [passes, decided]
      cases later : keepRows predicates rest with
      | error error =>
        have unsettled : ¬ ∀ other ∈ rest, Settled predicates other := by
          intro all
          rw [ih.2 ⟨all, rfl⟩] at later
          cases later
        simp [Except.map, unsettled]
      | ok found =>
        obtain ⟨all, same⟩ := ih.1 later
        simp only [Except.map, Except.ok.injEq, settled, true_and, List.filter_cons, passed, same]
        exact ⟨fun equal => ⟨all, equal⟩, fun both => both.2⟩

theorem keepRows_eq_self {predicates : List Predicate} {rows : List Row}
    (hold : ∀ row ∈ rows, satisfies row predicates = .ok true) :
    keepRows predicates rows = .ok rows := by
  refine keepRows_eq_ok_iff.2 ⟨fun row member => ⟨true, hold row member⟩, ?_⟩
  exact List.filter_eq_self.2 fun row member => passes_iff.2 (hold row member)

theorem satisfies_of_keepRows {predicates : List Predicate} {rows kept : List Row}
    (succeeds : keepRows predicates rows = .ok kept) :
    ∀ row ∈ kept, satisfies row predicates = .ok true := by
  obtain ⟨-, rfl⟩ := keepRows_eq_ok_iff.1 succeeds
  intro row member
  exact passes_iff.1 (List.mem_filter.1 member).2

theorem sublist_of_keepRows {predicates : List Predicate} {rows kept : List Row}
    (succeeds : keepRows predicates rows = .ok kept) : kept.Sublist rows := by
  rw [← (keepRows_eq_ok_iff.1 succeeds).2]
  exact List.filter_sublist

theorem exists_of_keepRows_eq_error {predicates : List Predicate} {rows : List Row}
    {error : QueryError} (fails : keepRows predicates rows = .error error) :
    ∃ row ∈ rows, satisfies row predicates = .error error := by
  induction rows with
  | nil => simp at fails
  | cons row rest ih =>
    rw [keepRows] at fails
    split at fails
    next found undecided =>
      obtain rfl : found = error := Except.error.inj fails
      exact ⟨row, List.mem_cons_self, undecided⟩
    next =>
      cases later : keepRows predicates rest with
      | ok found => simp [later, Except.map] at fails
      | error found =>
        obtain rfl : found = error := by simpa [later, Except.map] using fails
        obtain ⟨other, member, undecided⟩ := ih later
        exact ⟨other, List.mem_cons_of_mem row member, undecided⟩

theorem keepRows_eq_error {predicates : List Predicate} {rows : List Row} {error : QueryError}
    (fails : keepRows predicates rows = .error error) :
    (∃ row ∈ rows, satisfies row predicates = .error error) ∧ ∃ name, error = .field name := by
  obtain ⟨row, member, undecided⟩ := exists_of_keepRows_eq_error fails
  obtain ⟨predicate, -, -, same⟩ := satisfies_eq_error undecided
  exact ⟨⟨row, member, undecided⟩, predicate.field, same⟩

theorem keepRows_perm {predicates : List Predicate} {rows others : List Row}
    (reordered : rows.Perm others) :
    (∃ kept keptOthers, keepRows predicates rows = .ok kept ∧
        keepRows predicates others = .ok keptOthers ∧ kept.Perm keptOthers) ∨
      ∃ name otherName, keepRows predicates rows = .error (.field name) ∧
        keepRows predicates others = .error (.field otherName) := by
  cases first : keepRows predicates rows with
  | ok kept =>
    obtain ⟨all, rfl⟩ := keepRows_eq_ok_iff.1 first
    have second : keepRows predicates others = .ok (others.filter (passes predicates)) :=
      keepRows_eq_ok_iff.2 ⟨fun row member => all row (reordered.mem_iff.2 member), rfl⟩
    exact .inl ⟨_, _, rfl, second, reordered.filter _⟩
  | error error =>
    obtain ⟨⟨row, member, undecided⟩, name, rfl⟩ := keepRows_eq_error first
    cases second : keepRows predicates others with
    | ok kept =>
      obtain ⟨holds, decided⟩ := (keepRows_eq_ok_iff.1 second).1 row (reordered.mem_iff.1 member)
      simp [decided] at undecided
    | error other =>
      obtain ⟨-, otherName, rfl⟩ := keepRows_eq_error second
      exact .inr ⟨name, otherName, rfl, rfl⟩

end TableQuery
