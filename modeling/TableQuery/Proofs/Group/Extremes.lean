import TableQuery.Proofs.Group.Tallies

/-! Least and greatest numbers kept while rows are read. Taking a number twice changes nothing, so
the tally is the reduction of the group's numbers, and an aggregate of a group differs from the
aggregate of its rows in its sums alone. -/

namespace TableQuery

theorem lesserOf_eq (m n : Float) : lesserOf m n = m ∨ lesserOf m n = n := by
  unfold lesserOf
  split_ifs <;> simp

theorem greaterOf_eq (m n : Float) : greaterOf m n = m ∨ greaterOf m n = n := by
  unfold greaterOf
  split_ifs <;> simp

namespace Tally

variable {tally : Tally}

theorem combine_eq (extreme : tally ≠ sum) (m n : Float) :
    tally.combine m n = m ∨ tally.combine m n = n := by
  cases tally with
  | sum => contradiction
  | least => exact lesserOf_eq m n
  | greatest => exact greaterOf_eq m n

theorem combine_self (extreme : tally ≠ sum) (n : Float) : tally.combine n n = n :=
  or_self_iff.1 (combine_eq extreme n n)

theorem combine_combine (extreme : tally ≠ sum) (m n : Float) :
    tally.combine (tally.combine m n) n = tally.combine m n := by
  rcases combine_eq extreme m n with first | second
  · rw [first, first]
  · rw [second, combine_self extreme]

theorem reading_extreme (extreme : tally ≠ sum) (column : String) (row : Row) :
    tally.reading column row = numberIn? column row := by
  cases tally with
  | sum => contradiction
  | least => rfl
  | greatest => rfl

theorem take_none (extreme : tally ≠ sum) (n : Float) : tally.take n none = n := by
  have begins : tally.start n = n := by
    cases tally with
    | sum => contradiction
    | least => rfl
    | greatest => rfl
  rw [take, Option.getD_none, begins, combine_self extreme]

theorem step_step (extreme : tally ≠ sum) (column : String) (row : Row) (total : Option Float) :
    tally.step column row (tally.step column row total) = tally.step column row total := by
  cases number : tally.reading column row with
  | none => simp [step, number]
  | some n =>
    have again := combine_combine extreme (total.getD (tally.start n)) n
    simp [step, number, take, again]

theorem iterate_step (extreme : tally ≠ sum) {times : Nat} (positive : 0 < times)
    (column : String) (row : Row) (total : Option Float) :
    (tally.step column row)^[times] total = tally.step column row total := by
  induction times with
  | zero => contradiction
  | succ times ih =>
    rw [Function.iterate_succ_apply']
    cases times with
    | zero => rfl
    | succ times => rw [ih (Nat.succ_pos times), step_step extreme]

theorem foldl_step_some (extreme : tally ≠ sum) (column : String) (rows : List Row) (m : Float) :
    rows.foldl (fun total row => tally.step column row total) (some m) =
      some ((rows.filterMap (numberIn? column)).foldl tally.combine m) := by
  induction rows generalizing m with
  | nil => rfl
  | cons row rest ih =>
    rw [List.foldl_cons, step, reading_extreme extreme]
    cases number : numberIn? column row with
    | none => rw [List.filterMap_cons_none number]; exact ih m
    | some n => rw [List.filterMap_cons_some number, List.foldl_cons]; exact ih _

theorem foldl_step_none (extreme : tally ≠ sum) (column : String) (rows : List Row) :
    ((rows.foldl (fun total row => tally.step column row total) none).map Value.number).getD .null =
      TableQuery.extreme tally.combine column rows := by
  induction rows with
  | nil => rfl
  | cons row rest ih =>
    rw [List.foldl_cons, step, reading_extreme extreme]
    cases number : numberIn? column row with
    | none =>
      rw [TableQuery.extreme, List.filterMap_cons_none number]
      exact ih
    | some n =>
      rw [TableQuery.extreme, List.filterMap_cons_some number]
      change ((rest.foldl (fun total row => tally.step column row total)
        (some (tally.take n none))).map Value.number).getD .null = _
      rw [take_none extreme, foldl_step_some extreme]
      rfl

end Tally

/-- The value of an aggregate when the sum over each column takes each row so many times. -/
def Aggregate.sharedValue (aggregate : Aggregate) (times : String → Nat) (rows : List Row) :
    Value :=
  match aggregate with
  | .sum column => .number (repeatedSum (times column) column rows)
  | .average column => averageOf (repeatedSum (times column) column rows) rows.length
  | other => other.value rows

theorem feeders_pos {fields : List Field} {field : Field} (member : field ∈ fields) {tally : Tally}
    {column : String} (feeds : field.aggregate?.bind Aggregate.tally? = some (tally, column)) :
    0 < feeders fields tally column :=
  List.countP_pos_iff.2 ⟨field, member, by simpa using feeds⟩

theorem Group.ofRows_extreme {tally : Tally} (extreme : tally ≠ .sum) {fields : List Field}
    {column : String} (fed : 0 < feeders fields tally column) (groupBy : List String)
    (rows : List Row) :
    (((ofRows groupBy fields rows).total? tally column).map Value.number).getD .null =
      TableQuery.extreme tally.combine column rows := by
  rw [ofRows_total?]
  simp only [Tally.iterate_step extreme fed]
  exact Tally.foldl_step_none extreme column rows

theorem Group.ofRows_value {fields : List Field} {field : Field} (member : field ∈ fields)
    {aggregate : Aggregate} (selects : field.aggregate? = some aggregate) (groupBy : List String)
    (rows : List Row) :
    (ofRows groupBy fields rows).value aggregate =
      aggregate.sharedValue (feeders fields .sum) rows := by
  cases aggregate with
  | count => rw [value, ofRows_count]; rfl
  | sum column => rw [value, ofRows_sum]; rfl
  | average column => rw [value, ofRows_sum, ofRows_count]; rfl
  | minimum column =>
    have feeds : field.aggregate?.bind Aggregate.tally? = some (.least, column) := by
      rw [selects]
      rfl
    have fed := feeders_pos member feeds
    exact ofRows_extreme (by decide) fed groupBy rows
  | maximum column =>
    have feeds : field.aggregate?.bind Aggregate.tally? = some (.greatest, column) := by
      rw [selects]
      rfl
    have fed := feeders_pos member feeds
    exact ofRows_extreme (by decide) fed groupBy rows

end TableQuery
