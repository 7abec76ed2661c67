import Mathlib.Logic.Function.Iterate
import TableQuery.Proofs.Group.Partition

/-! What a group has tallied. Each entry of the select list that feeds a tally takes every row into
it, so a sum counts a row as often as entries feed it, while a least or a greatest number is the
same however many there are. -/

namespace TableQuery

def Tally.step (tally : Tally) (column : String) (row : Row) (total : Option Float) :
    Option Float :=
  match tally.reading column row with
  | none => total
  | some n => some (tally.take n total)

/-- How many entries of a select list feed the tally of a column. -/
def feeders (fields : List Field) (tally : Tally) (column : String) : Nat :=
  fields.countP fun field => field.aggregate?.bind Aggregate.tally? = some (tally, column)

namespace Group

theorem total?_takeReading (group : Group) (tally other : Tally) (column name : String)
    (n : Float) :
    (group.takeReading tally column n).total? other name =
      if (other, name) = (tally, column) then some (tally.take n (group.total? tally column))
      else group.total? other name :=
  Keyed.lookup_set _ _ _ _

theorem total?_takeEntry (row : Row) (group : Group) (field : Field) (tally : Tally)
    (column : String) :
    (takeEntry row group field).total? tally column =
      if field.aggregate?.bind Aggregate.tally? = some (tally, column) then
        tally.step column row (group.total? tally column)
      else group.total? tally column := by
  unfold takeEntry
  split
  next noTally => simp [noTally]
  next fed name feeds =>
    rw [feeds]
    by_cases same : (fed, name) = (tally, column)
    · obtain ⟨rfl, rfl⟩ := Prod.mk.inj same
      rw [if_pos rfl, Tally.step]
      cases fed.reading name row with
      | none => rfl
      | some n => exact (total?_takeReading _ _ _ _ _ _).trans (if_pos rfl)
    · have differs : (tally, column) ≠ (fed, name) := fun e => same e.symm
      rw [if_neg (fun e => same (Option.some.inj e))]
      cases fed.reading name row with
      | none => rfl
      | some n => exact (total?_takeReading _ _ _ _ _ _).trans (if_neg differs)

theorem total?_foldl_takeEntry (row : Row) (fields : List Field) (group : Group) (tally : Tally)
    (column : String) :
    (fields.foldl (takeEntry row) group).total? tally column =
      (tally.step column row)^[feeders fields tally column] (group.total? tally column) := by
  induction fields generalizing group with
  | nil => rfl
  | cons field rest ih =>
    rw [List.foldl_cons, ih, total?_takeEntry, feeders, feeders, List.countP_cons]
    by_cases feeds : field.aggregate?.bind Aggregate.tally? = some (tally, column)
    · simp [feeds]
    · simp [feeds]

theorem total?_add (fields : List Field) (group : Group) (row : Row) (tally : Tally)
    (column : String) :
    (group.add fields row).total? tally column =
      (tally.step column row)^[feeders fields tally column] (group.total? tally column) :=
  total?_foldl_takeEntry row fields { group with count := group.count + 1 } tally column

theorem takeEntry_frame (row : Row) (group : Group) (field : Field) :
    ∃ totals, takeEntry row group field = { group with totals := totals } := by
  unfold takeEntry
  split
  next => exact ⟨group.totals, rfl⟩
  next => split <;> exact ⟨_, rfl⟩

theorem add_frame (fields : List Field) (group : Group) (row : Row) :
    ∃ totals, group.add fields row = ⟨group.values, group.count + 1, totals⟩ := by
  have run (group : Group) :
      ∃ totals, fields.foldl (takeEntry row) group = { group with totals := totals } := by
    induction fields generalizing group with
    | nil => exact ⟨group.totals, rfl⟩
    | cons field rest ih =>
      obtain ⟨first, taken⟩ := takeEntry_frame row group field
      obtain ⟨totals, rest⟩ := ih { group with totals := first }
      exact ⟨totals, by rw [List.foldl_cons, taken, rest]⟩
  exact run { group with count := group.count + 1 }

theorem foldl_add_frame (fields : List Field) (group : Group) (rows : List Row) :
    ∃ totals, rows.foldl (add fields) group =
      ⟨group.values, group.count + rows.length, totals⟩ := by
  induction rows generalizing group with
  | nil => exact ⟨group.totals, rfl⟩
  | cons row rest ih =>
    obtain ⟨first, added⟩ := add_frame fields group row
    obtain ⟨totals, run⟩ := ih ⟨group.values, group.count + 1, first⟩
    have count : group.count + 1 + rest.length = group.count + (row :: rest).length := by
      rw [List.length_cons]
      omega
    exact ⟨totals, by rw [List.foldl_cons, added, run, count]⟩

section

variable (groupBy : List String) (fields : List Field) (rows : List Row)

theorem ofRows_total? (tally : Tally) (column : String) :
    (ofRows groupBy fields rows).total? tally column = rows.foldl
      (fun total row => (tally.step column row)^[feeders fields tally column] total) none := by
  have run (group : Group) : (rows.foldl (add fields) group).total? tally column = rows.foldl
      (fun total row => (tally.step column row)^[feeders fields tally column] total)
      (group.total? tally column) := by
    induction rows generalizing group with
    | nil => rfl
    | cons row rest ih => rw [List.foldl_cons, ih, total?_add, List.foldl_cons]
  exact run _

theorem ofRows_count : (ofRows groupBy fields rows).count = rows.length := by
  obtain ⟨totals, run⟩ := foldl_add_frame fields (.new (firstValues groupBy rows)) rows
  rw [ofRows, run]
  exact Nat.zero_add rows.length

theorem ofRows_values : (ofRows groupBy fields rows).values = firstValues groupBy rows := by
  obtain ⟨totals, run⟩ := foldl_add_frame fields (.new (firstValues groupBy rows)) rows
  rw [ofRows, run]
  rfl

end

end Group

def repeatedSum (times : Nat) (column : String) (rows : List Row) : Float :=
  rows.foldl (fun total row => (· + (numberIn? column row).getD 0)^[times] total) 0

theorem repeatedSum_one (column : String) (rows : List Row) :
    repeatedSum 1 column rows = sumColumn column rows := rfl

theorem getD_iterate_step_sum (times : Nat) (column : String) (row : Row) (total : Option Float) :
    ((Tally.sum.step column row)^[times] total).getD 0 =
      (· + (numberIn? column row).getD 0)^[times] (total.getD 0) := by
  induction times generalizing total with
  | zero => rfl
  | succ times ih => rw [Function.iterate_succ_apply, Function.iterate_succ_apply, ih]; rfl

theorem Group.ofRows_sum (groupBy : List String) (fields : List Field) (rows : List Row)
    (column : String) :
    ((ofRows groupBy fields rows).total? .sum column).getD 0 =
      repeatedSum (feeders fields .sum column) column rows := by
  have run (total : Option Float) : (rows.foldl
      (fun total row => (Tally.sum.step column row)^[feeders fields .sum column] total)
      total).getD 0 = rows.foldl
      (fun total row => (· + (numberIn? column row).getD 0)^[feeders fields .sum column] total)
      (total.getD 0) := by
    induction rows generalizing total with
    | nil => rfl
    | cons row rest ih => rw [List.foldl_cons, ih, getD_iterate_step_sum, List.foldl_cons]
  rw [ofRows_total?]
  exact run none

end TableQuery
