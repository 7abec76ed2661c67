import Mathlib.Data.List.Forall2
import TableQuery.Proofs.Group.Summary
import TableQuery.Proofs.Row.Lookup

/-! Sums that entries of the select list share. A group keeps one sum for each column, and every
entry for that column adds each row to it, so its sums and averages are those of its rows exactly
when the column has no other such entry. A single large number tells the two apart. -/

namespace TableQuery

/-- The aggregate that the result shows under a text: the last one in the list with that text. -/
def shown? (text : String) : List Field → Option Aggregate
  | [] => none
  | field :: rest => (shown? text rest).or (if field.text = text then field.aggregate? else none)

theorem exists_of_shown? {text : String} {fields : List Field} {aggregate : Aggregate}
    (shown : shown? text fields = some aggregate) :
    ∃ field ∈ fields, field.aggregate? = some aggregate := by
  induction fields with
  | nil => contradiction
  | cons field rest ih =>
    rw [shown?, Option.or_eq_some_iff] at shown
    rcases shown with later | ⟨_, here⟩
    · obtain ⟨other, member, selects⟩ := ih later
      exact ⟨other, List.mem_cons_of_mem field member, selects⟩
    · by_cases named : field.text = text
      · rw [if_pos named] at here
        exact ⟨field, List.mem_cons_self, here⟩
      · rw [if_neg named] at here
        contradiction

theorem find?_setAggregates (fields : List Field) (value : Aggregate → Value) (start : Row)
    (text : String) :
    (setAggregates fields value start).find? (.ofText text) =
      ((shown? text fields).map value).or (start.find? (.ofText text)) := by
  induction fields generalizing start with
  | nil => rfl
  | cons field rest ih =>
    rw [setAggregates, List.foldl_cons, shown?]
    refine (ih _).trans ?_
    cases later : shown? text rest with
    | some aggregate => rfl
    | none =>
      rw [Option.map_none, Option.none_or, Option.none_or]
      cases selects : field.aggregate? with
      | none => simp
      | some aggregate =>
        by_cases named : field.text = text
        · rw [if_pos named, named]
          exact (Row.find?_set _ _ _ _).trans (if_pos rfl)
        · have differs : ColumnKey.ofText text ≠ .ofText field.text := fun same =>
            named (ColumnKey.ofText_inj.1 same).symm
          rw [if_neg named]
          exact (Row.find?_set _ _ _ _).trans (if_neg differs)

theorem get?_setAggregates {fields : List Field} {text : String} {aggregate : Aggregate}
    (shown : shown? text fields = some aggregate) (value : Aggregate → Value) (start : Row) :
    (setAggregates fields value start).get? text = some (value aggregate) := by
  rw [Row.get?_eq, find?_setAggregates, shown]
  rfl

theorem get?_row_ofRows {fields : List Field} {text : String} {aggregate : Aggregate}
    (shown : shown? text fields = some aggregate) (groupBy : List String) (rows : List Row) :
    ((Group.ofRows groupBy fields rows).row groupBy fields).get? text =
      some (aggregate.sharedValue (feeders fields .sum) rows) := by
  obtain ⟨field, member, selects⟩ := exists_of_shown? shown
  rw [Group.row, get?_setAggregates shown, Group.ofRows_value member selects]

theorem get?_aggregateAll {fields : List Field} {text : String} {aggregate : Aggregate}
    (shown : shown? text fields = some aggregate) (rows : List Row) :
    (aggregateAll fields rows).get? text = some (aggregate.value rows) :=
  get?_setAggregates shown (Aggregate.value rows) .empty

theorem forall₂_aggregateGroups {R : String → Row → Prop} {groupBy : List String}
    {fields : List Field} {rows : List Row} :
    List.Forall₂ R (groupKeys groupBy rows) (aggregateGroups groupBy fields rows) ↔
      ∀ key ∈ groupKeys groupBy rows,
        R key ((Group.ofRows groupBy fields (groupRows groupBy rows key)).row groupBy fields) := by
  rw [aggregateGroups_eq_map, List.forall₂_map_right_iff, List.forall₂_same]

/-- The same value, for numbers up to the sign of zero; what is not a number is as good as any
other such. -/
def Value.alike : Value → Value → Bool
  | null, null => true
  | number a, number b => a == b || (a != a && b != b)
  | text s, text t => s == t
  | _, _ => false

theorem Value.alike_self (v : Value) : v.alike v := by
  cases v with
  | null => rfl
  | number n => by_cases same : n == n <;> simp [alike, bne, same]
  | text s => simp [alike]

def ShowsSum (fields : List Field) (text column : String) : Prop :=
  shown? text fields = some (.sum column) ∨ shown? text fields = some (.average column)

def SumsAgree (fields : List Field) (out whole : Row) : Prop :=
  ∀ text column, ShowsSum fields text column →
    ∃ v w, out.get? text = some v ∧ whole.get? text = some w ∧ v.alike w

theorem ShowsSum.exists_aggregate {fields : List Field} {text column : String}
    (shows : ShowsSum fields text column) :
    ∃ aggregate, shown? text fields = some aggregate ∧ aggregate.tally? = some (.sum, column) := by
  rcases shows with shown | shown
  · exact ⟨.sum column, shown, rfl⟩
  · exact ⟨.average column, shown, rfl⟩

theorem ShowsSum.feeders_pos {fields : List Field} {text column : String}
    (shows : ShowsSum fields text column) : 0 < feeders fields .sum column := by
  obtain ⟨aggregate, shown, reads⟩ := shows.exists_aggregate
  obtain ⟨field, member, selects⟩ := exists_of_shown? shown
  have feeds : field.aggregate?.bind Aggregate.tally? = some (.sum, column) := by
    rw [selects]
    exact reads
  exact TableQuery.feeders_pos member feeds

theorem Aggregate.sharedValue_of_once {aggregate : Aggregate} {column : String}
    (reads : aggregate.tally? = some (.sum, column)) {times : String → Nat}
    (once : times column = 1) (rows : List Row) :
    aggregate.sharedValue times rows = aggregate.value rows := by
  cases aggregate with
  | sum name =>
    obtain rfl : name = column := by simpa [tally?] using reads
    rw [sharedValue, once, repeatedSum_one]
    rfl
  | average name =>
    obtain rfl : name = column := by simpa [tally?] using reads
    rw [sharedValue, once, repeatedSum_one]
    rfl
  | count | minimum name | maximum name => rfl

theorem sumsAgree_of_feeders {fields : List Field}
    (single : ∀ text column, ShowsSum fields text column → feeders fields .sum column = 1)
    (groupBy : List String) (rows : List Row) :
    SumsAgree fields ((Group.ofRows groupBy fields rows).row groupBy fields)
      (aggregateAll fields rows) := by
  intro text column shows
  obtain ⟨aggregate, shown, reads⟩ := shows.exists_aggregate
  have same := Aggregate.sharedValue_of_once reads (single text column shows) rows
  refine ⟨_, _, get?_row_ofRows shown groupBy rows, get?_aggregateAll shown rows, ?_⟩
  rw [same]
  exact Value.alike_self (aggregate.value rows)

/-- The largest finite number. Twice that is infinity. -/
def largest : Float := Number.ofIndex false (Number.infinityIndex - 1)

def infinity : Float := Number.ofIndex false Number.infinityIndex

theorem zero_add_largest : 0 + largest = largest := by decide +kernel

theorem largest_add_largest : largest + largest = infinity := by decide +kernel

theorem infinity_add_largest : infinity + largest = infinity := by decide +kernel

def largestIn (column : String) : Row := Row.empty.insert column (.number largest)

theorem numberIn?_largestIn (column : String) :
    numberIn? column (largestIn column) = some largest := by
  rw [numberIn?, largestIn, Row.get?_insert_self, Option.bind_some, Value.numeric?_number]

theorem repeatedSum_largestIn (times : Nat) (column : String) :
    repeatedSum times column [largestIn column] = (· + largest)^[times] 0 := by
  rw [repeatedSum, List.foldl_cons, List.foldl_nil, numberIn?_largestIn, Option.getD_some]

theorem sumColumn_largestIn (column : String) : sumColumn column [largestIn column] = largest := by
  rw [← repeatedSum_one, repeatedSum_largestIn]
  exact zero_add_largest

theorem iterate_add_largest (times : Nat) : (· + largest)^[times + 2] 0 = infinity := by
  induction times with
  | zero =>
    change 0 + largest + largest = infinity
    rw [zero_add_largest, largest_add_largest]
  | succ times ih => rw [Function.iterate_succ_apply', ih, infinity_add_largest]

theorem repeatedSum_largestIn_of_lt {times : Nat} (several : 1 < times) (column : String) :
    repeatedSum times column [largestIn column] = infinity := by
  obtain ⟨more, rfl⟩ := Nat.exists_eq_add_of_le' several
  rw [repeatedSum_largestIn, iterate_add_largest]

theorem not_alike_largestIn {aggregate : Aggregate} {column : String}
    (reads : aggregate.tally? = some (.sum, column)) {times : String → Nat}
    (several : 1 < times column) :
    ¬ (aggregate.sharedValue times [largestIn column]).alike
      (aggregate.value [largestIn column]) := by
  have overflow := repeatedSum_largestIn_of_lt several column
  have whole := sumColumn_largestIn column
  cases aggregate with
  | sum name =>
    obtain rfl : name = column := by simpa [Aggregate.tally?] using reads
    rw [Aggregate.sharedValue, Aggregate.value, overflow, whole]
    decide +kernel
  | average name =>
    obtain rfl : name = column := by simpa [Aggregate.tally?] using reads
    rw [Aggregate.sharedValue, Aggregate.value, overflow, whole, List.length_singleton]
    decide +kernel
  | count => contradiction
  | minimum name => simp [Aggregate.tally?] at reads
  | maximum name => simp [Aggregate.tally?] at reads

theorem feeders_of_sumsAgree {fields : List Field} {text column : String}
    (shows : ShowsSum fields text column) {groupBy : List String}
    (agree : SumsAgree fields
      ((Group.ofRows groupBy fields [largestIn column]).row groupBy fields)
      (aggregateAll fields [largestIn column])) :
    feeders fields .sum column = 1 := by
  have fed := shows.feeders_pos
  obtain ⟨aggregate, shown, reads⟩ := shows.exists_aggregate
  obtain ⟨v, w, out, whole, alike⟩ := agree text column shows
  rw [get?_row_ofRows shown] at out
  rw [get?_aggregateAll shown] at whole
  rw [← Option.some.inj out, ← Option.some.inj whole] at alike
  by_contra notOne
  have several : 1 < feeders fields .sum column := by omega
  exact not_alike_largestIn reads several alike

/-- Every group shows its aggregates with the sums as they are shared, and its sums and averages are
those of its rows, whatever the rows, exactly when each of them is alone in adding up its column. -/
theorem aggregateGroups_sums (groupBy : List String) (fields : List Field) :
    (∀ rows, List.Forall₂ (fun key out => ∀ text aggregate, shown? text fields = some aggregate →
        out.get? text =
          some (aggregate.sharedValue (feeders fields .sum) (groupRows groupBy rows key)))
      (groupKeys groupBy rows) (aggregateGroups groupBy fields rows)) ∧
    ((∀ rows, List.Forall₂ (fun key out =>
        SumsAgree fields out (aggregateAll fields (groupRows groupBy rows key)))
      (groupKeys groupBy rows) (aggregateGroups groupBy fields rows)) ↔
      ∀ text column, ShowsSum fields text column → feeders fields .sum column = 1) := by
  simp only [forall₂_aggregateGroups]
  refine ⟨?_, ?_, ?_⟩
  · intro rows key _ text aggregate shown
    exact get?_row_ofRows shown groupBy (groupRows groupBy rows key)
  · intro agree text column shows
    have member : rowKey groupBy (largestIn column) ∈ groupKeys groupBy [largestIn column] :=
      mem_groupKeys.2 ⟨_, List.mem_singleton_self _, rfl⟩
    have alone : groupRows groupBy [largestIn column] (rowKey groupBy (largestIn column)) =
        [largestIn column] := by
      simp [groupRows]
    have shared := agree [largestIn column] _ member
    rw [alone] at shared
    exact feeders_of_sumsAgree shows shared
  · intro single rows key _
    exact sumsAgree_of_feeders single groupBy (groupRows groupBy rows key)

def sumAndAverage : List Field :=
  [⟨"SUM(v)", .aggregate (.sum "v")⟩, ⟨"AVG(v)", .aggregate (.average "v")⟩]

def tenAndFive : List Row :=
  [.ofColumns [(.plain "g", .text "a"), (.plain "v", .number 10)],
    .ofColumns [(.plain "g", .text "a"), (.plain "v", .number 5)]]

/-- Beside its average, the sum of a group of two rows is twice the sum of the rows. -/
theorem aggregateGroups_sumAndAverage :
    groupKeys ["g"] tenAndFive = ["a"] ∧ groupRows ["g"] tenAndFive "a" = tenAndFive ∧
      (aggregateGroups ["g"] sumAndAverage tenAndFive).map
          (fun out => (out.get? "SUM(v)", out.get? "AVG(v)")) =
        [(some (.number 30), some (.number 15))] ∧
      (aggregateAll sumAndAverage tenAndFive).get? "SUM(v)" = some (.number 15) ∧
      (aggregateAll sumAndAverage tenAndFive).get? "AVG(v)" = some (.number 7.5) := by
  decide +kernel

end TableQuery
