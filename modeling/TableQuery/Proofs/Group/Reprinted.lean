import TableQuery.Filter
import TableQuery.Proofs.List
import TableQuery.Proofs.Value.ReadBack

/-! Tables that were printed and loaded again. In the place of a number such a table holds its text,
and conditions, groups and aggregates come out as before. -/

namespace TableQuery

open Number

theorem Number.Same.lesserOf {m n s t : Float} (first : Same m s) (second : Same n t) :
    Same (lesserOf m n) (lesserOf s t) := by
  have less : n < m ↔ t < s := (second.lt_left m).trans (first.lt_right t)
  simp only [TableQuery.lesserOf, first.isNaN_eq, second.isNaN_eq, less]
  split_ifs <;> assumption

theorem Number.Same.greaterOf {m n s t : Float} (first : Same m s) (second : Same n t) :
    Same (greaterOf m n) (greaterOf s t) := by
  have less : m < n ↔ s < t := (first.lt_left n).trans (second.lt_right s)
  simp only [TableQuery.greaterOf, first.isNaN_eq, second.isNaN_eq, less]
  split_ifs <;> assumption

theorem Number.Same.add {m n s t : Float} (first : Same m s) (second : Same n t) :
    Same (m + n) (s + t) :=
  (first.add_right n).trans (second.add_left s)

theorem Number.Same.iterate_add {m n s t : Float} (first : Same m s) (second : Same n t)
    (times : Nat) : Same ((· + n)^[times] m) ((· + t)^[times] s) := by
  induction times with
  | zero => exact first
  | succ times ih =>
    rw [Function.iterate_succ_apply', Function.iterate_succ_apply']
    exact ih.add second

theorem Number.Same.averageOf {m n : Float} (same : Same m n) (count : Nat) :
    (averageOf m count).alike (averageOf n count) := by
  rw [TableQuery.averageOf, TableQuery.averageOf]
  split
  · rfl
  · exact Value.alike_number_iff.2 (same.div_right _)

def Row.Reprinted (row other : Row) : Prop :=
  List.Forall₂ (fun column printed => column.1 = printed.1 ∧ column.2.Reprinted printed.2)
    row.columns other.columns

namespace Row.Reprinted

variable {row other : Row}

theorem find? (reprinted : row.Reprinted other) (key : ColumnKey) :
    Option.Rel Value.Reprinted (row.find? key) (other.find? key) := by
  rw [Row.find?, Row.find?]
  rw [Row.Reprinted] at reprinted
  generalize row.columns = columns at reprinted ⊢
  generalize other.columns = printed at reprinted ⊢
  induction reprinted with
  | nil => exact .none
  | cons related _ ih =>
    rw [Keyed.lookup_cons, Keyed.lookup_cons, ← related.1]
    split
    · exact .some related.2
    · exact ih

theorem get? (reprinted : row.Reprinted other) (field : String) :
    Option.Rel Value.Reprinted (row.get? field) (other.get? field) := by
  rw [get?_eq, get?_eq]
  match row.find? (.ofText field), other.find? (.ofText field), reprinted.find? (.ofText field) with
  | _, _, .some related => exact .some related
  | _, _, .none =>
    split
    · exact reprinted.find? _
    · exact .none

theorem numberIn? (reprinted : row.Reprinted other) (column : String) :
    Option.Rel Same (numberIn? column row) (numberIn? column other) :=
  rel_bind (reprinted.get? column) fun _ _ related => related.numeric?

theorem reading (reprinted : row.Reprinted other) (column : String) :
    Same ((TableQuery.numberIn? column row).getD 0) ((TableQuery.numberIn? column other).getD 0) := by
  match TableQuery.numberIn? column row, TableQuery.numberIn? column other,
    reprinted.numberIn? column with
  | _, _, .some same => exact same
  | _, _, .none => exact .refl 0

theorem evaluate (reprinted : row.Reprinted other) (predicate : Predicate) :
    predicate.evaluate row = predicate.evaluate other := by
  rw [Predicate.evaluate, Predicate.evaluate]
  match row.get? predicate.field, other.get? predicate.field, reprinted.get? predicate.field with
  | _, _, .some related => simp only [Value.compare_of_alike related.coerce]
  | _, _, .none => rfl

theorem rowKey (reprinted : row.Reprinted other) (groupBy : List String) :
    rowKey groupBy row = rowKey groupBy other := by
  have texts : (groupValues groupBy row).map Value.keyText =
      (groupValues groupBy other).map Value.keyText := by
    rw [groupValues, groupValues, List.map_map, List.map_map]
    refine List.map_congr_left fun column _ => ?_
    rw [Function.comp_apply, Function.comp_apply]
    match row.get? column, other.get? column, reprinted.get? column with
    | _, _, .some related => exact related.keyText
    | _, _, .none => rfl
  rw [TableQuery.rowKey, TableQuery.rowKey, groupKey, groupKey, texts]

end Row.Reprinted

/-! ### Lists of rows -/

section

variable {rows others : List Row} (reprinted : List.Forall₂ Row.Reprinted rows others)

include reprinted

theorem groupKeys_reprinted (groupBy : List String) :
    groupKeys groupBy rows = groupKeys groupBy others := by
  have keys : rows.map (rowKey groupBy) = others.map (rowKey groupBy) := by
    rw [← List.forall₂_eq_eq_eq, List.forall₂_map_left_iff, List.forall₂_map_right_iff]
    exact reprinted.imp fun row other related => related.rowKey groupBy
  rw [groupKeys, keys, groupKeys]

theorem groupRows_reprinted (groupBy : List String) (key : String) :
    List.Forall₂ Row.Reprinted (groupRows groupBy rows key) (groupRows groupBy others key) := by
  refine List.rel_filter (fun row other related => ?_) reprinted
  change decide (rowKey groupBy row = key) = true ↔ decide (rowKey groupBy other = key) = true
  rw [related.rowKey groupBy]

theorem repeatedSum_reprinted (times : Nat) (column : String) :
    Same (repeatedSum times column rows) (repeatedSum times column others) :=
  List.rel_foldl (P := Same) (fun _ _ totals _ _ related =>
    totals.iterate_add (related.reading column) times) (.refl 0) reprinted

theorem extreme_reprinted {pick : Float → Float → Float}
    (picks : ∀ {m n s t}, Same m s → Same n t → Same (pick m n) (pick s t)) (column : String) :
    (extreme pick column rows).alike (extreme pick column others) := by
  have numbers : List.Forall₂ Same (rows.filterMap (numberIn? column))
      (others.filterMap (numberIn? column)) :=
    List.rel_filterMap (fun _ _ related => related.numberIn? column) reprinted
  rw [extreme, extreme]
  generalize rows.filterMap (numberIn? column) = kept at numbers ⊢
  generalize others.filterMap (numberIn? column) = printed at numbers ⊢
  cases numbers with
  | nil => rfl
  | cons first rest =>
    refine Value.alike_number_iff.2 (List.rel_foldl (P := Same) ?_ first rest)
    exact fun _ _ total _ _ same => picks total same

theorem sharedValue_reprinted (aggregate : Aggregate) (times : String → Nat) :
    (aggregate.sharedValue times rows).alike (aggregate.sharedValue times others) := by
  have length := reprinted.length_eq
  cases aggregate with
  | count =>
    change (Value.number (Number.ofNat rows.length)).alike (.number (Number.ofNat others.length))
    rw [length]
    exact Value.alike_self _
  | sum column => exact Value.alike_number_iff.2 (repeatedSum_reprinted reprinted _ column)
  | average column =>
    rw [Aggregate.sharedValue, Aggregate.sharedValue, length]
    exact (repeatedSum_reprinted reprinted _ column).averageOf _
  | minimum column => exact extreme_reprinted reprinted Same.lesserOf column
  | maximum column => exact extreme_reprinted reprinted Same.greaterOf column

theorem value_reprinted (aggregate : Aggregate) :
    (aggregate.value rows).alike (aggregate.value others) := by
  have once (rows : List Row) : aggregate.sharedValue (fun _ => 1) rows = aggregate.value rows := by
    cases aggregate <;> rfl
  rw [← once rows, ← once others]
  exact sharedValue_reprinted reprinted aggregate _

theorem aggregateGroups_reprinted (groupBy : List String) (fields : List Field) :
    List.Forall₂ (fun out printed => ∀ text aggregate, shown? text fields = some aggregate →
        ∃ v w, out.get? text = some v ∧ printed.get? text = some w ∧ v.alike w)
      (aggregateGroups groupBy fields rows) (aggregateGroups groupBy fields others) := by
  rw [aggregateGroups_eq_map, aggregateGroups_eq_map, groupKeys_reprinted reprinted,
    List.forall₂_map_left_iff, List.forall₂_map_right_iff, List.forall₂_same]
  intro key _ text aggregate shown
  exact ⟨_, _, get?_row_ofRows shown groupBy _, get?_row_ofRows shown groupBy _,
    sharedValue_reprinted (groupRows_reprinted reprinted groupBy key) aggregate _⟩

end

/-- The text of a finite number stands for an equal number, and that of another number for itself.
So tables in which finite numbers were replaced by their texts give the same answers to conditions,
the same aggregates, and the same groups with the same aggregates. -/
theorem printed_numbers_read_back :
    (∀ n, isFinite n → ∃ m, coerceText (Value.number n).toText = .number m ∧ m == n) ∧
    (∀ n, ¬ isFinite n → coerceText (Value.number n).toText = .text (Value.number n).toText) ∧
    (∀ row other, row.Reprinted other → ∀ predicate : Predicate,
      predicate.evaluate row = predicate.evaluate other) ∧
    ∀ rows others, List.Forall₂ Row.Reprinted rows others →
      (∀ aggregate : Aggregate, (aggregate.value rows).alike (aggregate.value others)) ∧
      ∀ groupBy fields,
        List.Forall₂ (fun out printed => ∀ text aggregate, shown? text fields = some aggregate →
            ∃ v w, out.get? text = some v ∧ printed.get? text = some w ∧ v.alike w)
          (aggregateGroups groupBy fields rows) (aggregateGroups groupBy fields others) := by
  refine ⟨fun n finite => ?_, fun n => coerceText_toText_of_not_isFinite,
    fun row other reprinted => reprinted.evaluate, fun rows others reprinted =>
      ⟨value_reprinted reprinted, aggregateGroups_reprinted reprinted⟩⟩
  obtain ⟨m, reads, same⟩ := coerceText_toText finite
  exact ⟨m, reads, beq_of_same same finite⟩

def halfAndNegativeZero : List Row :=
  [.ofColumns [(.plain "v", .number 0.5)], .ofColumns [(.plain "v", .number (-0))]]

/-- Negative zero is printed as zero. -/
def halfAndNegativeZeroTexts : List Row :=
  [.ofColumns [(.plain "v", .text "0.5")], .ofColumns [(.plain "v", .text "0")]]

theorem reprinted_halfAndNegativeZero :
    List.Forall₂ Row.Reprinted halfAndNegativeZero halfAndNegativeZeroTexts := by
  have half : (Value.number 0.5).toText = "0.5" := by decide +kernel
  have zero : (Value.number (-0)).toText = "0" := by decide +kernel
  rw [halfAndNegativeZeroTexts, ← half, ← zero]
  exact .cons (.cons ⟨rfl, .printed (by decide +kernel)⟩ .nil)
    (.cons (.cons ⟨rfl, .printed (by decide +kernel)⟩ .nil) .nil)

theorem printed_numbers_read_back_halfAndNegativeZero :
    isFinite 0.5 ∧ ¬ isFinite infinity ∧
      List.Forall₂ Row.Reprinted halfAndNegativeZero halfAndNegativeZeroTexts ∧
      (∃ m, coerceText (Value.number 0.5).toText = .number m ∧ m == 0.5) ∧
      coerceText (Value.number infinity).toText = .text (Value.number infinity).toText ∧
      (∀ predicate : Predicate, predicate.evaluate (.ofColumns [(.plain "v", .number 0.5)]) =
        predicate.evaluate (.ofColumns [(.plain "v", .text "0.5")])) ∧
      (Aggregate.value halfAndNegativeZero (.minimum "v")).alike
        (Aggregate.value halfAndNegativeZeroTexts (.minimum "v")) := by
  have finite : isFinite 0.5 := by decide +kernel
  have infinite : ¬ isFinite infinity := by decide +kernel
  have reprinted := reprinted_halfAndNegativeZero
  obtain ⟨readsBack, stays, conditions, aggregates⟩ := printed_numbers_read_back
  refine ⟨finite, infinite, reprinted, readsBack 0.5 finite, stays infinity infinite, ?_,
    (aggregates _ _ reprinted).1 (.minimum "v")⟩
  cases reprinted with
  | cons first _ => exact conditions _ _ first

end TableQuery
