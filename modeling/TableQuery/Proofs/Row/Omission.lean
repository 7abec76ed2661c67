import TableQuery.Projection
import TableQuery.Proofs.Row.Lookup
import TableQuery.Proofs.Row.Setting

/-! Rows without some of their columns. To leave columns out of a row after others were set in it is
to set only those that are not left out, in the order in which they were set. -/

namespace TableQuery

namespace Keyed

variable {κ α : Type} [DecidableEq κ]

theorem filter_set (holds : κ → Bool) (entries : List (κ × α)) (key : κ) (value : α) :
    (set entries key value).filter (fun entry => holds entry.1) =
      if holds key then set (entries.filter fun entry => holds entry.1) key value
      else entries.filter fun entry => holds entry.1 := by
  induction entries with
  | nil => by_cases kept : holds key <;> simp [set, kept]
  | cons entry rest ih =>
    by_cases here : entry.1 = key
    · by_cases kept : holds key <;> simp [set, here, kept]
    · by_cases kept : holds entry.1
      · by_cases keptKey : holds key <;> simp [set, here, kept, keptKey, ih]
      · simp [set, here, kept, ih]

end Keyed

namespace Row

def without (row : Row) (keys : List ColumnKey) : Row :=
  ⟨row.columns.filter (·.1 ∉ keys), row.distinct.sublist (List.filter_sublist.map Prod.fst)⟩

@[simp] theorem without_nil (row : Row) : row.without [] = row := Row.ext (by simp [without])

theorem without_set (row : Row) (keys : List ColumnKey) (key : ColumnKey) (value : Value) :
    (row.set key value).without keys =
      if key ∈ keys then row.without keys else (row.without keys).set key value := by
  have columns := Keyed.filter_set (fun other => decide (other ∉ keys)) row.columns key value
  by_cases left : key ∈ keys
  · rw [if_pos left]
    exact Row.ext (columns.trans (if_neg (by simpa using left)))
  · rw [if_neg left]
    exact Row.ext (columns.trans (if_pos (by simpa using left)))

theorem without_setAll (row : Row) (keys : List ColumnKey) (columns : List (ColumnKey × Value)) :
    (row.setAll columns).without keys =
      (row.without keys).setAll (columns.filter (·.1 ∉ keys)) := by
  induction columns generalizing row with
  | nil => rfl
  | cons column rest ih =>
    change ((row.set column.1 column.2).setAll rest).without keys = _
    rw [ih, without_set]
    by_cases left : column.1 ∈ keys
    · rw [if_pos left, List.filter_cons_of_neg (by simpa using left)]
    · rw [if_neg left, List.filter_cons_of_pos (by simpa using left)]
      rfl

/-- Two rows with the same columns but for certain keys: the rows have the moved ones in places of
their own, and the brought ones may be in one of the rows only. -/
structure Rearranged (moved brought : List ColumnKey) (row other : Row) : Prop where
  without_moved : row.without moved = other.without moved
  find?_kept : ∀ key ∉ brought, row.find? key = other.find? key

namespace Rearranged

variable {moved brought : List ColumnKey} {row other : Row}

theorem refl (row : Row) : row.Rearranged moved brought row := ⟨rfl, fun _ _ => rfl⟩

theorem eq (rearranged : row.Rearranged [] brought other) : row = other := by
  rw [← row.without_nil, rearranged.without_moved, without_nil]

theorem set (rearranged : row.Rearranged moved brought other) (key : ColumnKey) (value : Value) :
    (row.set key value).Rearranged moved brought (other.set key value) where
  without_moved := by rw [without_set, without_set, rearranged.without_moved]
  find?_kept := by
    intro sought kept
    rw [find?_set, find?_set, rearranged.find?_kept sought kept]

theorem setAll {source source' : Row} (rearranged : row.Rearranged moved brought other)
    (sources : source.Rearranged moved brought source') :
    (row.setAll source.columns).Rearranged moved brought (other.setAll source'.columns) where
  without_moved := by
    have copied : source.columns.filter (·.1 ∉ moved) = source'.columns.filter (·.1 ∉ moved) :=
      congrArg columns sources.without_moved
    rw [without_setAll, without_setAll, rearranged.without_moved, copied]
  find?_kept := by
    intro sought kept
    have copied : source.columns.lookup sought = source'.columns.lookup sought :=
      sources.find?_kept sought kept
    rw [find?_setAll source.distinct, find?_setAll source'.distinct, copied,
      rearranged.find?_kept sought kept]

end Rearranged

end Row

theorem rearranged_projectRow {moved brought : List ColumnKey} {fields : List Field}
    {source other : Row}
    (copied : (∃ field ∈ fields, field.isWildcard) → source.Rearranged moved brought other)
    (alike : ∀ field ∈ fields, ∀ column, field.kind = .plain column →
      (source.get? column).getD .null = (other.get? column).getD .null) :
    (projectRow fields source).Rearranged moved brought (projectRow fields other) := by
  have loop (row row' : Row) (h : row.Rearranged moved brought row') :
      (fields.foldl (projectField source) row).Rearranged moved brought
        (fields.foldl (projectField other) row') := by
    induction fields generalizing row row' with
    | nil => exact h
    | cons field rest ih =>
      rw [List.forall_mem_cons] at alike
      refine ih (fun ⟨later, member, wildcard⟩ =>
        copied ⟨later, List.mem_cons_of_mem _ member, wildcard⟩) alike.2 _ _ ?_
      cases kind : field.kind with
      | plain column =>
        rw [projectField, projectField, kind]
        simp only [alike.1 column kind]
        exact h.set _ _
      | wildcard =>
        have here : ∃ other ∈ field :: rest, other.isWildcard :=
          ⟨field, List.mem_cons_self, by simp [Field.isWildcard, kind]⟩
        rw [projectField, projectField, kind]
        exact h.setAll (copied here)
      | aggregate aggregate =>
        rw [projectField, projectField, kind]
        exact h
  exact loop .empty .empty (.refl .empty)

end TableQuery
