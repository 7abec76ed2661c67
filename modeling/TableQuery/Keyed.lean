import TableQuery.FirstSeen

/-! Values under keys, listed in the order in which the keys were first set. -/

namespace TableQuery.Keyed

variable {κ α : Type} [DecidableEq κ]

/-- A key that the list has keeps its place; a new one goes to the end. -/
def set : List (κ × α) → κ → α → List (κ × α)
  | [], key, value => [(key, value)]
  | entry :: rest, key, value =>
    if entry.1 = key then (key, value) :: rest else entry :: set rest key value

theorem keys_set (entries : List (κ × α)) (key : κ) (value : α) :
    (set entries key value).map Prod.fst = addIfNew (entries.map Prod.fst) key := by
  induction entries with
  | nil => rfl
  | cons entry rest ih =>
    by_cases h : entry.1 = key
    · simp [set, addIfNew, h]
    · have h' : key ≠ entry.1 := fun e => h e.symm
      simp only [set, h, if_false, List.map_cons, ih, addIfNew, List.mem_cons, h', false_or]
      split <;> simp

theorem nodup_set {entries : List (κ × α)} (key : κ) (value : α)
    (h : (entries.map Prod.fst).Nodup) : ((set entries key value).map Prod.fst).Nodup := by
  rw [keys_set]
  exact nodup_addIfNew h

theorem lookup_cons [BEq κ] [LawfulBEq κ] (entry : κ × α) (rest : List (κ × α)) (key : κ) :
    (entry :: rest).lookup key = if key = entry.1 then some entry.2 else rest.lookup key := by
  obtain ⟨k, v⟩ := entry
  by_cases h : key = k
  · simp [h]
  · simp [List.lookup_cons, beq_false_of_ne h, h]

theorem lookup_set [BEq κ] [LawfulBEq κ] (entries : List (κ × α)) (key other : κ) (value : α) :
    (set entries key value).lookup other =
      if other = key then some value else entries.lookup other := by
  induction entries with
  | nil => rw [set, lookup_cons]
  | cons entry rest ih =>
    rw [set, lookup_cons]
    by_cases hc : entry.1 = key
    · rw [if_pos hc, lookup_cons, hc]
      by_cases h : other = key <;> simp [h]
    · rw [if_neg hc, lookup_cons, ih]
      by_cases h : other = entry.1 <;> simp [h, hc]

theorem eq_of_keys [BEq κ] [LawfulBEq κ] {entries others : List (κ × α)}
    (distinct : (entries.map Prod.fst).Nodup) (keys : entries.map Prod.fst = others.map Prod.fst)
    (values : ∀ key ∈ entries.map Prod.fst, entries.lookup key = others.lookup key) :
    entries = others := by
  induction entries generalizing others with
  | nil => exact (List.map_eq_nil_iff.1 keys.symm).symm
  | cons entry rest ih =>
    cases others with
    | nil => simp at keys
    | cons other otherRest =>
      rw [List.map_cons, List.map_cons, List.cons.injEq] at keys
      rw [List.map_cons, List.nodup_cons] at distinct
      rw [List.map_cons, List.forall_mem_cons, lookup_cons, if_pos rfl, lookup_cons,
        if_pos keys.1, Option.some.injEq] at values
      have later : ∀ key ∈ rest.map Prod.fst, rest.lookup key = otherRest.lookup key := by
        intro key member
        have differs : key ≠ entry.1 := fun e => distinct.1 (e ▸ member)
        have same := values.2 key member
        rwa [lookup_cons, if_neg differs, lookup_cons, if_neg (keys.1 ▸ differs)] at same
      rw [ih distinct.2 keys.2 later, Prod.ext keys.1 values.1]

end TableQuery.Keyed
