import Mathlib.Data.List.Nodup
import TableQuery.Group

/-! The groups as a partition of the rows. After any number of rows the loop holds one group for
each key met so far, in the order in which the keys first occur, and each group is what its own rows
alone would give. -/

namespace TableQuery

def rowKey (groupBy : List String) (row : Row) : String := groupKey (groupValues groupBy row)

def groupKeys (groupBy : List String) (rows : List Row) : List String :=
  firstSeen (rows.map (rowKey groupBy))

def groupRows (groupBy : List String) (rows : List Row) (key : String) : List Row :=
  rows.filter (rowKey groupBy · = key)

theorem nodup_groupKeys (groupBy : List String) (rows : List Row) : (groupKeys groupBy rows).Nodup :=
  nodup_firstSeen _

theorem mem_groupKeys {groupBy : List String} {rows : List Row} {key : String} :
    key ∈ groupKeys groupBy rows ↔ ∃ row ∈ rows, rowKey groupBy row = key := by
  rw [groupKeys, mem_firstSeen, List.mem_map]

theorem groupKeys_concat (groupBy : List String) (rows : List Row) (row : Row) :
    groupKeys groupBy (rows ++ [row]) = addIfNew (groupKeys groupBy rows) (rowKey groupBy row) := by
  rw [groupKeys, List.map_append, List.map_singleton, firstSeen_concat, groupKeys]

theorem groupRows_concat (groupBy : List String) (rows : List Row) (row : Row) (key : String) :
    groupRows groupBy (rows ++ [row]) key =
      groupRows groupBy rows key ++ if rowKey groupBy row = key then [row] else [] := by
  rw [groupRows, List.filter_append, groupRows]
  by_cases h : rowKey groupBy row = key <;> simp [h]

theorem groupRows_eq_nil_iff {groupBy : List String} {rows : List Row} {key : String} :
    groupRows groupBy rows key = [] ↔ key ∉ groupKeys groupBy rows := by
  rw [mem_groupKeys, groupRows, List.filter_eq_nil_iff]
  simp

def firstValues (groupBy : List String) : List Row → List Value
  | [] => []
  | row :: _ => groupValues groupBy row

def Group.ofRows (groupBy : List String) (fields : List Field) (rows : List Row) : Group :=
  rows.foldl (Group.add fields) (.new (firstValues groupBy rows))

theorem Group.ofRows_concat {groupBy : List String} {fields : List Field} {rows : List Row}
    (nonempty : rows ≠ []) (row : Row) :
    Group.ofRows groupBy fields (rows ++ [row]) =
      (Group.ofRows groupBy fields rows).add fields row := by
  cases rows with
  | nil => exact absurd rfl nonempty
  | cons first rest => rw [ofRows, List.foldl_append]; rfl

namespace Grouping

/-- What the loop holds once it has read `rows`. -/
structure Partitions (grouping : Grouping) (groupBy : List String) (fields : List Field)
    (rows : List Row) : Prop where
  groups : grouping.groups.toList = (groupKeys groupBy rows).map fun key =>
    Group.ofRows groupBy fields (groupRows groupBy rows key)
  places : ∀ key place, grouping.places.lookup key = some place ↔
    (groupKeys groupBy rows)[place]? = some key

theorem partitions_empty (groupBy : List String) (fields : List Field) :
    Partitions .empty groupBy fields [] where
  groups := rfl
  places := by simp [empty, groupKeys]

variable {groupBy : List String} {fields : List Field}

theorem Partitions.size {grouping : Grouping} {rows : List Row}
    (h : grouping.Partitions groupBy fields rows) :
    grouping.groups.size = (groupKeys groupBy rows).length := by
  rw [← Array.length_toList, h.groups, List.length_map]

theorem Partitions.not_mem_of_lookup {grouping : Grouping} {rows : List Row}
    (h : grouping.Partitions groupBy fields rows) {key : String}
    (unknown : grouping.places.lookup key = none) : key ∉ groupKeys groupBy rows := by
  intro member
  obtain ⟨place, hplace⟩ := List.mem_iff_getElem?.1 member
  rw [(h.places key place).2 hplace] at unknown
  contradiction

theorem modify_push (groups : Array Group) (group : Group) (change : Group → Group) :
    (groups.push group).modify groups.size change = groups.push (change group) := by
  apply Array.ext
  · simp
  · intro i bound _
    by_cases before : i < groups.size
    · have earlier : groups.size ≠ i := by omega
      simp [Array.getElem_modify, Array.getElem_push, before, earlier]
    · have last : groups.size = i := by
        rw [Array.size_modify, Array.size_push] at bound
        omega
      subst last
      simp [Array.getElem_modify, Array.getElem_push]

theorem Partitions.add_known {grouping : Grouping} {rows : List Row}
    (h : grouping.Partitions groupBy fields rows) {row : Row} {place : Nat}
    (known : grouping.places.lookup (rowKey groupBy row) = some place) :
    Partitions ⟨grouping.groups.modify place (·.add fields row), grouping.places⟩ groupBy fields
      (rows ++ [row]) := by
  have at_place := (h.places _ _).1 known
  have member : rowKey groupBy row ∈ groupKeys groupBy rows := List.mem_of_getElem? at_place
  have keys : groupKeys groupBy (rows ++ [row]) = groupKeys groupBy rows := by
    rw [groupKeys_concat, addIfNew, if_pos member]
  constructor
  · rw [Array.toList_modify, h.groups, keys]
    apply List.ext_getElem?
    intro i
    rw [List.getElem?_modify, List.getElem?_map, List.getElem?_map]
    cases key_at : (groupKeys groupBy rows)[i]? with
    | none => simp
    | some key =>
      rw [Option.map_some, Option.map_some, groupRows_concat]
      by_cases here : place = i
      · obtain rfl : rowKey groupBy row = key :=
          Option.some.inj (at_place.symm.trans (here ▸ key_at))
        have nonempty : groupRows groupBy rows (rowKey groupBy row) ≠ [] :=
          fun empty => groupRows_eq_nil_iff.1 empty member
        simp [here, Group.ofRows_concat nonempty]
      · have other : rowKey groupBy row ≠ key := by
          rintro rfl
          exact here ((List.getElem?_inj (List.getElem?_eq_some_iff.1 at_place).1
            (nodup_groupKeys groupBy rows)).1 (at_place.trans key_at.symm))
        simp [here, other]
  · intro key i
    rw [keys]
    exact h.places key i

theorem Partitions.add_new {grouping : Grouping} {rows : List Row}
    (h : grouping.Partitions groupBy fields rows) {row : Row}
    (unknown : grouping.places.lookup (rowKey groupBy row) = none) :
    Partitions ⟨grouping.groups.push ((Group.new (groupValues groupBy row)).add fields row),
      Keyed.set grouping.places (rowKey groupBy row) grouping.groups.size⟩ groupBy fields
      (rows ++ [row]) := by
  have fresh := h.not_mem_of_lookup unknown
  have keys : groupKeys groupBy (rows ++ [row]) =
      groupKeys groupBy rows ++ [rowKey groupBy row] := by
    rw [groupKeys_concat, addIfNew, if_neg fresh]
  constructor
  · rw [Array.toList_push, h.groups, keys, List.map_append, List.map_singleton]
    congr 1
    · apply List.map_congr_left
      intro key member
      have other : rowKey groupBy row ≠ key := fun same => fresh (same ▸ member)
      rw [groupRows_concat, if_neg other, List.append_nil]
    · rw [groupRows_concat, if_pos rfl, groupRows_eq_nil_iff.2 fresh]
      rfl
  · intro key place
    rw [Keyed.lookup_set, keys, h.size]
    by_cases same : key = rowKey groupBy row
    · subst same
      rw [if_pos rfl, Option.some_inj]
      constructor
      · rintro rfl
        simp
      · intro at_place
        by_cases before : place < (groupKeys groupBy rows).length
        · rw [List.getElem?_append_left before] at at_place
          exact absurd (List.mem_of_getElem? at_place) fresh
        · have bound := (List.getElem?_eq_some_iff.1 at_place).1
          rw [List.length_append, List.length_singleton] at bound
          omega
    · rw [if_neg same, h.places]
      by_cases before : place < (groupKeys groupBy rows).length
      · rw [List.getElem?_append_left before]
      · rw [List.getElem?_append_right (by omega), List.getElem?_eq_none (by omega)]
        constructor
        · intro none_eq
          contradiction
        · intro at_end
          have last := List.mem_of_getElem? at_end
          exact absurd (List.mem_singleton.1 last) same

theorem Partitions.add {grouping : Grouping} {rows : List Row}
    (h : grouping.Partitions groupBy fields rows) (row : Row) :
    (grouping.add groupBy fields row).Partitions groupBy fields (rows ++ [row]) := by
  cases found : grouping.places.lookup (rowKey groupBy row) with
  | some place =>
    have step : grouping.add groupBy fields row =
        ⟨grouping.groups.modify place (·.add fields row), grouping.places⟩ := by
      rw [rowKey] at found
      simp [Grouping.add, Grouping.place, found]
    rw [step]
    exact h.add_known found
  | none =>
    have step : grouping.add groupBy fields row =
        ⟨grouping.groups.push ((Group.new (groupValues groupBy row)).add fields row),
          Keyed.set grouping.places (rowKey groupBy row) grouping.groups.size⟩ := by
      have modified := modify_push grouping.groups (.new (groupValues groupBy row))
        (·.add fields row)
      rw [rowKey] at found ⊢
      simp only [Grouping.add, Grouping.place, found, modified]
    rw [step]
    exact h.add_new found

theorem Partitions.foldl_add {grouping : Grouping} {seen : List Row}
    (h : grouping.Partitions groupBy fields seen) (rows : List Row) :
    (rows.foldl (Grouping.add groupBy fields) grouping).Partitions groupBy fields
      (seen ++ rows) := by
  induction rows generalizing grouping seen with
  | nil => simpa using h
  | cons row rest ih => simpa using ih (h.add row)

end Grouping

theorem aggregateGroups_eq_map (groupBy : List String) (fields : List Field) (rows : List Row) :
    aggregateGroups groupBy fields rows = (groupKeys groupBy rows).map fun key =>
      (Group.ofRows groupBy fields (groupRows groupBy rows key)).row groupBy fields := by
  have run := (Grouping.partitions_empty groupBy fields).foldl_add rows
  rw [aggregateGroups, run.groups, List.nil_append, List.map_map]
  rfl

end TableQuery
