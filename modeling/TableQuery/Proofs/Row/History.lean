import TableQuery.Proofs.Row.Lookup

/-! A row and the changes that made it. Whatever they are, its keys stand once each in the order in
which they were first set, and under each of them is what the last change to it left there. -/

namespace TableQuery.Row

inductive Change where
  | set (key : ColumnKey) (value : Value)
  | insert (field : String) (value : Value)
  | null
  deriving DecidableEq

namespace Change

def apply (row : Row) : Change → Row
  | set key value => row.set key value
  | insert field value => row.insert field value
  | null => row.nulled

def column? : Change → Option (ColumnKey × Value)
  | set key value => some (key, value)
  | insert field value => some (.ofText field, value)
  | null => none

def key? (change : Change) : Option ColumnKey := change.column?.map Prod.fst

theorem exists_column?_of_key? {change : Change} {key : ColumnKey} (sets : change.key? = some key) :
    ∃ value, change.column? = some (key, value) := by
  obtain ⟨column, found, rfl⟩ := Option.map_eq_some_iff.1 sets
  exact ⟨column.2, found⟩

theorem apply_of_column? {change : Change} {key : ColumnKey} {value : Value}
    (sets : change.column? = some (key, value)) (row : Row) :
    change.apply row = row.set key value := by
  cases change with
  | set other given | insert field given => cases sets; rfl
  | null => contradiction

theorem eq_null_of_key? {change : Change} (setsNone : change.key? = none) : change = null := by
  cases change with
  | set key value | insert field value => contradiction
  | null => rfl

end Change

def ofChanges (changes : List Change) : Row := changes.foldl Change.apply .empty

/-- The changes set this value under the key and then left the key alone, or they left null there
because all values became null after that. -/
def Leaves (changes : List Change) (key : ColumnKey) (value : Value) : Prop :=
  ∃ before change given after, changes = before ++ change :: after ∧
    change.column? = some (key, given) ∧ (∀ later ∈ after, later.key? ≠ some key) ∧
      value = if Change.null ∈ after then .null else given

theorem keys_foldl_apply (changes : List Change) (row : Row) :
    (changes.foldl Change.apply row).keys =
      (changes.filterMap Change.key?).foldl addIfNew row.keys := by
  induction changes generalizing row with
  | nil => rfl
  | cons change rest ih =>
    rw [List.foldl_cons, ih]
    cases sets : change.key? with
    | none =>
      rw [Change.eq_null_of_key? sets, Change.apply, keys_nulled, List.filterMap_cons_none rfl]
    | some key =>
      obtain ⟨value, column⟩ := Change.exists_column?_of_key? sets
      rw [Change.apply_of_column? column, keys_set, List.filterMap_cons_some sets, List.foldl_cons]

theorem find?_foldl_apply {changes : List Change} {key : ColumnKey}
    (untouched : ∀ change ∈ changes, change.key? ≠ some key) {row : Row} {given : Value}
    (found : row.find? key = some given) :
    (changes.foldl Change.apply row).find? key =
      some (if Change.null ∈ changes then .null else given) := by
  induction changes generalizing row given with
  | nil => simpa using found
  | cons change rest ih =>
    rw [List.forall_mem_cons] at untouched
    rw [List.foldl_cons]
    cases sets : change.key? with
    | none =>
      have nulled : row.nulled.find? key = some .null := by
        rw [find?_nulled, found, Option.map_some]
      rw [Change.eq_null_of_key? sets, if_pos List.mem_cons_self]
      exact (ih untouched.2 nulled).trans (by rw [ite_self])
    | some other =>
      have differs : key ≠ other := fun same => untouched.1 (same ▸ sets)
      have notNull : Change.null ≠ change := fun same => by cases same; cases sets
      obtain ⟨value, column⟩ := Change.exists_column?_of_key? sets
      have kept : (change.apply row).find? key = some given := by
        rw [Change.apply_of_column? column, find?_set, if_neg differs, found]
      rw [ih untouched.2 kept]
      simp [notNull]

theorem find?_of_leaves {changes : List Change} {key : ColumnKey} {value : Value}
    (leaves : Leaves changes key value) : (ofChanges changes).find? key = some value := by
  obtain ⟨before, change, given, after, rfl, sets, untouched, rfl⟩ := leaves
  have set : (change.apply (before.foldl Change.apply .empty)).find? key = some given := by
    rw [Change.apply_of_column? sets, find?_set, if_pos rfl]
  rw [ofChanges, List.foldl_append, List.foldl_cons]
  exact find?_foldl_apply untouched set

theorem exists_leaves {changes : List Change} {key : ColumnKey}
    (member : key ∈ changes.filterMap Change.key?) : ∃ value, Leaves changes key value := by
  induction changes with
  | nil => cases member
  | cons change rest ih =>
    by_cases later : key ∈ rest.filterMap Change.key?
    · obtain ⟨value, before, last, given, after, rfl, leaves⟩ := ih later
      exact ⟨value, change :: before, last, given, after, rfl, leaves⟩
    · obtain ⟨last, inChanges, sets⟩ := List.mem_filterMap.1 member
      have untouched : ∀ other ∈ rest, other.key? ≠ some key := fun other inRest same =>
        later (List.mem_filterMap.2 ⟨other, inRest, same⟩)
      obtain rfl : last = change :=
        (List.mem_cons.1 inChanges).resolve_right fun inRest => untouched last inRest sets
      obtain ⟨given, column⟩ := Change.exists_column?_of_key? sets
      exact ⟨_, [], last, given, rest, rfl, column, untouched, rfl⟩

structure FollowsFrom (row : Row) (changes : List Change) : Prop where
  distinct : row.keys.Nodup
  keys_eq : row.keys = (changes.filterMap Change.key?).eraseDups
  find?_iff : ∀ key value, row.find? key = some value ↔ Leaves changes key value
  find?_eq_none_iff : ∀ key, row.find? key = none ↔ ∀ change ∈ changes, change.key? ≠ some key

theorem ofChanges_followsFrom (changes : List Change) :
    (ofChanges changes).FollowsFrom changes := by
  have keys : (ofChanges changes).keys = firstSeen (changes.filterMap Change.key?) :=
    keys_foldl_apply changes .empty
  have present (key : ColumnKey) :
      key ∈ (ofChanges changes).keys ↔ key ∈ changes.filterMap Change.key? := by
    rw [keys, mem_firstSeen]
  constructor
  case distinct => exact keys ▸ nodup_firstSeen _
  case keys_eq => rw [keys, firstSeen_eq_eraseDups]
  case find?_iff =>
    refine fun key value => ⟨fun found => ?_, find?_of_leaves⟩
    -- The key was set, and what the last change to it left is the value that is found.
    obtain ⟨last, leaves⟩ := exists_leaves ((present key).1 (mem_keys_of_find? found))
    obtain rfl : value = last := Option.some.inj (found.symm.trans (find?_of_leaves leaves))
    exact leaves
  case find?_eq_none_iff =>
    intro key
    rw [Row.find?_eq_none_iff, present, List.mem_filterMap]
    simp

theorem apply_frame {change : Change} {key : ColumnKey} (sets : change.key? = some key) (row : Row)
    {other : ColumnKey} (differs : other ≠ key) :
    (change.apply row).find? other = row.find? other ∧
      ∀ place : Nat,
        (change.apply row).keys[place]? = some other ↔ row.keys[place]? = some other := by
  obtain ⟨value, column⟩ := Change.exists_column?_of_key? sets
  rw [Change.apply_of_column? column, find?_set, if_neg differs, keys_set]
  exact ⟨rfl, fun place => getElem?_addIfNew_of_ne differs⟩

/-- A row made by any changes is an ordered map: its keys stand once each in the order in which they
were first set, each with what the last change to it left. One more change that sets a key moves and
changes no other key, and a field text finds the exact key or else the bare name. -/
theorem ofChanges_orderedMap (changes : List Change) :
    (ofChanges changes).FollowsFrom changes ∧
    (∀ change key, Change.key? change = some key → ∀ other, other ≠ key →
      (change.apply (ofChanges changes)).find? other = (ofChanges changes).find? other ∧
        ∀ place : Nat, (change.apply (ofChanges changes)).keys[place]? = some other ↔
          (ofChanges changes).keys[place]? = some other) ∧
    ∀ field, (ofChanges changes).get? field =
      if .ofText field ∈ (ofChanges changes).keys then (ofChanges changes).find? (.ofText field)
      else if (ColumnKey.ofText field).isQualified then
        (ofChanges changes).find? (.plain (ColumnKey.ofText field).name)
      else none := by
  refine ⟨ofChanges_followsFrom changes, fun change key sets other differs =>
    apply_frame sets _ differs, fun field => ?_⟩
  rw [get?_eq]
  by_cases present : .ofText field ∈ (ofChanges changes).keys
  · obtain ⟨value, found⟩ := exists_find?_of_mem present
    rw [if_pos present, found, Option.some_or]
  · rw [if_neg present, find?_eq_none_iff.2 present, Option.none_or]

example : (ofChanges [.insert "a" (.number 1), .insert "t.a" (.text "x"), .null,
    .set (.plain "b") (.text "y"), .insert "a" (.number 3)]).columns =
      [(.plain "a", .number 3), (.qualified "t" "a", .null), (.plain "b", .text "y")] := by decide

end TableQuery.Row
