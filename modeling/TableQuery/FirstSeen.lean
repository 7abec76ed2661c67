/-! The members of a list in the order in which they first occur, each of them once. -/

namespace TableQuery

def addIfNew {α : Type} [DecidableEq α] (seen : List α) (item : α) : List α :=
  if item ∈ seen then seen else seen ++ [item]

def firstSeen {α : Type} [DecidableEq α] (items : List α) : List α := items.foldl addIfNew []

section

variable {α : Type} [DecidableEq α]

@[simp] theorem firstSeen_nil : firstSeen ([] : List α) = [] := rfl

theorem firstSeen_concat (items : List α) (item : α) :
    firstSeen (items ++ [item]) = addIfNew (firstSeen items) item := by
  simp [firstSeen]

theorem mem_addIfNew {seen : List α} {item a : α} :
    a ∈ addIfNew seen item ↔ a ∈ seen ∨ a = item := by
  unfold addIfNew
  split
  next h =>
    constructor
    · exact Or.inl
    · rintro (ha | rfl)
      · exact ha
      · exact h
  next => simp

theorem nodup_addIfNew {seen : List α} {item : α}
    (h : seen.Nodup) : (addIfNew seen item).Nodup := by
  unfold addIfNew
  split
  next => exact h
  next hitem =>
    refine List.nodup_append.2 ⟨h, by simp, ?_⟩
    rintro a ha b hb rfl
    exact hitem (List.mem_singleton.1 hb ▸ ha)

theorem getElem?_addIfNew_of_ne {seen : List α} {item other : α}
    (differs : other ≠ item) {place : Nat} :
    (addIfNew seen item)[place]? = some other ↔ seen[place]? = some other := by
  unfold addIfNew
  split
  next => rfl
  next =>
    rw [List.getElem?_append]
    split
    next => rfl
    next beyond =>
      rw [List.getElem?_eq_none (Nat.le_of_not_lt beyond)]
      constructor
      · intro atEnd
        exact absurd (List.mem_singleton.1 (List.mem_of_getElem? atEnd)) differs
      · intro none
        contradiction

theorem prefix_addIfNew (seen : List α) (item : α) : seen <+: addIfNew seen item := by
  unfold addIfNew
  split
  · exact List.prefix_refl seen
  · exact List.prefix_append seen [item]

theorem prefix_foldl_addIfNew (items seen : List α) : seen <+: items.foldl addIfNew seen := by
  induction items generalizing seen with
  | nil => exact List.prefix_refl seen
  | cons item items ih => exact (prefix_addIfNew seen item).trans (ih _)

theorem mem_foldl_addIfNew {items seen : List α} {a : α} :
    a ∈ items.foldl addIfNew seen ↔ a ∈ seen ∨ a ∈ items := by
  induction items generalizing seen with
  | nil => simp
  | cons item items ih => simp [ih, mem_addIfNew, or_assoc]

theorem nodup_foldl_addIfNew {items seen : List α}
    (h : seen.Nodup) : (items.foldl addIfNew seen).Nodup := by
  induction items generalizing seen with
  | nil => exact h
  | cons item items ih => exact ih (nodup_addIfNew h)

theorem filter_addIfNew (holds : α → Bool) (seen : List α) (item : α) :
    (addIfNew seen item).filter holds =
      if holds item then addIfNew (seen.filter holds) item else seen.filter holds := by
  unfold addIfNew
  by_cases kept : holds item
  · by_cases member : item ∈ seen <;> simp [kept, member]
  · by_cases member : item ∈ seen <;> simp [kept, member]

theorem filter_foldl_addIfNew (holds : α → Bool) (items seen : List α) :
    (items.foldl addIfNew seen).filter holds =
      (items.filter holds).foldl addIfNew (seen.filter holds) := by
  induction items generalizing seen with
  | nil => rfl
  | cons item items ih =>
    rw [List.foldl_cons, ih, filter_addIfNew]
    by_cases kept : holds item
    · rw [List.filter_cons_of_pos kept, List.foldl_cons, if_pos kept]
    · rw [List.filter_cons_of_neg kept, if_neg kept]

theorem foldl_addIfNew_of_subset {items seen : List α}
    (present : ∀ a ∈ items, a ∈ seen) : items.foldl addIfNew seen = seen := by
  induction items with
  | nil => rfl
  | cons item items ih =>
    rw [List.forall_mem_cons] at present
    rw [List.foldl_cons, addIfNew, if_pos present.1, ih present.2]

theorem foldl_addIfNew_of_begins {seen all : List α}
    (begins : seen <+: all) (distinct : all.Nodup) : all.foldl addIfNew seen = all := by
  obtain ⟨rest, rfl⟩ := begins
  rw [List.foldl_append, foldl_addIfNew_of_subset fun a member => member]
  induction rest generalizing seen with
  | nil => rw [List.append_nil, List.foldl_nil]
  | cons item rest ih =>
    have absent : item ∉ seen := fun member =>
      (List.nodup_append.1 distinct).2.2 item member item List.mem_cons_self rfl
    have moved : seen ++ item :: rest = (seen ++ [item]) ++ rest := by simp
    rw [List.foldl_cons, addIfNew, if_neg absent, moved]
    exact ih (moved ▸ distinct)

@[simp] theorem mem_firstSeen {items : List α} {a : α} : a ∈ firstSeen items ↔ a ∈ items := by
  simp [firstSeen, mem_foldl_addIfNew]

theorem nodup_firstSeen (items : List α) : (firstSeen items).Nodup :=
  nodup_foldl_addIfNew List.nodup_nil

theorem foldl_addIfNew_eq_append (items seen : List α) :
    items.foldl addIfNew seen = seen ++ (items.filter (· ∉ seen)).eraseDups := by
  induction items generalizing seen with
  | nil => simp
  | cons item items ih =>
    rw [List.foldl_cons, ih]
    by_cases member : item ∈ seen
    · rw [addIfNew, if_pos member, List.filter_cons_of_neg (by simpa using member)]
    · have later : (items.filter (· ∉ seen ++ [item])) =
          (items.filter (· ∉ seen)).filter (!· == item) := by
        rw [List.filter_filter]
        refine List.filter_congr fun a _ => ?_
        by_cases same : a = item <;> simp [same]
      rw [addIfNew, if_neg member, List.filter_cons_of_pos (by simpa using member),
        List.eraseDups_cons, later, List.append_assoc, List.singleton_append]

theorem firstSeen_eq_eraseDups (items : List α) : firstSeen items = items.eraseDups := by
  rw [firstSeen, foldl_addIfNew_eq_append, List.nil_append, List.filter_eq_self.2 (by simp)]

end

end TableQuery
