import TableQuery.Proofs.Group.Partition

/-! Groups told apart by the texts of their values. Where no text contains the separator, a group
key can be split into the texts that it was joined from, so that rows meet in a group exactly when
their values have the same texts. -/

namespace TableQuery

def keyTexts (values : List Value) : List String := values.map Value.keyText

def DashFree (values : List Value) : Prop := ∀ value ∈ values, '-' ∉ value.keyText.toList

instance (values : List Value) : Decidable (DashFree values) :=
  inferInstanceAs (Decidable (∀ value ∈ values, '-' ∉ value.keyText.toList))

theorem splitOn_groupKey {values : List Value} (free : DashFree values) (nonempty : values ≠ []) :
    (groupKey values).toList.splitOn '-' = (keyTexts values).map String.toList := by
  have separator : "-".toList = ['-'] := rfl
  rw [groupKey, String.toList_intercalate, separator, keyTexts]
  apply List.splitOn_intercalate
  · intro text member
    simp only [List.map_map, List.mem_map, Function.comp_apply] at member
    obtain ⟨value, inValues, rfl⟩ := member
    exact free value inValues
  · simpa using nonempty

theorem groupKey_eq_iff {values others : List Value} (sameLength : values.length = others.length)
    (free : DashFree values) (othersFree : DashFree others) :
    groupKey values = groupKey others ↔ keyTexts values = keyTexts others := by
  constructor
  · intro same
    cases values with
    | nil => rw [List.length_eq_zero_iff.1 sameLength.symm]
    | cons value rest =>
      have nonempty : others ≠ [] := by
        rintro rfl
        contradiction
      have split := splitOn_groupKey othersFree nonempty
      rw [← same, splitOn_groupKey free (List.cons_ne_nil value rest)] at split
      exact List.map_injective_iff.2 (fun _ _ => String.toList_inj.1) split
  · intro same
    rw [groupKey, ← keyTexts, same]
    rfl

def rowTexts (groupBy : List String) (row : Row) : List String := keyTexts (groupValues groupBy row)

theorem rowKey_eq_iff {groupBy : List String} {row other : Row}
    (free : DashFree (groupValues groupBy row)) (otherFree : DashFree (groupValues groupBy other)) :
    rowKey groupBy row = rowKey groupBy other ↔ rowTexts groupBy row = rowTexts groupBy other :=
  groupKey_eq_iff (by simp [groupValues]) free otherFree

theorem groupRows_rowKey {groupBy : List String} {rows : List Row}
    (free : ∀ row ∈ rows, DashFree (groupValues groupBy row)) {row : Row} (member : row ∈ rows) :
    groupRows groupBy rows (rowKey groupBy row) =
      rows.filter (rowTexts groupBy · = rowTexts groupBy row) := by
  rw [groupRows]
  apply List.filter_congr
  intro other inRows
  rw [decide_eq_decide]
  exact rowKey_eq_iff (free other inRows) (free row member)

theorem groupKeys_prefix (groupBy : List String) (rows more : List Row) :
    groupKeys groupBy rows <+: groupKeys groupBy (rows ++ more) := by
  rw [groupKeys, groupKeys, List.map_append, firstSeen, firstSeen, List.foldl_append]
  exact prefix_foldl_addIfNew _ _

def groupPlace (groupBy : List String) (fields : List Field) (before : List Row) (row : Row) :
    Nat :=
  ((before.foldl (Grouping.add groupBy fields) .empty).place (groupValues groupBy row)).2

section

variable {groupBy : List String} {fields : List Field} {rows : List Row}

theorem Grouping.Partitions.getElem?_place {grouping : Grouping}
    (h : grouping.Partitions groupBy fields rows) (row : Row) :
    (groupKeys groupBy (rows ++ [row]))[(grouping.place (groupValues groupBy row)).2]? =
      some (rowKey groupBy row) := by
  rw [groupKeys_concat]
  cases found : grouping.places.lookup (rowKey groupBy row) with
  | some place =>
    have known := (h.places _ _).1 found
    rw [addIfNew, if_pos (List.mem_of_getElem? known)]
    rw [rowKey] at found
    simpa only [Grouping.place, found] using known
  | none =>
    rw [addIfNew, if_neg (h.not_mem_of_lookup found)]
    rw [rowKey] at found
    simp only [Grouping.place, found, h.size, List.getElem?_concat_length]

/-- The keys of later rows stand behind, so that the place stays that of the row's key. -/
theorem getElem?_groupPlace {i : Nat} {row : Row} (here : rows[i]? = some row) :
    (groupKeys groupBy rows)[groupPlace groupBy fields (rows.take i) row]? =
      some (rowKey groupBy row) := by
  have read := (Grouping.partitions_empty groupBy fields).foldl_add (rows.take i)
  have upTo : [] ++ rows.take i ++ [row] = rows.take (i + 1) := by
    rw [List.nil_append, List.take_add_one, here, Option.toList_some]
  have placed :
      (groupKeys groupBy (rows.take (i + 1)))[groupPlace groupBy fields (rows.take i) row]? =
        some (rowKey groupBy row) :=
    upTo ▸ read.getElem?_place row
  obtain ⟨later, whole⟩ := groupKeys_prefix groupBy (rows.take (i + 1)) (rows.drop (i + 1))
  rw [List.take_append_drop] at whole
  rw [← whole, List.getElem?_append_left (List.getElem?_eq_some_iff.1 placed).1, placed]

theorem groupPlace_eq_iff {i j : Nat} {row other : Row} (here : rows[i]? = some row)
    (there : rows[j]? = some other) :
    groupPlace groupBy fields (rows.take i) row = groupPlace groupBy fields (rows.take j) other ↔
      rowKey groupBy row = rowKey groupBy other := by
  have placed : (groupKeys groupBy rows)[groupPlace groupBy fields (rows.take i) row]? =
      some (rowKey groupBy row) := getElem?_groupPlace here
  have otherPlaced : (groupKeys groupBy rows)[groupPlace groupBy fields (rows.take j) other]? =
      some (rowKey groupBy other) := getElem?_groupPlace there
  constructor
  · intro same
    rw [same, otherPlaced] at placed
    exact (Option.some.inj placed).symm
  · intro same
    rw [← same] at otherPlaced
    exact (List.getElem?_inj (List.getElem?_eq_some_iff.1 placed).1
      (nodup_groupKeys groupBy rows)).1 (placed.trans otherPlaced.symm)

end

/-- Two lists of dash-free values, equally long, have one group key exactly when their texts agree
one by one. Hence rows grouped by such values are taken in at one place exactly when their values
have the same texts, and the row of the result at that place is made from all rows with these
texts. -/
theorem groupKey_separates :
    (∀ values others : List Value, values.length = others.length → DashFree values →
      DashFree others → (groupKey values = groupKey others ↔ keyTexts values = keyTexts others)) ∧
    ∀ (groupBy : List String) (fields : List Field) (rows : List Row),
      (∀ row ∈ rows, DashFree (groupValues groupBy row)) →
      ∀ (i : Nat) (row : Row), rows[i]? = some row →
        (∀ (j : Nat) (other : Row), rows[j]? = some other →
          (groupPlace groupBy fields (rows.take i) row =
              groupPlace groupBy fields (rows.take j) other ↔
            rowTexts groupBy row = rowTexts groupBy other)) ∧
        (aggregateGroups groupBy fields rows)[groupPlace groupBy fields (rows.take i) row]? =
          some ((Group.ofRows groupBy fields
            (rows.filter (rowTexts groupBy · = rowTexts groupBy row))).row groupBy fields) := by
  refine ⟨fun values others => groupKey_eq_iff, ?_⟩
  intro groupBy fields rows free i row here
  have member := List.mem_of_getElem? here
  constructor
  · intro j other there
    rw [groupPlace_eq_iff here there]
    exact rowKey_eq_iff (free row member) (free other (List.mem_of_getElem? there))
  · rw [aggregateGroups_eq_map, List.getElem?_map, getElem?_groupPlace here, Option.map_some,
      groupRows_rowKey free member]

def gappedNames : List Row :=
  [.ofColumns [(.plain "first", .text "Ann")], .ofColumns [(.plain "last", .text "Ann")],
    .ofColumns [(.plain "first", .text "Ann"), (.plain "last", .null)]]

def countOnly : List Field := [⟨"COUNT(*)", .aggregate .count⟩]

theorem groupKey_separates_gappedNames :
    groupKey [.text "Ann", .null] ≠ groupKey [.null, .text "Ann"] ∧
    (∀ row ∈ gappedNames, DashFree (groupValues ["first", "last"] row)) ∧
    groupPlace ["first", "last"] countOnly (gappedNames.take 0) gappedNames[0] =
      groupPlace ["first", "last"] countOnly (gappedNames.take 2) gappedNames[2] ∧
    groupPlace ["first", "last"] countOnly (gappedNames.take 0) gappedNames[0] ≠
      groupPlace ["first", "last"] countOnly (gappedNames.take 1) gappedNames[1] := by
  obtain ⟨keys, rows⟩ := groupKey_separates
  have free : ∀ row ∈ gappedNames, DashFree (groupValues ["first", "last"] row) := by decide
  have places := rows ["first", "last"] countOnly gappedNames free 0 gappedNames[0] rfl
  refine ⟨?_, free, ?_, ?_⟩
  · have texts := keys [.text "Ann", .null] [.null, .text "Ann"] rfl (by decide) (by decide)
    exact mt texts.1 (by decide)
  · exact (places.1 2 gappedNames[2] rfl).2 (by decide)
  · exact mt (places.1 1 gappedNames[1] rfl).1 (by decide)

/-- With a dash in a text, rows with other texts can have the same key. -/
example : groupKey [.text "a-b", .text "c"] = groupKey [.text "a", .text "b-c"] := by decide

end TableQuery
