import TableQuery.Proofs.Join.Kinds

/-! What the three joins make of one relation between two tables. The inner join has a row for each
match; an outer join has one more for each row of its outer table without a match, and its matched
rows answer the requested fields as the rows of the inner join do. -/

namespace TableQuery

def unmatched (holds : Row → Row → Bool) (outer inner : List Row) : List Row :=
  outer.filter fun row => inner.all fun other => !holds row other

/-- The pairs go through the outer rows in order. They hold each match once, and each outer row
without a match once. -/
structure Covers (holds : Row → Row → Bool) (outer inner : List Row)
    (pairs : List (Row × Option Row)) : Prop where
  ordered : pairs.map Prod.fst = outer.flatMap fun row =>
    List.replicate (max 1 (inner.filter (holds row)).length) row
  matched : pairs.filterMap (fun pair => pair.2.map fun other => (pair.1, other)) =
    (outer ×ˢ inner).filter fun pair => holds pair.1 pair.2
  alone : (pairs.filter (·.2.isNone)).map Prod.fst = unmatched holds outer inner

theorem partners_length (holds : Row → Bool) (inner : List Row) :
    (partners holds inner).length = max 1 (inner.filter holds).length := by
  unfold partners
  split
  next empty => simp [empty]
  next nonempty =>
    have pos : 0 < (inner.filter holds).length := List.length_pos_iff.2 nonempty
    rw [List.length_map]
    omega

theorem filterMap_partners (holds : Row → Bool) (inner : List Row) :
    (partners holds inner).filterMap id = inner.filter holds := by
  unfold partners
  split
  next empty => simp [empty]
  next => simp [List.filterMap_map]

theorem filter_isNone_partners (holds : Row → Bool) (inner : List Row) :
    (partners holds inner).filter Option.isNone =
      if inner.all fun other => !holds other then [none] else [] := by
  have empty_iff : (inner.all fun other => !holds other) ↔ inner.filter holds = [] := by
    simp [List.filter_eq_nil_iff]
  unfold partners
  split
  next empty => simp [empty_iff.2 empty]
  next nonempty => simp [mt empty_iff.1 nonempty, List.filter_map, Function.comp_def]

theorem covers_outerPairs (holds : Row → Row → Bool) (outer inner : List Row) :
    Covers holds outer inner (outerPairs holds outer inner) where
  ordered := by
    simp [outerPairs, List.map_flatMap, Function.comp_def, partners_length]
  matched := by
    rw [filter_product, outerPairs, List.filterMap_flatMap]
    congr 1
    funext row
    rw [List.filterMap_map, ← filterMap_partners, List.map_filterMap]
    rfl
  alone := by
    induction outer with
    | nil => rfl
    | cons row rest ih =>
      have here : (((partners (holds row) inner).map fun found => (row, found)).filter
          (·.2.isNone)).map Prod.fst =
            if inner.all fun other => !holds row other then [row] else [] := by
        rw [List.filter_map, List.map_map]
        change ((partners (holds row) inner).filter Option.isNone).map (fun _ => row) = _
        rw [filter_isNone_partners]
        split <;> rfl
      have step : outerPairs holds (row :: rest) inner =
          (partners (holds row) inner).map (fun found => (row, found)) ++
            outerPairs holds rest inner := rfl
      rw [step, List.filter_append, List.map_append, here, ih, unmatched, unmatched,
        List.filter_cons]
      split <;> rfl

theorem Covers.length {holds : Row → Row → Bool} {outer inner : List Row}
    {pairs : List (Row × Option Row)} (covers : Covers holds outer inner pairs) :
    pairs.length = ((outer ×ˢ inner).filter fun pair => holds pair.1 pair.2).length +
      (unmatched holds outer inner).length := by
  rw [← covers.matched, ← covers.alone, List.length_map]
  clear covers
  induction pairs with
  | nil => rfl
  | cons pair rest ih =>
    obtain ⟨row, found⟩ := pair
    cases found with
    | none => simp [ih]; omega
    | some other => simp [ih]; omega

theorem filter_isSome_eq_map (pairs : List (Row × Option Row)) :
    pairs.filter (·.2.isSome) =
      (pairs.filterMap fun pair => pair.2.map fun other => (pair.1, other)).map
        fun pair => (pair.1, some pair.2) := by
  induction pairs with
  | nil => rfl
  | cons pair rest ih =>
    obtain ⟨row, found⟩ := pair
    cases found with
    | none => simpa using ih
    | some other => simpa using ih

theorem map_swap_matchedPairs_perm (condition : JoinCondition) (base joined : List Row) :
    ((matchedPairs condition base joined).map Prod.swap).Perm
      ((joined ×ˢ base).filter fun pair => rowsMatch condition pair.2 pair.1) := by
  have perm := (map_swap_product_perm base joined).filter
    fun pair => rowsMatch condition pair.2 pair.1
  rwa [List.filter_map] at perm

theorem Pair.get?_row_of_belongsTo {pair : Pair} {spec : JoinSpec}
    (plain : ∀ b ∈ pair.base, b.PlainKeys) (outer : Bool) {field : String}
    (requested : field ∈ spec.fields) (own : (ColumnKey.ofText field).belongsTo spec.baseTable) :
    (pair.row spec outer).get? field = pair.value? spec.baseTable (.ofText field) := by
  have bare : pair.value? spec.baseTable (.plain (ColumnKey.ofText field).name) =
      pair.value? spec.baseTable (.ofText field) := by
    have bareOwn : (ColumnKey.plain (ColumnKey.ofText field).name).belongsTo spec.baseTable := rfl
    simp [Pair.value?, own, bareOwn]
  rw [Pair.get?_row plain outer requested, bare]
  split <;> simp

namespace JoinSpec

def answers (spec : JoinSpec) (row : Row) : List (Option Value) := spec.fields.map row.get?

def innerRow (spec : JoinSpec) (pair : Row × Row) : Row :=
  Pair.row ⟨some pair.1, some pair.2⟩ spec false

def leftRow (spec : JoinSpec) (pair : Row × Option Row) : Row :=
  Pair.row ⟨some pair.1, pair.2⟩ spec true

def rightRow (spec : JoinSpec) (base : List Row) (pair : Row × Option Row) : Row :=
  Pair.row ⟨pair.2.or (base.head?.map Row.nulled), some pair.1⟩ spec true

theorem answers_matched (spec : JoinSpec) {b : Row} (plain : b.PlainKeys) (j : Row)
    (outer : Bool) :
    spec.answers (Pair.row ⟨some b, some j⟩ spec outer) = spec.answers (spec.innerRow (b, j)) := by
  have plainPair : ∀ row ∈ some b, row.PlainKeys := by simpa using plain
  refine List.map_congr_left fun field requested => ?_
  rw [Pair.get?_row plainPair outer requested, innerRow, Pair.get?_row plainPair false requested]

structure Covered (spec : JoinSpec) (base joined : List Row) : Prop where
  inner_rows : innerJoin spec base joined =
    (matchedPairs spec.condition base joined).map spec.innerRow
  left_rows : leftJoin spec base joined = (leftPairs spec.condition base joined).map spec.leftRow
  left_covers : Covers (rowsMatch spec.condition) base joined
    (leftPairs spec.condition base joined)
  left_length : (leftJoin spec base joined).length = (innerJoin spec base joined).length +
    (unmatched (rowsMatch spec.condition) base joined).length
  left_answers : (((leftPairs spec.condition base joined).filter (·.2.isSome)).map
    spec.leftRow).map spec.answers = (innerJoin spec base joined).map spec.answers
  left_padding : ∀ b ∈ unmatched (rowsMatch spec.condition) base joined, ∀ field ∈ spec.fields,
    (spec.leftRow (b, none)).get? field =
      if (ColumnKey.ofText field).belongsTo spec.baseTable then
        b.get? (ColumnKey.ofText field).name else some .null
  right_rows : rightJoin spec base joined =
    (rightPairs spec.condition base joined).map (spec.rightRow base)
  right_covers : Covers (fun j b => rowsMatch spec.condition b j) joined base
    (rightPairs spec.condition base joined)
  right_length : (rightJoin spec base joined).length = (innerJoin spec base joined).length +
    (unmatched (fun j b => rowsMatch spec.condition b j) joined base).length
  right_answers : ((((rightPairs spec.condition base joined).filter (·.2.isSome)).map
    (spec.rightRow base)).map spec.answers).Perm ((innerJoin spec base joined).map spec.answers)
  right_padding : ∀ j ∈ unmatched (fun j b => rowsMatch spec.condition b j) joined base,
    ∀ field ∈ spec.fields,
      ((ColumnKey.ofText field).belongsTo spec.baseTable →
        (spec.rightRow base (j, none)).get? field =
          match base.head? with
          | none => some .null
          | some first => (first.get? (ColumnKey.ofText field).name).map fun _ => .null) ∧
      ∀ value, ¬ (ColumnKey.ofText field).belongsTo spec.baseTable →
        j.get? (ColumnKey.ofText field).name = some value →
          (spec.rightRow base (j, none)).get? field = some value

section

variable {spec : JoinSpec} {base joined : List Row}

theorem left_answers (plain : ∀ b ∈ base, b.PlainKeys) :
    (((leftPairs spec.condition base joined).filter (·.2.isSome)).map spec.leftRow).map
      spec.answers = (innerJoin spec base joined).map spec.answers := by
  rw [filter_isSome_eq_map, leftPairs, (covers_outerPairs _ base joined).matched,
    innerJoin_eq_map, List.map_map, List.map_map, List.map_map]
  refine List.map_congr_left fun pair member => ?_
  exact answers_matched spec (plain pair.1 (mem_matchedPairs.1 member).1) pair.2 true

theorem right_answers (plain : ∀ b ∈ base, b.PlainKeys) :
    ((((rightPairs spec.condition base joined).filter (·.2.isSome)).map
      (spec.rightRow base)).map spec.answers).Perm
        ((innerJoin spec base joined).map spec.answers) := by
  rw [filter_isSome_eq_map, rightPairs, (covers_outerPairs _ joined base).matched,
    innerJoin_eq_map, List.map_map, List.map_map, List.map_map]
  refine ((map_swap_matchedPairs_perm spec.condition base joined).map _).symm.trans ?_
  rw [List.map_map]
  refine List.Perm.of_eq (List.map_congr_left fun pair member => ?_)
  exact answers_matched spec (plain pair.1 (mem_matchedPairs.1 member).1) pair.2 true

theorem get?_leftRow_alone {b : Row} (plain : b.PlainKeys) {field : String}
    (requested : field ∈ spec.fields) :
    (spec.leftRow (b, none)).get? field =
      if (ColumnKey.ofText field).belongsTo spec.baseTable then
        b.get? (ColumnKey.ofText field).name else some .null := by
  have plainPair : ∀ row ∈ some b, row.PlainKeys := by simpa using plain
  split
  next own =>
    rw [leftRow, Pair.get?_row_of_belongsTo plainPair true requested own]
    simp [Pair.value?, own]
  next foreign =>
    rw [leftRow, Pair.get?_row plainPair true requested]
    simp [Pair.value?, foreign]

theorem plain_standIn (plain : ∀ b ∈ base, b.PlainKeys) :
    ∀ row ∈ base.head?.map Row.nulled, row.PlainKeys := by
  intro row stand
  obtain ⟨first, head, rfl⟩ := Option.map_eq_some_iff.1 stand
  exact (plain first (List.mem_of_head? head)).nulled

end

/-- The three joins of two tables see the same matches, and the outer joins add the rows that have
none. A padding row of a right join has null where the first base row has a column. -/
theorem covered {spec : JoinSpec} {base joined : List Row} (plain : ∀ b ∈ base, b.PlainKeys) :
    spec.Covered base joined where
  inner_rows := innerJoin_eq_map spec base joined
  left_rows := leftJoin_eq_map spec base joined
  left_covers := covers_outerPairs _ base joined
  left_length := by
    rw [leftJoin_eq_map, innerJoin_eq_map, List.length_map, List.length_map]
    exact (covers_outerPairs _ base joined).length
  left_answers := left_answers plain
  left_padding := by
    intro b member field requested
    exact get?_leftRow_alone (plain b (List.mem_filter.1 member).1) requested
  right_rows := rightJoin_eq_map spec base joined
  right_covers := covers_outerPairs _ joined base
  right_length := by
    have sameCount := (map_swap_matchedPairs_perm spec.condition base joined).length_eq
    rw [List.length_map] at sameCount
    rw [rightJoin_eq_map, innerJoin_eq_map, List.length_map, List.length_map, sameCount]
    exact (covers_outerPairs _ joined base).length
  right_answers := right_answers plain
  right_padding := by
    intro j _ field requested
    constructor
    · intro own
      rw [rightRow, Pair.get?_row_of_belongsTo (plain_standIn plain) true requested own]
      cases head : base.head? with
      | none => simp [Pair.value?, own]
      | some first => simp [Pair.value?, own, Row.get?_nulled]
    · intro value foreign held
      rw [rightRow, Pair.get?_row (plain_standIn plain) true requested]
      simp [Pair.value?, foreign, held]

theorem covered_students : (∀ b ∈ ungradedStudents, b.PlainKeys) ∧
    gradesByCourse.Covered ungradedStudents twoEnrollments :=
  ⟨by decide, covered (by decide)⟩

/-- Nobody takes Biology, and since the first student has no grade, its row has none either. -/
theorem rightRow_without_grade :
    (∀ b ∈ ungradedStudents, b.PlainKeys) ∧ (∀ j ∈ twoEnrollments, j.PlainKeys) ∧
      ¬ ∀ j ∈ unmatched (fun j b => rowsMatch gradesByCourse.condition b j) twoEnrollments
          ungradedStudents,
        ∀ field ∈ gradesByCourse.fields,
          (ColumnKey.ofText field).belongsTo gradesByCourse.baseTable →
            (gradesByCourse.rightRow ungradedStudents (j, none)).get? field = some .null := by
  decide

end JoinSpec

end TableQuery
