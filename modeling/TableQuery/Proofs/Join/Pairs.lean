import TableQuery.Join

/-! The rows that the joins pair up. An outer join goes through its outer table and gives each row
its partners in order, or none at all in place of one; its result is that list of pairs, each built
into a row. -/

namespace TableQuery

def partners (holds : Row → Bool) (inner : List Row) : List (Option Row) :=
  match inner.filter holds with
  | [] => [none]
  | found => found.map some

theorem some_mem_partners {holds : Row → Bool} {inner : List Row} {other : Row} :
    some other ∈ partners holds inner ↔ other ∈ inner ∧ holds other := by
  rw [← List.mem_filter, partners]
  split
  next empty => simp [empty]
  next found _ => simp

theorem none_mem_partners {holds : Row → Bool} {inner : List Row} :
    none ∈ partners holds inner ↔ ∀ other ∈ inner, holds other = false := by
  have unmatched : inner.filter holds = [] ↔ ∀ other ∈ inner, holds other = false := by
    simp [List.filter_eq_nil_iff]
  rw [← unmatched, partners]
  split
  next empty => simp [empty]
  next found nonempty => simpa using nonempty

def outerPairs (holds : Row → Row → Bool) (outer inner : List Row) : List (Row × Option Row) :=
  outer.flatMap fun row => (partners (holds row) inner).map fun found => (row, found)

theorem mem_outerPairs {holds : Row → Row → Bool} {outer inner : List Row} {row : Row}
    {found : Option Row} :
    (row, found) ∈ outerPairs holds outer inner ↔
      row ∈ outer ∧ found ∈ partners (holds row) inner := by
  simp [outerPairs]

theorem toList_pushMatches (holds : Row → Bool) (build : Row → Row) (inner : List Row)
    (out : Array Row) :
    (pushMatches holds build inner out).toList = out.toList ++ (inner.filter holds).map build := by
  induction inner generalizing out with
  | nil => simp [pushMatches]
  | cons other rest ih =>
    have step : pushMatches holds build (other :: rest) out =
        pushMatches holds build rest (if holds other then out.push (build other) else out) := rfl
    rw [step, ih]
    by_cases h : holds other <;> simp [h]

theorem toList_pushOuter (holds : Row → Row → Bool) (build : Row → Option Row → Row)
    (inner : List Row) (out : Array Row) (row : Row) :
    (pushOuter holds build inner out row).toList =
      out.toList ++ (partners (holds row) inner).map (build row) := by
  have pushed := toList_pushMatches (holds row) (fun other => build row (some other)) inner out
  have size := congrArg List.length pushed
  simp only [Array.length_toList, List.length_append, List.length_map] at size
  unfold pushOuter partners
  cases matched : inner.filter (holds row) with
  | nil =>
    simp only [matched, List.length_nil, Nat.add_zero] at size
    simp [size, pushed, matched]
  | cons other rest =>
    have grown : (pushMatches (holds row) (fun other => build row (some other)) inner out).size ≠
        out.size := by
      simp only [matched, List.length_cons] at size
      omega
    simp [grown, pushed, matched]

theorem outerJoin_eq_map (holds : Row → Row → Bool) (build : Row → Option Row → Row)
    (outer inner : List Row) :
    outerJoin holds build outer inner =
      (outerPairs holds outer inner).map fun pair => build pair.1 pair.2 := by
  have loop (out : Array Row) : (outer.foldl (pushOuter holds build inner) out).toList =
      out.toList ++ (outerPairs holds outer inner).map fun pair => build pair.1 pair.2 := by
    induction outer generalizing out with
    | nil => simp [outerPairs]
    | cons row rest ih =>
      rw [List.foldl_cons, ih, toList_pushOuter]
      simp [outerPairs]
  simpa [outerJoin] using loop #[]

def JoinKind.isOuter : JoinKind → Bool
  | left | right => true
  | inner | unsupported _ => false

theorem matched_mem_joinRows {kind : JoinKind} (supported : kind.isSupported) {spec : JoinSpec}
    {base joined : List Row} {b j : Row} (hb : b ∈ base) (hj : j ∈ joined)
    (matched : rowsMatch spec.condition b j) :
    ∃ rows, joinRows kind spec base joined = .ok rows ∧
      Pair.row ⟨some b, some j⟩ spec kind.isOuter ∈ rows := by
  cases kind with
  | inner =>
    refine ⟨_, rfl, List.mem_flatMap.2 ⟨b, hb, ?_⟩⟩
    exact List.mem_map.2 ⟨j, List.mem_filter.2 ⟨hj, matched⟩, rfl⟩
  | left =>
    have pair : (b, some j) ∈ outerPairs (rowsMatch spec.condition) base joined :=
      mem_outerPairs.2 ⟨hb, some_mem_partners.2 ⟨hj, matched⟩⟩
    refine ⟨_, rfl, ?_⟩
    rw [leftJoin, outerJoin_eq_map]
    exact List.mem_map.2 ⟨_, pair, rfl⟩
  | right =>
    have pair : (j, some b) ∈ outerPairs (fun j b => rowsMatch spec.condition b j) joined base :=
      mem_outerPairs.2 ⟨hj, some_mem_partners.2 ⟨hb, matched⟩⟩
    refine ⟨_, rfl, ?_⟩
    rw [rightJoin, outerJoin_eq_map]
    exact List.mem_map.2 ⟨_, pair, rfl⟩
  | unsupported name => simp [JoinKind.isSupported] at supported

end TableQuery
