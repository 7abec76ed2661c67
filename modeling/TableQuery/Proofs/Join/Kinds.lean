import TableQuery.Proofs.Join.Swap
import TableQuery.Proofs.List

/-! The pairs that each kind of join goes through. A join builds one row from each of its pairs, in
order; a pair is a match, or a row of the outer table that has none. -/

namespace TableQuery

def matchedPairs (condition : JoinCondition) (base joined : List Row) : List (Row × Row) :=
  (base ×ˢ joined).filter fun pair => rowsMatch condition pair.1 pair.2

def leftPairs (condition : JoinCondition) (base joined : List Row) : List (Row × Option Row) :=
  outerPairs (rowsMatch condition) base joined

def JoinKind.pairs (kind : JoinKind) (condition : JoinCondition) (base joined : List Row) :
    List Pair :=
  match kind with
  | inner => (matchedPairs condition base joined).map fun pair => ⟨some pair.1, some pair.2⟩
  | left => (leftPairs condition base joined).map fun pair => ⟨some pair.1, pair.2⟩
  | right => (rightPairs condition base joined).map fun pair => ⟨pair.2, some pair.1⟩
  | unsupported _ => []

/-- A row of nulls in the shape of the first base row stands in for a missing base row. -/
def Pair.padded (pair : Pair) (base : List Row) : Pair :=
  { pair with base := pair.base.or (base.head?.map Row.nulled) }

@[simp] theorem Pair.padded_base_some (b : Row) (found : Option Row) (base : List Row) :
    Pair.padded ⟨some b, found⟩ base = ⟨some b, found⟩ := rfl

theorem innerJoin_eq_map (spec : JoinSpec) (base joined : List Row) :
    innerJoin spec base joined = (matchedPairs spec.condition base joined).map fun pair =>
      Pair.row ⟨some pair.1, some pair.2⟩ spec false := by
  rw [innerJoin, matchedPairs, filter_product, List.map_flatMap]
  simp only [List.map_map, Function.comp_def]

theorem leftJoin_eq_map (spec : JoinSpec) (base joined : List Row) :
    leftJoin spec base joined = (leftPairs spec.condition base joined).map fun pair =>
      Pair.row ⟨some pair.1, pair.2⟩ spec true := by
  rw [leftJoin, outerJoin_eq_map, leftPairs]

theorem joinRows_eq_map {kind : JoinKind} (supported : kind.isSupported) (spec : JoinSpec)
    (base joined : List Row) :
    joinRows kind spec base joined =
      .ok ((kind.pairs spec.condition base joined).map fun pair =>
        (pair.padded base).row spec kind.isOuter) := by
  cases kind with
  | inner => simp [joinRows, innerJoin_eq_map, JoinKind.pairs, JoinKind.isOuter, Function.comp_def]
  | left => simp [joinRows, leftJoin_eq_map, JoinKind.pairs, JoinKind.isOuter, Function.comp_def]
  | right =>
    simp [joinRows, rightJoin_eq_map, JoinKind.pairs, JoinKind.isOuter, Function.comp_def,
      Pair.padded]
  | unsupported name => simp [JoinKind.isSupported] at supported

theorem isSupported_of_joinRows {kind : JoinKind} {spec : JoinSpec} {base joined rows : List Row}
    (succeeds : joinRows kind spec base joined = .ok rows) : kind.isSupported := by
  cases kind with
  | unsupported name => cases succeeds
  | _ => rfl

inductive JoinKind.Combines (kind : JoinKind) (condition : JoinCondition) (base joined : List Row) :
    Pair → Prop where
  | matched {b j : Row} : b ∈ base → j ∈ joined → rowsMatch condition b j →
      Combines kind condition base joined ⟨some b, some j⟩
  | baseAlone {b : Row} : kind = .left → b ∈ base →
      (∀ j ∈ joined, rowsMatch condition b j = false) →
      Combines kind condition base joined ⟨some b, none⟩
  | joinedAlone {j : Row} : kind = .right → j ∈ joined →
      (∀ b ∈ base, rowsMatch condition b j = false) →
      Combines kind condition base joined ⟨none, some j⟩

theorem JoinKind.Combines.base_mem {kind : JoinKind} {condition : JoinCondition}
    {base joined : List Row} {pair : Pair} (combines : kind.Combines condition base joined pair) :
    ∀ b ∈ pair.base, b ∈ base := by
  cases combines with
  | matched hb hj matched => simpa using hb
  | baseAlone left hb alone => simpa using hb
  | joinedAlone right hj alone => simp

theorem JoinKind.Combines.joined_mem {kind : JoinKind} {condition : JoinCondition}
    {base joined : List Row} {pair : Pair} (combines : kind.Combines condition base joined pair) :
    ∀ j ∈ pair.joined, j ∈ joined := by
  cases combines with
  | matched hb hj matched => simpa using hj
  | baseAlone left hb alone => simp
  | joinedAlone right hj alone => simpa using hj

theorem mem_matchedPairs {condition : JoinCondition} {base joined : List Row} {b j : Row} :
    (b, j) ∈ matchedPairs condition base joined ↔
      b ∈ base ∧ j ∈ joined ∧ rowsMatch condition b j := by
  simp [matchedPairs, and_assoc]

theorem combines_of_mem_pairs {kind : JoinKind} {condition : JoinCondition}
    {base joined : List Row} {pair : Pair} (member : pair ∈ kind.pairs condition base joined) :
    kind.Combines condition base joined pair := by
  cases kind with
  | inner =>
    obtain ⟨⟨b, j⟩, found, rfl⟩ := List.mem_map.1 member
    obtain ⟨hb, hj, matched⟩ := mem_matchedPairs.1 found
    exact .matched hb hj matched
  | left =>
    obtain ⟨⟨b, partner⟩, found, rfl⟩ := List.mem_map.1 member
    obtain ⟨hb, hpartner⟩ := mem_outerPairs.1 found
    cases partner with
    | none => exact .baseAlone rfl hb (none_mem_partners.1 hpartner)
    | some j =>
      obtain ⟨hj, matched⟩ := some_mem_partners.1 hpartner
      exact .matched hb hj matched
  | right =>
    obtain ⟨⟨j, partner⟩, found, rfl⟩ := List.mem_map.1 member
    obtain ⟨hj, hpartner⟩ := mem_outerPairs.1 found
    cases partner with
    | none => exact .joinedAlone rfl hj (none_mem_partners.1 hpartner)
    | some b =>
      obtain ⟨hb, matched⟩ := some_mem_partners.1 hpartner
      exact .matched hb hj matched
  | unsupported name => simp [JoinKind.pairs] at member

end TableQuery
