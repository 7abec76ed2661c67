import TableQuery.Except
import TableQuery.Query.Grammar

/-! What the rules of the grammar have taken from a text that was accepted as a query. -/

namespace TableQuery

open Sql (Token)

theorem exists_tokens_of_readQuery {text : String} {query : Query}
    (accepted : (readQuery text).outcome = .ok query) :
    ∃ tokens, Sql.tokens text = .ok tokens ∧ (Grammar.query tokens).outcome = .ok query := by
  unfold readQuery readTokens at accepted
  split at accepted
  next tokens spelled => exact ⟨tokens, spelled, accepted⟩
  next => cases accepted

namespace Grammar

theorem outcome_readingOf_eq_ok_iff {α : Type} {outcome : Except ParseError α} {value : α} :
    (readingOf outcome).outcome = .ok value ↔ outcome = .ok value :=
  mapError_eq_ok_iff

theorem exists_rests_of_query {tokens : List Token} {query : Query}
    (accepted : (Grammar.query tokens).outcome = .ok query) :
    ∃ rest filtered grouped,
      queryHead tokens = .ok ((query.fields, query.table, query.join), rest) ∧
      (whereClause rest).outcome = .ok (query.conditions, filtered) ∧
      groupClause filtered = .ok (query.groupBy, grouped) ∧
      expectEnd grouped = .ok () ∧
      query.aggregatesAll = (query.groupBy.isNone && query.fields.any Field.isAggregate) := by
  rw [Grammar.query, finished, Traced.outcome_bind, bind_eq_ok_iff] at accepted
  obtain ⟨⟨read, grouped⟩, selected, accepted⟩ := accepted
  change (readingOf (expectEnd grouped) >>= _).outcome = _ at accepted
  rw [Traced.outcome_bind, bind_eq_ok_iff] at accepted
  obtain ⟨_, ended, same⟩ := accepted
  obtain rfl : read = query := Except.ok.inj same
  rw [selectQuery, Traced.outcome_bind, bind_eq_ok_iff] at selected
  obtain ⟨⟨⟨fields, table, join⟩, rest⟩, head, selected⟩ := selected
  change (whereClause rest >>= _).outcome = _ at selected
  rw [Traced.outcome_bind, bind_eq_ok_iff] at selected
  obtain ⟨⟨conditions, filtered⟩, filters, selected⟩ := selected
  change (readingOf (groupClause filtered) >>= _).outcome = _ at selected
  rw [Traced.outcome_bind, bind_eq_ok_iff] at selected
  obtain ⟨⟨groupBy, left⟩, groups, selected⟩ := selected
  cases selected
  exact ⟨rest, filtered, grouped, outcome_readingOf_eq_ok_iff.1 head, filters,
    outcome_readingOf_eq_ok_iff.1 groups, outcome_readingOf_eq_ok_iff.1 ended, rfl⟩

theorem query_of_rests {tokens rest filtered grouped : List Token} {query : Query}
    (head : queryHead tokens = .ok ((query.fields, query.table, query.join), rest))
    (filters : (whereClause rest).outcome = .ok (query.conditions, filtered))
    (groups : groupClause filtered = .ok (query.groupBy, grouped))
    (ended : expectEnd grouped = .ok ())
    (flag : query.aggregatesAll = (query.groupBy.isNone && query.fields.any Field.isAggregate)) :
    (Grammar.query tokens).outcome = .ok query := by
  have selected : (selectQuery tokens).outcome = .ok (query, grouped) := by
    rw [selectQuery, head, readingOf_ok, Traced.outcome_bind]
    change (whereClause rest >>= _).outcome = _
    rw [Traced.outcome_bind, filters]
    change (readingOf (groupClause filtered) >>= _).outcome = _
    rw [groups, readingOf_ok, Traced.outcome_bind]
    change Except.ok (Query.mk .., grouped) = _
    rw [← flag]
  rw [Grammar.query, finished, Traced.outcome_bind, selected]
  change (readingOf (expectEnd grouped) >>= _).outcome = _
  rw [ended]
  rfl

theorem queryHead_eq_ok_iff {tokens rest : List Token} {fields : List Field} {table : String}
    {join : Option JoinClause} :
    queryHead tokens = .ok ((fields, table, join), rest) ↔
      ∃ list after named, afterKeyword? "SELECT" tokens = some list ∧
        selectList list = .ok (fields, after) ∧ word? after = some (table, named) ∧
        joinClause named = .ok (join, rest) := by
  constructor
  · intro head
    rw [queryHead] at head
    split at head
    next list selects =>
      obtain ⟨⟨fields, after⟩, read, head⟩ := bind_eq_ok_iff.1 head
      dsimp only at head
      split at head
      next named word =>
        obtain ⟨⟨join, left⟩, joins, same⟩ := bind_eq_ok_iff.1 head
        cases same
        exact ⟨list, _, named, selects, read, word, joins⟩
      next => cases head
    next => cases head
  · rintro ⟨list, after, named, selects, read, word, joins⟩
    rw [queryHead, selects]
    refine bind_eq_ok_iff.2 ⟨_, read, ?_⟩
    dsimp only
    rw [word]
    exact bind_eq_ok_iff.2 ⟨_, joins, rfl⟩

theorem exists_selectList_of_query {tokens : List Token} {query : Query}
    (accepted : (Grammar.query tokens).outcome = .ok query) :
    ∃ list after, afterKeyword? "SELECT" tokens = some list ∧
      selectList list = .ok (query.fields, after) := by
  obtain ⟨rest, -, -, head, -⟩ := exists_rests_of_query accepted
  obtain ⟨list, after, -, selects, read, -⟩ := queryHead_eq_ok_iff.1 head
  exact ⟨list, after, selects, read⟩

theorem conditions_ne_nil {tokens rest : List Token} {predicates : List Predicate}
    (read : (conditions tokens).outcome = .ok (predicates, rest)) : predicates ≠ [] := by
  cases first : condition tokens with
  | error error => simp [conditions_of_error first, Traced.fail] at read
  | ok found =>
    obtain ⟨predicate, left⟩ := found
    cases more : connective? left with
    | none =>
      rw [conditions_of_last first more] at read
      cases read
      exact List.cons_ne_nil _ _
    | some link =>
      rw [conditions_of_more first more] at read
      obtain ⟨found, -, same⟩ := map_eq_ok_iff.1 read
      cases same
      exact List.cons_ne_nil _ _

theorem conditions_eq_nil_iff_of_query {tokens : List Token} {query : Query}
    (accepted : (Grammar.query tokens).outcome = .ok query) :
    ∃ head rest, queryHead tokens = .ok (head, rest) ∧
      (query.conditions = [] ↔ afterKeyword? "WHERE" rest = none) := by
  obtain ⟨rest, filtered, -, head, filters, -⟩ := exists_rests_of_query accepted
  refine ⟨_, rest, head, ?_⟩
  rw [whereClause] at filters
  cases clause : afterKeyword? "WHERE" rest with
  | none =>
    rw [clause] at filters
    have none : [] = query.conditions := congrArg Prod.fst (Except.ok.inj filters)
    simp [← none]
  | some after =>
    rw [clause] at filters
    simp [conditions_ne_nil filters]

end Grammar

/-- In a query that was read from a text the flag says whether there are aggregates to take over
all rows. -/
theorem aggregatesAll_of_readQuery {text : String} {query : Query}
    (accepted : (readQuery text).outcome = .ok query) :
    query.aggregatesAll = (query.groupBy.isNone && query.fields.any Field.isAggregate) := by
  obtain ⟨tokens, -, accepted⟩ := exists_tokens_of_readQuery accepted
  obtain ⟨_, _, _, -, -, -, -, flag⟩ := Grammar.exists_rests_of_query accepted
  exact flag

theorem projects_of_readQuery {text : String} {query : Query}
    (accepted : (readQuery text).outcome = .ok query) (ungrouped : query.groupBy = none)
    (plain : ∀ field ∈ query.fields, field.isAggregate = false) : query.Projects where
  ungrouped := ungrouped
  unaggregated := by
    rw [aggregatesAll_of_readQuery accepted, ungrouped]
    simpa using plain

end TableQuery
