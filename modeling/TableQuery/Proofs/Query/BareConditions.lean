import TableQuery.Proofs.Query.Accepted
import TableQuery.Proofs.Query.Splitting

/-! Conditions on their own and conditions after WHERE. What the rules leave of a list of tokens is
an end of it, so that conditions are read the same whatever the query has before them. -/

namespace TableQuery.Grammar

open Sql (Token)

/-! ### What the rules leave -/

section

variable {tokens rest : List Token}

theorem suffix_of_conditions {predicates : List Predicate}
    (read : (conditions tokens).outcome = .ok (predicates, rest)) : rest <:+ tokens := by
  fun_induction conditions tokens generalizing predicates with
  | case1 tokens error => cases read
  | case2 tokens predicate left first last =>
    cases read
    exact (condition_remains first).ends
  | case3 tokens predicate left first connective after more =>
    rename_i ih
    obtain ⟨⟨others, _⟩, later, same⟩ := map_eq_ok_iff.1 read
    cases same
    exact ((ih later).trans (connective?_remains more).ends).trans (condition_remains first).ends

end

/-! ### Conditions after WHERE -/

theorem groupClause_of_no_group {tokens : List Token}
    (absent : ∀ token ∈ tokens, token.isKeyword "GROUP" = false) :
    groupClause tokens = .ok (none, tokens) := by
  unfold groupClause afterKeyword?
  cases first : next? tokens with
  | none => rfl
  | some read =>
    obtain ⟨token, rest⟩ := read
    have other := absent token ((next?_suffix first).subset (.head _))
    simp [other]

theorem trace_finished {α : Type} (reading : Reading (α × List Token)) :
    (finished reading).trace = reading.trace := by
  match reading with
  | ⟨trace, .error error⟩ => rfl
  | ⟨trace, .ok (value, left)⟩ =>
    change trace ++ (readingOf (expectEnd left) >>= fun _ => pure value).trace = trace
    cases expectEnd left with
    | error error => exact List.append_nil trace
    | ok => exact List.append_nil trace

theorem outcome_finished {α : Type} (reading : Reading (α × List Token)) :
    (finished reading).outcome = reading.outcome.bind fun (value, left) =>
      ((expectEnd left).mapError QueryError.parse).map fun _ => value := by
  match reading with
  | ⟨trace, .error error⟩ => rfl
  | ⟨trace, .ok (value, left)⟩ =>
    change (readingOf (expectEnd left) >>= fun _ => pure value).outcome =
      ((expectEnd left).mapError QueryError.parse).map fun _ => value
    cases expectEnd left with
    | error error => rfl
    | ok => rfl

theorem selectQuery_of_conditions {tokens rest list : List Token} {fields : List Field}
    {table : String} {join : Option JoinClause}
    (head : queryHead tokens = .ok ((fields, table, join), rest))
    (clause : afterKeyword? "WHERE" rest = some list)
    (absent : ∀ token ∈ list, token.isKeyword "GROUP" = false) :
    (selectQuery tokens).trace = (conditions list).trace ∧
      (selectQuery tokens).outcome = (conditions list).outcome.map fun (conditions, left) =>
        (⟨fields, table, join, conditions, none, fields.any Field.isAggregate⟩, left) := by
  have filters : whereClause rest = conditions list := by rw [whereClause, clause]
  have ungrouped : ∀ predicates left, (conditions list).outcome = .ok (predicates, left) →
      groupClause left = .ok (none, left) := fun predicates left read =>
    groupClause_of_no_group fun token member =>
      absent token ((suffix_of_conditions read).subset member)
  rw [selectQuery, head, readingOf_ok, Traced.bind_ok]
  dsimp only
  rw [filters]
  -- What the conditions leave begins with no GROUP, since it is an end of their tokens.
  generalize conditions list = reading at ungrouped ⊢
  obtain ⟨trace, outcome⟩ := reading
  cases outcome with
  | error error => exact ⟨rfl, rfl⟩
  | ok read =>
    obtain ⟨predicates, left⟩ := read
    rw [Traced.mk_ok_bind]
    dsimp only
    rw [ungrouped _ _ rfl]
    exact ⟨List.append_nil trace, rfl⟩

/-- Where no GROUP comes after its WHERE, a query warns and fails as its conditions do on their own,
and is accepted with them. -/
theorem query_of_conditions {tokens rest list : List Token} {fields : List Field} {table : String}
    {join : Option JoinClause} (head : queryHead tokens = .ok ((fields, table, join), rest))
    (clause : afterKeyword? "WHERE" rest = some list)
    (absent : ∀ token ∈ list, token.isKeyword "GROUP" = false) :
    (query tokens).trace = (wholeConditions list).trace ∧
      (query tokens).outcome = (wholeConditions list).outcome.map fun conditions =>
        ⟨fields, table, join, conditions, none, fields.any Field.isAggregate⟩ := by
  obtain ⟨trace, outcome⟩ := selectQuery_of_conditions head clause absent
  rw [query, wholeConditions, trace_finished, trace_finished, outcome_finished, outcome_finished,
    trace, outcome]
  refine ⟨rfl, ?_⟩
  cases (conditions list).outcome with
  | error error => rfl
  | ok read =>
    obtain ⟨predicates, left⟩ := read
    dsimp only [Except.bind, Except.map]
    cases expectEnd left with
    | error error => rfl
    | ok => rfl

def bareQuery (conditions : List Predicate) : Query where
  fields := [⟨"x", .plain "x"⟩]
  table := "t"
  join := none
  conditions := conditions
  groupBy := none
  aggregatesAll := false

def bareHead : List Token :=
  [.word "SELECT" none, .blank .space, .word "x" none, .blank .space, .word "FROM" none,
    .blank .space, .word "t" none, .blank .space, .word "WHERE" none, .blank .space]

theorem queryHead_bareHead (tokens : List Token) :
    ∃ rest, queryHead (bareHead ++ tokens) = .ok (([⟨"x", .plain "x"⟩], "t", none), rest) ∧
      afterKeyword? "WHERE" rest = some (.blank .space :: tokens) := by
  have entry : selectList (bareHead.drop 1 ++ tokens) =
      .ok ([⟨"x", .plain "x"⟩], bareHead.drop 5 ++ tokens) :=
    selectList_eq_ok_iff.2 ⟨[.blank .space, .word "x" none, .blank .space], .word "FROM" none, _, _,
      rfl, rfl, .inr ⟨by decide, rfl, rfl⟩⟩
  exact ⟨.blank .space :: .word "WHERE" none :: .blank .space :: tokens,
    queryHead_eq_ok_iff.2 ⟨_, _, _, rfl, entry, rfl, rfl⟩, rfl⟩

theorem conditions_space {token : Token} (space : token.isSpace = true) (tokens : List Token) :
    conditions (token :: tokens) = conditions tokens := by
  have same : condition (token :: tokens) = condition tokens := by
    rw [condition, condition, column?, column?, word?, word?, next?_space space]
  cases first : condition tokens with
  | error error => rw [conditions_of_error first, conditions_of_error (same.trans first)]
  | ok read =>
    obtain ⟨predicate, rest⟩ := read
    cases more : connective? rest with
    | none => rw [conditions_of_last first more, conditions_of_last (same.trans first) more]
    | some link => rw [conditions_of_more first more, conditions_of_more (same.trans first) more]

/-- Conditions without the word GROUP are read the same on their own and after
`SELECT x FROM t WHERE `: with the same warnings, one for each OR, and to the same conditions or the
same error. -/
theorem query_bareHead {tokens : List Token}
    (absent : ∀ token ∈ tokens, token.isKeyword "GROUP" = false) :
    Sql.tokens "SELECT x FROM t WHERE " = .ok bareHead ∧
      (query (bareHead ++ tokens)).trace = (wholeConditions tokens).trace ∧
      (query (bareHead ++ tokens)).outcome = (wholeConditions tokens).outcome.map bareQuery := by
  obtain ⟨rest, head, clause⟩ := queryHead_bareHead tokens
  have spaced : ∀ token ∈ Token.blank .space :: tokens, token.isKeyword "GROUP" = false :=
    List.forall_mem_cons.2 ⟨rfl, absent⟩
  have read := query_of_conditions head clause spaced
  rw [wholeConditions, conditions_space rfl] at read
  exact ⟨eq_ok_of_toOption (by decide +kernel), read⟩

def chainTokens : List Token :=
  [.word "a" none, .symbol .equal, .number "1", .blank .space, .word "or" none, .blank .space,
    .word "b" none, .symbol .less, .number "2", .blank .newline, .word "AND" none, .blank .tab,
    .word "c" none, .symbol .notEqual, .string .single "where", .symbol .semicolon]

theorem query_bareHead_chain :
    (∀ token ∈ chainTokens, token.isKeyword "GROUP" = false) ∧
      (Sql.tokens "SELECT x FROM t WHERE " = .ok bareHead ∧
        (query (bareHead ++ chainTokens)).trace = (wholeConditions chainTokens).trace ∧
        (query (bareHead ++ chainTokens)).outcome =
          (wholeConditions chainTokens).outcome.map bareQuery) ∧
      (wholeConditions chainTokens).trace = [.orReadAsAnd] ∧
      (wholeConditions chainTokens).outcome =
        .ok [⟨"a", .equal, "1"⟩, ⟨"b", .less, "2"⟩, ⟨"c", .notEqual, "'where'"⟩] := by
  have absent : ∀ token ∈ chainTokens, token.isKeyword "GROUP" = false := by decide
  exact ⟨absent, query_bareHead absent, by decide +kernel, eq_ok_of_toOption (by decide +kernel)⟩

end TableQuery.Grammar
