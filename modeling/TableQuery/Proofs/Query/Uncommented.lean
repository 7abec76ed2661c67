import TableQuery.Proofs.Query.CommentText
import TableQuery.Proofs.Query.Runs

/-! Queries with comments in their texts. Every rule of the grammar passes over a comment as over white
space, but where a run of tokens is kept by its text the comment is kept with it, and changes what the
run means. -/

namespace TableQuery

open Sql (Token uncomment)

structure Query.SameShape (query other : Query) : Prop where
  table : query.table = other.table
  join : query.join = other.join
  groupBy : query.groupBy = other.groupBy
  comparisons : query.conditions.map (fun condition => (condition.field, condition.operator)) =
    other.conditions.map fun condition => (condition.field, condition.operator)

/-- The texts of their entries and literals apart, the queries are the same. -/
structure Query.SameMeaning (query other : Query) : Prop extends query.SameShape other where
  kinds : query.fields.map Field.kind = other.fields.map Field.kind
  values : query.conditions.map (fun condition => coerceText condition.literal) =
    other.conditions.map fun condition => coerceText condition.literal

namespace Grammar

def Uncommented (tokens others : List Token) : Prop := others = uncomment tokens

theorem respaced_uncomment (tokens : List Token) :
    Respaced Uncommented tokens (uncomment tokens) := by
  induction tokens with
  | nil => exact .nil
  | cons token tokens ih =>
    cases space : token.isSpace with
    | true =>
      exact .space (s := [token]) (t := [token.uncommented]) (by simpa using space)
        (by simpa using space) rfl ih
    | false =>
      rw [Sql.uncomment_cons, Sql.Token.uncommented_of_solid space]
      exact .cons space ih

theorem Respaced.eq_uncomment {tokens others : List Token}
    (h : Respaced Uncommented tokens others) : others = uncomment tokens := by
  induction h with
  | nil => rfl
  | space _ _ allowed _ ih => rw [ih, allowed, uncomment, uncomment, uncomment, List.map_append]
  | cons solid _ ih => rw [ih, Sql.uncomment_cons, Sql.Token.uncommented_of_solid solid]

def RawCondition.uncomment (raw : RawCondition) : RawCondition :=
  { raw with run := Sql.uncomment raw.run }

theorem RawCondition.Respaced.eq_uncomment {raw other : RawCondition}
    (h : raw.Respaced Uncommented other) : other = raw.uncomment := by
  obtain ⟨field, operator, run⟩ := other
  rw [uncomment, h.field, h.operator, ← h.run.eq_uncomment]

theorem kind_uncomment_eq_iff {entry : List Token} {field other : Field}
    (read : entryField entry = .ok field) (readToo : entryField (uncomment entry) = .ok other) :
    field.kind = other.kind ↔
      (keepsText entry = true → ∀ token ∈ entry, token.isComment = false) := by
  obtain ⟨_, same, known, unknown⟩ := (respaced_uncomment entry).entryField read
  cases same.symm.trans readToo
  cases keeps : keepsText entry with
  | true =>
    obtain ⟨kind, kindToo⟩ := unknown keeps
    simp [kind, kindToo, spanText_uncomment_eq_iff]
  | false => simp [known keeps]

theorem value_uncomment_eq_iff (raw : RawCondition) :
    coerceText raw.predicate.literal = coerceText raw.uncomment.predicate.literal ↔
      ∀ token ∈ raw.run, token.isComment = false := by
  rw [RawCondition.predicate, RawCondition.predicate, RawCondition.uncomment]
  exact coerceText_uncomment_eq_iff

theorem kinds_uncomment_eq_iff {list : List (List Token)} {fields others : List Field}
    (read : List.Forall₂ (fun entry field => entryField entry = .ok field) list fields)
    (readToo : List.Forall₂ (fun entry field => entryField entry = .ok field)
      (list.map uncomment) others) :
    fields.map Field.kind = others.map Field.kind ↔
      ∀ run ∈ list.filter keepsText, ∀ token ∈ run, token.isComment = false := by
  induction read generalizing others with
  | nil =>
    cases readToo
    simp
  | @cons entry field list fields first _ ih =>
    cases readToo with
    | cons firstToo more =>
      simp only [List.map_cons, List.cons.injEq, kind_uncomment_eq_iff first firstToo, ih more,
        List.mem_filter, List.forall_mem_cons, and_imp]

/-! ### Both queries -/

section

variable {tokens : List Token} {query other : Query}

theorem queryEntries_uncomment (accepted : (Grammar.query tokens).outcome = .ok query) :
    queryEntries (uncomment tokens) = (queryEntries tokens).map uncomment :=
  eq_map_of_forall₂ (fun _ _ => Respaced.eq_uncomment) ((respaced_uncomment tokens).query accepted).1

theorem queryConditions_uncomment (accepted : (Grammar.query tokens).outcome = .ok query) :
    queryConditions (uncomment tokens) = (queryConditions tokens).map RawCondition.uncomment :=
  eq_map_of_forall₂ (fun _ _ => RawCondition.Respaced.eq_uncomment)
    ((respaced_uncomment tokens).query accepted).2.1

theorem uncommented_accepted_iff (accepted : (Grammar.query tokens).outcome = .ok query) :
    (∃ other, (Grammar.query (uncomment tokens)).outcome = .ok other) ↔
      ∀ raw ∈ queryConditions tokens, spanText (uncomment raw.run) ≠ "" := by
  have all := queryConditions_uncomment accepted
  constructor
  · rintro ⟨other, acceptedToo⟩ raw member
    refine (queryConditions_of_query acceptedToo).1 raw.uncomment ?_
    rw [all]
    exact List.mem_map_of_mem member
  · intro written
    obtain ⟨-, -, builds⟩ := (respaced_uncomment tokens).query accepted
    rw [all, List.forall_mem_map] at builds
    obtain ⟨other, acceptedToo, -⟩ := builds written
    exact ⟨other, acceptedToo⟩

theorem sameShape_of_uncommented (accepted : (Grammar.query tokens).outcome = .ok query)
    (acceptedToo : (Grammar.query (uncomment tokens)).outcome = .ok other) :
    query.SameShape other := by
  obtain ⟨-, -, builds⟩ := (respaced_uncomment tokens).query accepted
  obtain ⟨written, conditions⟩ := queryConditions_of_query acceptedToo
  obtain ⟨_, same, table, join, groupBy⟩ := builds written
  cases acceptedToo.symm.trans same
  refine ⟨table, join, groupBy, ?_⟩
  rw [← conditions, ← (queryConditions_of_query accepted).2, queryConditions_uncomment accepted]
  simp only [List.map_map]
  rfl

theorem sameMeaning_iff_of_uncommented (accepted : (Grammar.query tokens).outcome = .ok query)
    (acceptedToo : (Grammar.query (uncomment tokens)).outcome = .ok other) :
    query.SameMeaning other ↔
      ∀ run ∈ keptRuns tokens, ∀ token ∈ run, token.isComment = false := by
  have read := forall₂_entryField_of_query acceptedToo
  rw [queryEntries_uncomment accepted] at read
  have kinds := kinds_uncomment_eq_iff (forall₂_entryField_of_query accepted) read
  have values : query.conditions.map (fun condition => coerceText condition.literal) =
      other.conditions.map (fun condition => coerceText condition.literal) ↔
      ∀ run ∈ (queryConditions tokens).map RawCondition.run, ∀ token ∈ run,
        token.isComment = false := by
    rw [← (queryConditions_of_query accepted).2, ← (queryConditions_of_query acceptedToo).2,
      queryConditions_uncomment accepted]
    simp only [List.map_map, List.map_inj_left, Function.comp_apply, List.forall_mem_map,
      value_uncomment_eq_iff]
  rw [keptRuns, List.forall_mem_append, ← kinds, ← values]
  exact ⟨fun same => ⟨same.values, same.kinds⟩,
    fun same => ⟨sameShape_of_uncommented accepted acceptedToo, same.2, same.1⟩⟩

end

end Grammar

/-- A text that is accepted reads the same with a space for each comment exactly when no comment stands in
a run that is kept by its text. It is refused exactly when a literal has no text but its comments, and
otherwise names the same tables and compares the same columns. -/
theorem readQuery_uncommented {text : String} {query : Query}
    (accepted : (readQuery text).outcome = .ok query) :
    ∃ tokens, Sql.tokens text = .ok tokens ∧
      ((∃ other, (Grammar.query (uncomment tokens)).outcome = .ok other ∧ query.SameMeaning other) ↔
        ∀ run ∈ Grammar.keptRuns tokens, ∀ token ∈ run, token.isComment = false) ∧
      ((∃ other, (Grammar.query (uncomment tokens)).outcome = .ok other) ↔
        ∀ condition ∈ Grammar.queryConditions tokens,
          Grammar.spanText (uncomment condition.run) ≠ "") ∧
      ∀ other, (Grammar.query (uncomment tokens)).outcome = .ok other → query.SameShape other := by
  obtain ⟨tokens, spelled, accepted⟩ := exists_tokens_of_readQuery accepted
  have reads := Grammar.uncommented_accepted_iff accepted
  refine ⟨tokens, spelled, ⟨?_, fun others => ?_⟩, reads,
    fun other => Grammar.sameShape_of_uncommented accepted⟩
  · rintro ⟨other, acceptedToo, same⟩
    exact (Grammar.sameMeaning_iff_of_uncommented accepted acceptedToo).1 same
  · obtain ⟨other, acceptedToo⟩ := reads.2 fun condition member => by
      have kept : condition.run ∈ Grammar.keptRuns tokens :=
        List.mem_append_left _ (List.mem_map_of_mem member)
      rw [Sql.uncomment_eq_self (others _ kept)]
      exact (Grammar.queryConditions_of_query accepted).1 condition member
    exact ⟨other, acceptedToo,
      (Grammar.sameMeaning_iff_of_uncommented accepted acceptedToo).2 others⟩

def countText : String := "SELECT COUNT(/* any */ *) FROM student -- all\n WHERE id /* key */ = 1"

def studentCount : Query where
  fields := [⟨"COUNT(/* any */ *)", .aggregate .count⟩]
  table := "student"
  join := none
  conditions := [⟨"id", .equal, "1"⟩]
  groupBy := none
  aggregatesAll := true

theorem readQuery_countText : (readQuery countText).outcome = .ok studentCount :=
  eq_ok_of_toOption (by decide +kernel)

theorem readQuery_uncommented_count :
    (readQuery countText).outcome = .ok studentCount ∧
      ∃ tokens, Sql.tokens countText = .ok tokens ∧
        ((∃ other, (Grammar.query (uncomment tokens)).outcome = .ok other ∧
            studentCount.SameMeaning other) ↔
          ∀ run ∈ Grammar.keptRuns tokens, ∀ token ∈ run, token.isComment = false) ∧
        ((∃ other, (Grammar.query (uncomment tokens)).outcome = .ok other) ↔
          ∀ condition ∈ Grammar.queryConditions tokens,
            Grammar.spanText (uncomment condition.run) ≠ "") ∧
        ∀ other, (Grammar.query (uncomment tokens)).outcome = .ok other → studentCount.SameShape other :=
  ⟨readQuery_countText, readQuery_uncommented readQuery_countText⟩

def firstText : String := "SELECT id FROM student WHERE id = 1 -- first"

def queryOfId (literal : String) : Query where
  fields := [⟨"id", .plain "id"⟩]
  table := "student"
  join := none
  conditions := [⟨"id", .equal, literal⟩]
  groupBy := none
  aggregatesAll := false

def firstTokens : List Token :=
  [.word "SELECT" none, .blank .space, .word "id" none, .blank .space, .word "FROM" none,
    .blank .space, .word "student" none, .blank .space, .word "WHERE" none, .blank .space,
    .word "id" none, .blank .space, .symbol .equal, .blank .space, .number "1", .blank .space,
    .comment (.line " first")]

/-- The identifier is compared with a text that holds the comment, and not with the number. -/
theorem firstText_compares_comment :
    (readQuery firstText).outcome = .ok (queryOfId "1 -- first") ∧
      ∃ tokens, Sql.tokens firstText = .ok tokens ∧
        (Grammar.query (uncomment tokens)).outcome = .ok (queryOfId "1") ∧
        ¬ (queryOfId "1 -- first").SameMeaning (queryOfId "1") := by
  refine ⟨eq_ok_of_toOption (by decide +kernel), firstTokens,
    eq_ok_of_toOption (by decide +kernel), eq_ok_of_toOption (by decide +kernel), fun same => ?_⟩
  have differ : coerceText "1 -- first" ≠ coerceText "1" := by decide +kernel
  exact differ (List.cons.inj same.values).1

end TableQuery
