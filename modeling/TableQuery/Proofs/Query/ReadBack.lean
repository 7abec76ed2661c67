import TableQuery.Proofs.Query.WrittenClauses
import TableQuery.Proofs.Query.WrittenFields

/-! A query that is written as tokens, in any mix of its clauses, is read back as it was written. -/

namespace TableQuery.Written

open Grammar
open Sql (Token)

structure Statement where
  select : Phrase ["SELECT"]
  fields : Fields
  fromWord : Keyword "FROM"
  beforeTable : Gap
  table : Name
  join : Option Join
  filter : Filter
  closing : Closing

namespace Statement

variable (statement : Statement)

def rest : List Token := statement.filter.write statement.closing.tokens

def clauses : List Token :=
  match statement.join with
  | none => statement.rest
  | some join => join.write statement.rest

def tokens : List Token :=
  statement.select.write (statement.fields.write (statement.fromWord.token ::
    spaced statement.beforeTable (statement.table.token :: statement.clauses)))

def query : Query where
  fields := statement.fields.read
  table := statement.table.value
  join := statement.join.map Join.clause
  conditions := statement.filter.predicates
  groupBy := statement.closing.groupBy
  aggregatesAll := statement.closing.groupBy.isNone && statement.fields.read.any Field.isAggregate

theorem joinClause_clauses :
    joinClause statement.clauses = .ok (statement.join.map Join.clause, statement.rest) := by
  obtain ⟨select, fields, fromWord, beforeTable, table, join, filter, closing⟩ := statement
  cases join with
  | none =>
    rw [clauses, rest, joinClause, filter.joinWords?_write]
    rfl
  | some join => exact join.joinClause_write _

theorem queryHead_tokens :
    queryHead statement.tokens = .ok ((statement.fields.read, statement.table.value,
      statement.join.map Join.clause), statement.rest) := by
  rw [queryHead, tokens, Phrase.afterKeyword?_write, if_pos rfl, Phrase.write_nil]
  simp only [bind, Except.bind, Fields.selectList_write, word?_spaced, Name.word?_token,
    statement.joinClause_clauses, pure, Except.pure]

theorem selectQuery_tokens :
    ∃ left, selectQuery statement.tokens =
      ⟨statement.filter.warnings, .ok (statement.query, left)⟩ ∧ expectEnd left = .ok () := by
  obtain ⟨gap, filtered⟩ := statement.filter.exists_whereClause statement.closing
  obtain ⟨left, grouped, ended⟩ := statement.closing.exists_groupClause gap
  refine ⟨left, ?_, ended⟩
  rw [selectQuery, statement.queryHead_tokens]
  simp only [readingOf_ok, Traced.bind_ok, rest, filtered, Traced.mk_ok_bind, grouped,
    Traced.pure_eq]
  simp only [Traced.ok, List.append_nil, query]

/-- Every query that the grammar describes is accepted, and is read as it is written: its entries,
tables, conditions and grouping are those of the text, with a warning for each OR and none else. -/
theorem query_tokens :
    Grammar.query statement.tokens = ⟨statement.filter.warnings, .ok statement.query⟩ := by
  obtain ⟨left, selected, ended⟩ := statement.selectQuery_tokens
  rw [Grammar.query, finished, selected, Traced.mk_ok_bind]
  simp only [ended, readingOf_ok, Traced.bind_ok, Traced.pure_eq]
  simp only [Traced.ok, List.append_nil]

end Statement

def tally : Statement where
  select := .word [] ⟨"select", by decide⟩ .done
  fields := .more ⟨[.blank .space], .column (.plain ⟨"course", none, by decide⟩), []⟩ ()
    (.last ⟨[.blank .space], .call ⟨.count, "Count", none, by decide, .star, .count, rfl, [], [], []⟩,
      [.blank .space]⟩)
  fromWord := ⟨"FROM", by decide⟩
  beforeTable := [.blank .space]
  table := ⟨"enrollment", none, by decide⟩
  join := none
  filter := .conditions [.blank .newline] ⟨"WHERE", by decide⟩
    (.more ⟨[.blank .space], .plain ⟨"grade", none, by decide⟩, [], .notEqual,
        [.string .single "F", .blank .space], by decide, by decide⟩
      (.or ⟨"or", by decide⟩)
      (.last ⟨[.blank .space], .plain ⟨"Group", some .double, by decide⟩, [.blank .space], .greater,
        [.blank .space, .other "-", .number "1", .blank .space], by decide, by decide⟩))
  closing := .grouping ⟨"GROUP", by decide⟩ (.word [.blank .space] ⟨"BY", by decide⟩ .done)
    (.last ([.blank .space], .plain ⟨"course", none, by decide⟩)) [.comment (.block "all")]
    (.semicolon [])

example : (Sql.tokens ("select course, Count(*) FROM enrollment\nWHERE grade!='F' " ++
    "or \"Group\" > -1 GROUP BY course/*all*/;")).toOption = some tally.tokens := by
  decide +kernel

example : tally.query =
    ⟨[⟨"course", .plain "course"⟩, ⟨"Count(*)", .aggregate .count⟩], "enrollment", none,
      [⟨"grade", .notEqual, "'F'"⟩, ⟨"Group", .greater, "-1"⟩], some ["course"], false⟩ := by
  decide +kernel

end TableQuery.Written
