import TableQuery.Proofs.Query.WrittenConditions
import TableQuery.Query.Grammar

/-! The clauses after the table of a query, as they are written: the join, the conditions, the
grouping, and what may stand at the end. -/

namespace TableQuery.Written

open Grammar
open Sql (Token)

/-- The words that may stand before JOIN. -/
inductive Kind where
  | bare
  | inner
  | left
  | leftOuter
  | right
  | rightOuter

namespace Kind

def words : Kind → List String
  | bare => []
  | inner => ["INNER"]
  | left => ["LEFT"]
  | leftOuter => ["LEFT", "OUTER"]
  | right => ["RIGHT"]
  | rightOuter => ["RIGHT", "OUTER"]

def kind : Kind → JoinKind
  | bare | inner => .inner
  | left | leftOuter => .left
  | right | rightOuter => .right

theorem joinKind_words (kind : Kind) : joinKind kind.words = kind.kind := by
  cases kind <;> rfl

theorem length_words (kind : Kind) : kind.words.length ≤ 2 := by
  cases kind <;> decide

theorem words_free (kind : Kind) : ∀ word ∈ kind.words, word ∉ ["JOIN", "WHERE", "GROUP"] := by
  cases kind <;> decide

end Kind

@[simp] theorem joinWords?_spaced (limit : Nat) (gap : Gap) (tokens : List Token) :
    joinWords? limit (spaced gap tokens) = joinWords? limit tokens := by
  rw [joinWords?, joinWords?, next?_spaced]

theorem joinWords?_write {words : List String} {limit : Nat} (few : words.length ≤ limit)
    (free : ∀ word ∈ words, word ∉ ["JOIN", "WHERE", "GROUP"])
    (phrase : Phrase (words ++ ["JOIN"])) (after : List Token) :
    joinWords? limit (phrase.write after) = some (words, after) := by
  induction words generalizing limit with
  | nil =>
    cases phrase with
    | word gap keyword rest =>
      rw [Phrase.write, joinWords?_spaced, joinWords?]
      simp
  | cons word words ih =>
    cases limit with
    | zero => cases few
    | succ limit =>
      cases phrase with
      | word gap keyword rest =>
        have others := ih (Nat.le_of_succ_le_succ few) (fun word member => free word (.tail _ member))
          rest
        have wordFree := free word (.head _)
        simp only [List.mem_cons, List.not_mem_nil, or_false, not_or] at wordFree
        rw [Phrase.write, joinWords?_spaced, joinWords?, keyword.next?_cons]
        simp [Keyword.token, wordFree, others, keyword.upperName_value]

theorem joinWords?_keyword {spelling : String} (limit : Nat) (keyword : Keyword spelling)
    (rest : List Token) (notJoin : spelling ≠ "JOIN") (other : spelling = "WHERE" ∨ spelling = "GROUP") :
    joinWords? limit (keyword.token :: rest) = none := by
  rw [joinWords?, keyword.next?_cons]
  cases limit with
  | zero => simp [notJoin]
  | succ limit => simp [notJoin, Keyword.token, other]

@[simp] theorem joinColumn_spaced (gap : Gap) (tokens : List Token) :
    joinColumn (spaced gap tokens) = joinColumn tokens := by
  rw [joinColumn, joinColumn, column?_spaced]

/-- A column after its table, of which neither is empty and the table holds no period: its text is split
where it was put together. -/
structure Qualified where
  table : Name
  titled : table.value ≠ ""
  dotFree : '.' ∉ table.value.toList
  beforePeriod : Gap
  beforeName : Gap
  name : Name
  named : name.value ≠ ""

namespace Qualified

def column (written : Qualified) : Column :=
  .ofTable written.table written.beforePeriod written.beforeName written.name

theorem joinColumn_tokens (written : Qualified) (rest : List Token) :
    joinColumn (written.column.tokens ++ rest) = .ok (written.column.text, rest) := by
  have isQualified : (ColumnKey.ofText written.column.text).isQualified = true := by
    have reads := ColumnKey.ofText_qualified written.titled written.dotFree written.named
    rw [ColumnKey.text_qualified] at reads
    rw [column, Column.text, reads]
    rfl
  rw [joinColumn, column, Column.column?_ofTable]
  exact if_pos isQualified

end Qualified

structure Join where
  kind : Kind
  words : Phrase (kind.words ++ ["JOIN"])
  beforeTable : Gap
  table : Name
  onWord : Phrase ["ON"]
  beforeLeft : Gap
  left : Qualified
  beforeEqual : Gap
  beforeRight : Gap
  right : Qualified

namespace Join

def write (join : Join) (after : List Token) : List Token :=
  join.words.write (spaced join.beforeTable (join.table.token :: join.onWord.write
    (spaced join.beforeLeft (join.left.column.tokens ++ spaced join.beforeEqual
      (.symbol .equal :: spaced join.beforeRight (join.right.column.tokens ++ after))))))

def clause (join : Join) : JoinClause :=
  ⟨join.kind.kind, join.table.value, ⟨join.left.column.text, join.right.column.text⟩⟩

theorem joinCondition_write (join : Join) (after : List Token) :
    joinCondition (spaced join.beforeLeft (join.left.column.tokens ++ spaced join.beforeEqual
      (.symbol .equal :: spaced join.beforeRight (join.right.column.tokens ++ after)))) =
        .ok (join.clause.condition, after) := by
  rw [joinCondition, joinColumn_spaced, join.left.joinColumn_tokens]
  simp only [bind, Except.bind, next?_spaced, next?_symbol, joinColumn_spaced,
    join.right.joinColumn_tokens, pure, Except.pure, clause]

theorem joinClause_write (join : Join) (after : List Token) :
    joinClause (join.write after) = .ok (some join.clause, after) := by
  rw [joinClause, write, joinWords?_write join.kind.length_words join.kind.words_free]
  simp only [word?_spaced, Name.word?_token, Phrase.afterKeyword?_write, ↓reduceIte,
    Phrase.write_nil, bind, Except.bind, join.joinCondition_write, join.kind.joinKind_words, pure,
    Except.pure, clause]

end Join

inductive Ending where
  | bare
  | semicolon (after : Gap)

namespace Ending

def tokens : Ending → List Token
  | bare => []
  | semicolon after => .symbol .semicolon :: spaced after []

theorem eq_semicolon_of_next? {ending : Ending} {token : Token} {rest : List Token}
    (first : next? ending.tokens = some (token, rest)) : token = .symbol .semicolon := by
  cases ending with
  | bare => cases first
  | semicolon after =>
    rw [tokens, next?_symbol] at first
    cases first
    rfl

theorem expectEnd_spaced (ending : Ending) (gap : Gap) :
    expectEnd (spaced gap ending.tokens) = .ok () := by
  have nothing (gap : Gap) : next? (spaced gap []) = none := next?_spaced gap []
  cases ending with
  | bare => rw [tokens, expectEnd, nothing, nothing]
  | semicolon after => rw [tokens, expectEnd, next?_spaced, next?_symbol, nothing]

end Ending

abbrev Columns : Type := Chain (Gap × Column) Gap

namespace Columns

def write : Columns → List Token → List Token :=
  Chain.write (fun item after => spaced item.1 (item.2.tokens ++ after))
    fun gap after => spaced gap (.symbol .comma :: after)

def texts (columns : Columns) : List String := columns.items.map (·.2.text)

theorem columnList_write (columns : Columns) (gap : Gap) (ending : Ending) :
    columnList (columns.write (spaced gap ending.tokens)) =
      .ok (columns.texts, spaced gap ending.tokens) := by
  have other {symbol : Sql.Symbol} (differs : symbol ≠ .semicolon) (after : List Token) :
      next? (spaced gap ending.tokens) ≠ some (.symbol symbol, after) := by
    rw [next?_spaced]
    intro first
    cases ending.eq_semicolon_of_next? first
    exact differs rfl
  induction columns with
  | last item =>
    have column : column? (write (.last item) (spaced gap ending.tokens)) =
        some (item.2.text, spaced gap ending.tokens) := by
      rw [write, Chain.write, column?_spaced, item.2.column?_tokens (other nofun)]
    exact columnList_of_last column (other nofun)
  | more item between rest ih =>
    have comma (after : List Token) : next? (spaced between (.symbol .comma :: after)) =
        some (.symbol .comma, after) := by
      rw [next?_spaced, next?_symbol]
    have column : column? (write (.more item between rest) (spaced gap ending.tokens)) =
        some (item.2.text, spaced between (.symbol .comma :: write rest (spaced gap ending.tokens))) := by
      rw [write, Chain.write, column?_spaced, item.2.column?_tokens]
      intro after period
      rw [comma] at period
      cases period
    exact columnList_of_more column (comma _) ih

end Columns

inductive Closing where
  | ending (ending : Ending)
  | grouping (groupWord : Keyword "GROUP") (byWord : Phrase ["BY"]) (columns : Columns) (after : Gap)
      (ending : Ending)

namespace Closing

def tokens : Closing → List Token
  | ending last => last.tokens
  | grouping groupWord byWord columns after last =>
    groupWord.token :: byWord.write (columns.write (spaced after last.tokens))

def groupBy : Closing → Option (List String)
  | ending _ => none
  | grouping _ _ columns _ _ => some columns.texts

theorem exists_groupClause (closing : Closing) (gap : Gap) :
    ∃ left, groupClause (spaced gap closing.tokens) = .ok (closing.groupBy, left) ∧
      expectEnd left = .ok () := by
  cases closing with
  | ending last =>
    refine ⟨spaced gap last.tokens, ?_, last.expectEnd_spaced gap⟩
    have noGroup : afterKeyword? "GROUP" last.tokens = none := by
      cases last with
      | bare => rfl
      | semicolon after => simp [Ending.tokens, afterKeyword?, Token.isKeyword]
    rw [groupClause, tokens, afterKeyword?_spaced, noGroup]
    rfl
  | grouping groupWord byWord columns after last =>
    refine ⟨spaced after last.tokens, ?_, last.expectEnd_spaced after⟩
    rw [groupClause, tokens, afterKeyword?_spaced, groupWord.afterKeyword?_cons, if_pos rfl]
    simp only [Phrase.afterKeyword?_write, ↓reduceIte, Phrase.write_nil, columns.columnList_write]
    rfl

theorem tokens_cases (closing : Closing) :
    closing.tokens = [] ∨ (∃ rest, closing.tokens = .symbol .semicolon :: rest) ∨
      ∃ (groupWord : Keyword "GROUP") (rest : List Token), closing.tokens = groupWord.token :: rest := by
  cases closing with
  | ending last =>
    cases last with
    | bare => exact .inl rfl
    | semicolon after => exact .inr (.inl ⟨_, rfl⟩)
  | grouping groupWord byWord columns after last => exact .inr (.inr ⟨groupWord, _, rfl⟩)

theorem stops (closing : Closing) : Stops closing.tokens := by
  intro token first
  obtain nothing | ⟨rest, semicolon⟩ | ⟨groupWord, rest, grouped⟩ := closing.tokens_cases
  · rw [nothing] at first
    cases first
  · rw [semicolon] at first
    cases first
    rfl
  · rw [grouped] at first
    obtain rfl : groupWord.token = token := by simpa using first
    simp [endsLiteral]

theorem connective?_tokens (closing : Closing) : connective? closing.tokens = none := by
  obtain nothing | ⟨rest, semicolon⟩ | ⟨groupWord, rest, grouped⟩ := closing.tokens_cases
  · rw [nothing]
    rfl
  · rw [semicolon, connective?, next?_symbol]
    rfl
  · rw [grouped, connective?, groupWord.next?_cons]
    simp

theorem joinWords?_tokens (closing : Closing) (limit : Nat) :
    joinWords? limit closing.tokens = none := by
  obtain nothing | ⟨rest, semicolon⟩ | ⟨groupWord, rest, grouped⟩ := closing.tokens_cases
  · rw [nothing, joinWords?]
    rfl
  · rw [semicolon, joinWords?, next?_symbol]
    cases limit <;> rfl
  · rw [grouped]
    exact joinWords?_keyword limit groupWord rest (by decide) (.inr rfl)

theorem afterKeyword?_where (closing : Closing) : afterKeyword? "WHERE" closing.tokens = none := by
  obtain nothing | ⟨rest, semicolon⟩ | ⟨groupWord, rest, grouped⟩ := closing.tokens_cases
  · rw [nothing]
    rfl
  · rw [semicolon, afterKeyword?, next?_symbol]
    rfl
  · rw [grouped, groupWord.afterKeyword?_cons]
    rfl

end Closing

/-- The conditions of a query. Without any there may be a gap, which is otherwise part of the last
value. -/
inductive Filter where
  | none (gap : Gap)
  | conditions (before : Gap) (whereWord : Keyword "WHERE") (conditions : Conditions)

namespace Filter

def write : Filter → List Token → List Token
  | none gap, after => spaced gap after
  | conditions before whereWord written, after =>
    spaced before (whereWord.token :: written.write after)

def predicates : Filter → List Predicate
  | none _ => []
  | conditions _ _ written => written.predicates

def warnings : Filter → List Warning
  | none _ => []
  | conditions _ _ written => written.warnings

theorem exists_whereClause (filter : Filter) (closing : Closing) :
    ∃ gap, whereClause (filter.write closing.tokens) =
      ⟨filter.warnings, .ok (filter.predicates, spaced gap closing.tokens)⟩ := by
  cases filter with
  | none gap =>
    refine ⟨gap, ?_⟩
    rw [write, whereClause, afterKeyword?_spaced, closing.afterKeyword?_where]
    rfl
  | conditions before whereWord written =>
    refine ⟨[], ?_⟩
    rw [write, whereClause, afterKeyword?_spaced, whereWord.afterKeyword?_cons, if_pos rfl]
    exact written.conditions_write closing.stops closing.connective?_tokens

theorem joinWords?_write (filter : Filter) (closing : Closing) (limit : Nat) :
    joinWords? limit (filter.write closing.tokens) = Option.none := by
  cases filter with
  | none gap => rw [write, joinWords?_spaced, closing.joinWords?_tokens]
  | conditions before whereWord written =>
    rw [write, joinWords?_spaced]
    exact joinWords?_keyword limit whereWord _ (by decide) (.inl rfl)

end Filter

end TableQuery.Written
