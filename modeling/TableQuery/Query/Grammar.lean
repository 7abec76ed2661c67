import TableQuery.Query
import TableQuery.Query.ConditionList
import TableQuery.Query.SelectList
import TableQuery.Sql.Lexer

/-! The grammar of queries. Every rule takes its part off the front of the tokens, and a text is
a query when nothing but a semicolon and white space is left. -/

namespace TableQuery.Grammar

open Sql (Token)

/-- The words before JOIN, at most so many, and the tokens after it. A word that begins another
clause is none of them. -/
def joinWords? (limit : Nat) (tokens : List Token) : Option (List String × List Token) :=
  match next? tokens with
  | none => none
  | some (token, rest) =>
    if token.isKeyword "JOIN" then some ([], rest)
    else match limit, token with
      | limit + 1, .word value _ =>
        if token.isKeyword "WHERE" ∨ token.isKeyword "GROUP" then none
        else (joinWords? limit rest).map fun (words, after) => (upperName value :: words, after)
      | _, _ => none

def joinKind (words : List String) : JoinKind :=
  match words with
  | [] => .inner
  | ["INNER"] => .inner
  | ["LEFT"] => .left
  | ["LEFT", "OUTER"] => .left
  | ["RIGHT"] => .right
  | ["RIGHT", "OUTER"] => .right
  | words => .unsupported (" ".intercalate words)

def joinColumn (tokens : List Token) : Except ParseError (String × List Token) :=
  match column? tokens with
  | some (column, rest) =>
    if (ColumnKey.ofText column).isQualified then .ok (column, rest) else .error .joinColumnExpected
  | none => .error .joinColumnExpected

def joinCondition (tokens : List Token) : Except ParseError (JoinCondition × List Token) := do
  let (left, rest) ← joinColumn tokens
  match next? rest with
  | some (.symbol .equal, rest) =>
    let (right, rest) ← joinColumn rest
    pure (⟨left, right⟩, rest)
  | _ => .error .joinEqualExpected

def joinClause (tokens : List Token) : Except ParseError (Option JoinClause × List Token) :=
  match joinWords? 2 tokens with
  | none => .ok (none, tokens)
  | some (words, rest) => do
    let some (table, rest) := word? rest | .error (.tableExpected "JOIN")
    let some rest := afterKeyword? "ON" rest | .error (.keywordExpected "ON")
    let (condition, rest) ← joinCondition rest
    pure (some ⟨joinKind words, table, condition⟩, rest)

def whereClause (tokens : List Token) : Reading (List Predicate × List Token) :=
  match afterKeyword? "WHERE" tokens with
  | some rest => conditions rest
  | none => .ok ([], tokens)

def columnList (tokens : List Token) : Except ParseError (List String × List Token) :=
  match _hc : column? tokens with
  | none => .error .groupColumnExpected
  | some (column, rest) =>
    match _hn : next? rest with
    | some (.symbol .comma, after) =>
      match columnList after with
      | .ok (columns, after) => .ok (column :: columns, after)
      | .error error => .error error
    | _ => .ok ([column], rest)
termination_by tokens.length
decreasing_by
  exact ((column?_remains _hc).of_suffix (next?_remains _hn).ends).shorter

theorem columnList_of_none {tokens : List Token} (h : column? tokens = none) :
    columnList tokens = .error .groupColumnExpected := by
  rw [columnList]
  split <;> simp_all

theorem columnList_of_last {tokens rest : List Token} {column : String}
    (h : column? tokens = some (column, rest))
    (hlast : ∀ after, next? rest ≠ some (.symbol .comma, after)) :
    columnList tokens = .ok ([column], rest) := by
  rw [columnList]
  split
  next hc => simp_all
  next hc =>
    rw [h] at hc
    simp only [Option.some.injEq, Prod.mk.injEq] at hc
    obtain ⟨rfl, rfl⟩ := hc
    split
    next hn => exact absurd hn (hlast _)
    next => rfl

theorem columnList_of_comma {tokens rest after : List Token} {column : String}
    (h : column? tokens = some (column, rest))
    (hcomma : next? rest = some (.symbol .comma, after)) :
    columnList tokens =
      (columnList after).map fun (columns, left) => (column :: columns, left) := by
  rw [columnList]
  split
  next hc => simp_all
  next hc =>
    rw [h] at hc
    simp only [Option.some.injEq, Prod.mk.injEq] at hc
    obtain ⟨rfl, rfl⟩ := hc
    split
    next hn =>
      rw [hcomma] at hn
      simp only [Option.some.injEq, Prod.mk.injEq, true_and] at hn
      subst hn
      cases columnList after with
      | ok read => rfl
      | error error => rfl
    next hn => exact absurd hcomma (hn _)

theorem columnList_of_more {tokens rest after left : List Token} {column : String}
    {columns : List String} (h : column? tokens = some (column, rest))
    (hcomma : next? rest = some (.symbol .comma, after))
    (hmore : columnList after = .ok (columns, left)) :
    columnList tokens = .ok (column :: columns, left) := by
  rw [columnList_of_comma h hcomma, hmore]
  rfl

def groupClause (tokens : List Token) : Except ParseError (Option (List String) × List Token) :=
  match afterKeyword? "GROUP" tokens with
  | none => .ok (none, tokens)
  | some rest =>
    match afterKeyword? "BY" rest with
    | none => .error (.keywordExpected "BY")
    | some rest => (columnList rest).map fun (columns, after) => (some columns, after)

/-- After a whole text there may be a semicolon and white space. -/
def expectEnd (tokens : List Token) : Except ParseError Unit :=
  let rest := match next? tokens with
    | some (.symbol .semicolon, rest) => rest
    | _ => tokens
  match next? rest with
  | none => .ok ()
  | some (token, _) => .error (.unexpected token.text)

def queryHead (tokens : List Token) :
    Except ParseError ((List Field × String × Option JoinClause) × List Token) := do
  let some rest := afterKeyword? "SELECT" tokens | .error .selectExpected
  let (fields, rest) ← selectList rest
  let some (table, rest) := word? rest | .error (.tableExpected "FROM")
  let (join, rest) ← joinClause rest
  pure ((fields, table, join), rest)

def readingOf {α : Type} (outcome : Except ParseError α) : Reading α :=
  .ofExcept (outcome.mapError .parse)

@[simp] theorem readingOf_ok {α : Type} (value : α) : readingOf (.ok value) = .ok value := rfl

def selectQuery (tokens : List Token) : Reading (Query × List Token) := do
  let ((fields, table, join), rest) ← readingOf (queryHead tokens)
  let (conditions, rest) ← whereClause rest
  let (groupBy, rest) ← readingOf (groupClause rest)
  let aggregatesAll := groupBy.isNone && fields.any Field.isAggregate
  pure (⟨fields, table, join, conditions, groupBy, aggregatesAll⟩, rest)

def finished {α : Type} (reading : Reading (α × List Token)) : Reading α := do
  let (value, rest) ← reading
  readingOf (expectEnd rest)
  pure value

def query (tokens : List Token) : Reading Query := finished (selectQuery tokens)

def wholeConditions (tokens : List Token) : Reading (List Predicate) :=
  finished (conditions tokens)

end TableQuery.Grammar

namespace TableQuery

def readTokens {α : Type} (read : List Sql.Token → Reading α) (text : String) : Reading α :=
  match Sql.tokens text with
  | .ok tokens => read tokens
  | .error fault => .fail (.parse (.spelling fault))

def readQuery (text : String) : Reading Query := readTokens Grammar.query text

def readConditions (text : String) : Reading (List Predicate) :=
  readTokens Grammar.wholeConditions text

end TableQuery
