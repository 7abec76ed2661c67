import TableQuery.Query.Cursor
import TableQuery.Query.Predicate
import TableQuery.Query.Reading

/-! Conditions with connectives between them. Each OR that is passed leaves a warning, also in a
text that turns out to be none of the grammar. -/

namespace TableQuery.Grammar

open Sql (Token)

def tokenOperator (token : Token) : Except QueryError Operator :=
  match token with
  | .symbol .equal => .ok .equal
  | .symbol .notEqual => .ok .notEqual
  | .symbol .greater => .ok .greater
  | .symbol .less => .ok .less
  | .symbol .greaterEqual => .ok .greaterEqual
  | .symbol .lessEqual => .ok .lessEqual
  | .symbol .angleNotEqual | .symbol .doubleEqual | .symbol .spaceship =>
    .error (.unsupported (.operator token.text))
  | token => .error (.parse (.operatorExpected token.text))

def endsLiteral (token : Token) : Bool :=
  token.isKeyword "AND" || token.isKeyword "OR" || token.isKeyword "GROUP" ||
    token == .symbol .semicolon

def literal (tokens : List Token) : Except QueryError (String × List Token) :=
  let text := spanText (tokens.takeWhile (!endsLiteral ·))
  if text = "" then .error (.parse .valueMissing)
  else .ok (text, tokens.dropWhile (!endsLiteral ·))

def condition (tokens : List Token) : Except QueryError (Predicate × List Token) :=
  match column? tokens with
  | none => .error (.parse .conditionExpected)
  | some (field, rest) =>
    match next? rest with
    | none => .error (.parse .operatorMissing)
    | some (token, rest) =>
      match tokenOperator token with
      | .error error => .error error
      | .ok operator =>
        match literal rest with
        | .error error => .error error
        | .ok (text, rest) => .ok (⟨field, operator, text⟩, rest)

theorem literal_suffix {tokens rest : List Token} {text : String}
    (read : literal tokens = .ok (text, rest)) : rest <:+ tokens := by
  unfold literal at read
  dsimp only at read
  split at read
  next => cases read
  next =>
    cases read
    exact List.dropWhile_suffix _

theorem condition_remains {tokens rest : List Token} {predicate : Predicate}
    (read : condition tokens = .ok (predicate, rest)) : Remains rest tokens := by
  unfold condition at read
  split at read
  next => cases read
  next column =>
    split at read
    next => cases read
    next operator =>
      split at read
      next => cases read
      next =>
        split at read
        next => cases read
        next value =>
          cases read
          exact (column?_remains column).of_suffix
            ((literal_suffix value).trans (next?_remains operator).ends)

inductive Connective where
  | and
  | or
  deriving DecidableEq

def Connective.warnings : Connective → List Warning
  | and => []
  | or => [.orReadAsAnd]

def connective? (tokens : List Token) : Option (Connective × List Token) :=
  match next? tokens with
  | none => none
  | some (token, rest) =>
    if token.isKeyword "AND" then some (.and, rest)
    else if token.isKeyword "OR" then some (.or, rest)
    else none

theorem connective?_remains {tokens rest : List Token} {connective : Connective}
    (read : connective? tokens = some (connective, rest)) : Remains rest tokens := by
  unfold connective? at read
  split at read
  next => cases read
  next first =>
    have remains := next?_remains first
    split at read
    next =>
      cases read
      exact remains
    next =>
      split at read
      next =>
        cases read
        exact remains
      next => cases read

/-- An OR is passed, and leaves its warning, before the condition after it is looked at. -/
def conditions (tokens : List Token) : Reading (List Predicate × List Token) :=
  match _hc : condition tokens with
  | .error error => .fail error
  | .ok (predicate, rest) =>
    match _hn : connective? rest with
    | none => .ok ([predicate], rest)
    | some (connective, after) =>
      let more := conditions after
      ⟨connective.warnings ++ more.trace,
        more.outcome.map fun (predicates, after) => (predicate :: predicates, after)⟩
termination_by tokens.length
decreasing_by
  exact ((condition_remains _hc).of_suffix (connective?_remains _hn).ends).shorter

theorem conditions_of_error {tokens : List Token} {error : QueryError}
    (h : condition tokens = .error error) : conditions tokens = .fail error := by
  rw [conditions]
  split <;> simp_all

theorem conditions_of_last {tokens rest : List Token} {predicate : Predicate}
    (h : condition tokens = .ok (predicate, rest)) (hlast : connective? rest = none) :
    conditions tokens = .ok ([predicate], rest) := by
  rw [conditions]
  split
  next hc => simp_all
  next hc =>
    rw [h] at hc
    simp only [Except.ok.injEq, Prod.mk.injEq] at hc
    obtain ⟨rfl, rfl⟩ := hc
    split <;> simp_all

theorem conditions_of_more {tokens rest after : List Token} {predicate : Predicate}
    {connective : Connective} (h : condition tokens = .ok (predicate, rest))
    (hmore : connective? rest = some (connective, after)) :
    conditions tokens =
      ⟨connective.warnings ++ (conditions after).trace,
        (conditions after).outcome.map fun (predicates, rest) =>
          (predicate :: predicates, rest)⟩ := by
  rw [conditions]
  split
  next hc => simp_all
  next hc =>
    rw [h] at hc
    simp only [Except.ok.injEq, Prod.mk.injEq] at hc
    obtain ⟨rfl, rfl⟩ := hc
    split
    next hn => simp_all
    next hn =>
      rw [hmore] at hn
      simp only [Option.some.injEq, Prod.mk.injEq] at hn
      obtain ⟨rfl, rfl⟩ := hn
      rfl

end TableQuery.Grammar
