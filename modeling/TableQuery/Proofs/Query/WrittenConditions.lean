import TableQuery.Proofs.Query.Written
import TableQuery.Query.ConditionList

/-! Conditions as they are written: a column, an operator and a value, with a connective between each
two. A value is everything up to the next connective, so that what stands before the connective is
part of it. -/

namespace TableQuery

open Sql (Symbol Token)

def Operator.symbol : Operator → Symbol
  | equal => .equal
  | notEqual => .notEqual
  | greater => .greater
  | less => .less
  | greaterEqual => .greaterEqual
  | lessEqual => .lessEqual

theorem Operator.symbol_ne_period (operator : Operator) : operator.symbol ≠ .period := by
  cases operator <;> decide

theorem Operator.tokenOperator_symbol (operator : Operator) :
    Grammar.tokenOperator (.symbol operator.symbol) = .ok operator := by
  cases operator <;> rfl

namespace Written

open Grammar

/-- Nothing is left, or what ends a value comes at once. -/
def Stops (rest : List Token) : Prop := ∀ token ∈ rest.head?, endsLiteral token = true

theorem literal_append {value rest : List Token} (inside : ∀ token ∈ value, endsLiteral token = false)
    (filled : spanText value ≠ "") (stops : Stops rest) :
    literal (value ++ rest) = .ok (spanText value, rest) := by
  have within : ∀ token ∈ value, (!endsLiteral token) = true := by
    intro token member
    rw [inside token member, Bool.not_false]
  have taken : rest.takeWhile (!endsLiteral ·) = [] := by
    cases rest with
    | nil => rfl
    | cons token rest => simp [stops token rfl]
  have left : rest.dropWhile (!endsLiteral ·) = rest := by
    cases rest with
    | nil => rfl
    | cons token rest => simp [stops token rfl]
  rw [literal, List.takeWhile_append_of_pos within, List.dropWhile_append_of_pos within, taken, left,
    List.append_nil]
  exact if_neg filled

structure Condition where
  before : Gap
  column : Column
  beforeOperator : Gap
  operator : Operator
  value : List Token
  inside : ∀ token ∈ value, endsLiteral token = false
  filled : spanText value ≠ ""

namespace Condition

def tokens (condition : Condition) : List Token :=
  spaced condition.before (condition.column.tokens ++
    spaced condition.beforeOperator (.symbol condition.operator.symbol :: condition.value))

def predicate (condition : Condition) : Predicate :=
  ⟨condition.column.text, condition.operator, spanText condition.value⟩

theorem condition_tokens (written : Condition) {rest : List Token} (stops : Stops rest) :
    condition (written.tokens ++ rest) = .ok (written.predicate, rest) := by
  obtain ⟨before, column, beforeOperator, operator, value, inside, filled⟩ := written
  have operatorNext (rest : List Token) :
      next? (spaced beforeOperator (.symbol operator.symbol :: rest)) =
        some (.symbol operator.symbol, rest) := by
    rw [next?_spaced, next?_symbol]
  have columnFirst : column? (column.tokens ++
      spaced beforeOperator (.symbol operator.symbol :: (value ++ rest))) = some (column.text,
        spaced beforeOperator (.symbol operator.symbol :: (value ++ rest))) := by
    refine column.column?_tokens fun after period => ?_
    rw [operatorNext] at period
    simp [operator.symbol_ne_period] at period
  simp only [tokens, spaced_append, List.append_assoc, List.cons_append, condition, column?_spaced,
    columnFirst, operatorNext, operator.tokenOperator_symbol, literal_append inside filled stops,
    predicate]

end Condition

inductive Link where
  | and (keyword : Keyword "AND")
  | or (keyword : Keyword "OR")

namespace Link

def connective : Link → Connective
  | and _ => .and
  | or _ => .or

def token : Link → Token
  | and keyword => keyword.token
  | or keyword => keyword.token

theorem stops (link : Link) (rest : List Token) : Stops (link.token :: rest) := by
  intro token first
  obtain rfl : link.token = token := by simpa using first
  cases link <;> simp [endsLiteral, Link.token]

theorem connective?_cons (link : Link) (rest : List Token) :
    connective? (link.token :: rest) = some (link.connective, rest) := by
  rw [connective?]
  cases link <;> simp [token, connective]

end Link

abbrev Conditions : Type := Chain Condition Link

namespace Conditions

def write : Conditions → List Token → List Token :=
  Chain.write (fun condition after => condition.tokens ++ after)
    fun link after => link.token :: after

def predicates (written : Conditions) : List Predicate := written.items.map Condition.predicate

def warnings (written : Conditions) : List Warning :=
  written.separators.flatMap (·.connective.warnings)

theorem conditions_write (written : Conditions) {rest : List Token} (stops : Stops rest)
    (ends : connective? rest = none) :
    conditions (written.write rest) = ⟨written.warnings, .ok (written.predicates, rest)⟩ := by
  induction written with
  | last only => exact conditions_of_last (only.condition_tokens stops) ends
  | more first link others ih =>
    have step := conditions_of_more (first.condition_tokens (link.stops (write others rest)))
      (link.connective?_cons _)
    rw [ih] at step
    exact step

end Conditions

end Written

end TableQuery
