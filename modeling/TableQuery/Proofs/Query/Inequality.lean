import TableQuery.Proofs.Sql.SourceText
import TableQuery.Query.Grammar

/-! Conditions that compare by inequality. Both spellings are one operator to a reader of tokens,
and what stands in the text at its place tells them apart: a condition is read with the one and
refused with the other. -/

namespace TableQuery.Grammar

open Sql (Lexeme Token WrittenAs)

def ConditionBy (operator : Token)
    (outcome : String → List Token → Except QueryError (Predicate × List Token)) : Prop :=
  ∀ tokens field rest after, column? tokens = some (field, rest) →
    next? rest = some (operator, after) → condition tokens = outcome field after

theorem conditionBy_notEqual : ConditionBy (.symbol .notEqual) fun field after =>
    (literal after).map fun (text, left) => (⟨field, .notEqual, text⟩, left) := by
  intro tokens field rest after column operator
  rw [condition, column]
  dsimp only
  rw [operator]
  dsimp only [tokenOperator]
  cases literal after with
  | error error => rfl
  | ok read => rfl

theorem conditionBy_angleNotEqual : ConditionBy (.symbol .angleNotEqual) fun _ _ =>
    .error (.unsupported (.operator "<>")) := by
  intro tokens field rest after column operator
  rw [condition, column]
  dsimp only
  rw [operator]
  rfl

/-- In a text that has tokens, each inequality is `!=` or `<>`, and what is found at its position is
just that. A condition by the first is one of inequality, whatever its literal; by the second it is
refused. -/
theorem condition_of_inequality {text : String} {tokens : List Token}
    (spelled : Sql.tokens text = .ok tokens) :
    ∃ found, Sql.lexemes text.toList = .ok found ∧ tokens = found.map (Lexeme.spelled text.toList) ∧
      ∀ lexeme ∈ found, lexeme.token.isInequality = true →
        (WrittenAs text.toList lexeme "!=" ∧
          ConditionBy (lexeme.spelled text.toList) fun field after =>
            (literal after).map fun (value, left) => (⟨field, .notEqual, value⟩, left)) ∨
        (WrittenAs text.toList lexeme "<>" ∧
          ConditionBy (lexeme.spelled text.toList) fun _ _ =>
            .error (.unsupported (.operator "<>"))) := by
  unfold Sql.tokens at spelled
  split at spelled
  next found read =>
    cases spelled
    refine ⟨found, read, rfl, fun lexeme member unequal => ?_⟩
    obtain ⟨symbol, same, either, written⟩ := Sql.writtenAs_of_isInequality read member unequal
    rw [Sql.spelled_of_mem read member, same]
    rcases either with rfl | rfl
    · exact .inl ⟨written, conditionBy_notEqual⟩
    · exact .inr ⟨written, conditionBy_angleNotEqual⟩
  next => cases spelled

/-- Lines that end in three ways, also within a string and within a comment. -/
def mixedText : String := "a\r!= 'x\r\ny' /* \n */ AND\r\nb\n\n <>2"

def mixedTokens : List Token :=
  [.word "a" none, .blank .newline, .symbol .notEqual, .blank .space, .string .single "x\r\ny",
    .blank .space, .comment (.block " \n "), .blank .space, .word "AND" none, .blank .newline,
    .word "b" none, .blank .newline, .blank .newline, .blank .space, .symbol .angleNotEqual,
    .number "2"]

theorem condition_of_inequality_mixed :
    Sql.tokens mixedText = .ok mixedTokens ∧
      ∃ found, Sql.lexemes mixedText.toList = .ok found ∧
        mixedTokens = found.map (Lexeme.spelled mixedText.toList) ∧
        ∀ lexeme ∈ found, lexeme.token.isInequality = true →
          (WrittenAs mixedText.toList lexeme "!=" ∧
            ConditionBy (lexeme.spelled mixedText.toList) fun field after =>
              (literal after).map fun (value, left) => (⟨field, .notEqual, value⟩, left)) ∨
          (WrittenAs mixedText.toList lexeme "<>" ∧
            ConditionBy (lexeme.spelled mixedText.toList) fun _ _ =>
              .error (.unsupported (.operator "<>"))) := by
  have spelled : Sql.tokens mixedText = .ok mixedTokens := eq_ok_of_toOption (by decide +kernel)
  exact ⟨spelled, condition_of_inequality spelled⟩

end TableQuery.Grammar
