import Mathlib.Data.List.Forall2
import TableQuery.Coercion
import TableQuery.Proofs.Query.WrittenClauses
import TableQuery.Proofs.Sql.Spelling

/-! Conditions on any columns and any texts, written with quotes around both and the quotes in them
doubled. Nothing that stands in the quotes can end them, so the conditions come out as they went in. -/

namespace TableQuery

open Sql (Blank Spells Token)
open Written (Conditions)

theorem Operator.readToken_spelling (operator : Operator) (rest : List Char) :
    Sql.readToken (operator.spelling.toList ++ ' ' :: rest) =
      some (.ok (.symbol operator.symbol, ' ' :: rest)) := by
  cases operator <;> rfl

structure Comparison where
  field : String
  operator : Operator
  value : String

namespace Comparison

def quotedIn (quote : Char) (s : String) : String :=
  String.ofList (quote :: (Sql.doubled quote s.toList ++ [quote]))

def text (comparison : Comparison) : String :=
  quotedIn '"' comparison.field ++ " " ++ comparison.operator.spelling ++ " " ++
    quotedIn '\'' comparison.value

def conjunction (comparisons : List Comparison) : String :=
  " AND ".intercalate (comparisons.map text)

def predicate (comparison : Comparison) : Predicate where
  field := comparison.field
  operator := comparison.operator
  literal := String.ofList ('\'' :: (comparison.value.toList ++ ['\'']))

theorem coerceText_literal (comparison : Comparison) :
    coerceText comparison.predicate.literal = .text comparison.value := by
  rw [predicate, ← List.cons_append, coerceText_quoted, String.ofList_toList]

def valueTokens (comparison : Comparison) (after : List Blank) : List Token :=
  Written.spaced [.blank .space] ([.string .single comparison.value] ++
    Written.spaced (after.map .blank) [])

theorem spanText_valueTokens (comparison : Comparison) (after : List Blank) :
    Grammar.spanText (comparison.valueTokens after) = comparison.predicate.literal := by
  have span : Grammar.spanText (comparison.valueTokens after) =
      Grammar.spanText [.string .single comparison.value] :=
    Written.spanText_of_blanks [.space] after _
  have trimmed : Text.trim ('\'' :: (comparison.value.toList ++ ['\''])) = _ :=
    Text.trim_eq_self (by decide) (by decide) ⟨'\'' :: comparison.value.toList, rfl⟩
  have shown : [Token.string .single comparison.value].flatMap (·.text.toList) =
      '\'' :: (comparison.value.toList ++ ['\'']) := by
    simp [Token.text, Sql.StringForm.opening, Sql.StringForm.closing]
  rw [span, Grammar.spanText, shown, trimmed, predicate]

def condition (before : Written.Gap) (comparison : Comparison) (after : List Blank) :
    Written.Condition where
  before := before
  column := .plain ⟨comparison.field, some .double, fun _ _ => rfl⟩
  beforeOperator := [.blank .space]
  operator := comparison.operator
  value := comparison.valueTokens after
  inside := by
    simp [valueTokens, Written.spaced, Written.Space.token, Grammar.endsLiteral, Token.isKeyword]
  filled := by
    rw [spanText_valueTokens]
    simp [predicate]

@[simp] theorem predicate_condition (before : Written.Gap) (comparison : Comparison)
    (after : List Blank) : (comparison.condition before after).predicate = comparison.predicate := by
  rw [Written.Condition.predicate, condition, spanText_valueTokens]
  rfl

def andWord : Written.Keyword "AND" := ⟨"AND", by decide⟩

def conditions (before : Written.Gap) (first : Comparison) : List Comparison → Conditions
  | [] => .last (first.condition before [])
  | second :: others =>
    .more (first.condition before [.space]) (.and andWord)
      (conditions [.blank .space] second others)

@[simp] theorem predicates_conditions (before : Written.Gap) (first : Comparison)
    (others : List Comparison) :
    (conditions before first others).predicates = (first :: others).map predicate := by
  induction others generalizing before first with
  | nil => simp [conditions, Conditions.predicates, Written.Chain.items]
  | cons second others ih =>
    have rest := ih [.blank .space] second
    rw [Conditions.predicates] at rest ⊢
    rw [conditions, Written.Chain.items, List.map_cons, predicate_condition, rest, List.map_cons]
    rfl

@[simp] theorem warnings_conditions (before : Written.Gap) (first : Comparison)
    (others : List Comparison) : (conditions before first others).warnings = [] := by
  induction others generalizing before first with
  | nil => rfl
  | cons second others ih => exact ih [.blank .space] second

theorem write_conditions (before : Written.Gap) (first : Comparison) (others : List Comparison)
    (rest : List Token) :
    Conditions.write (conditions before first others) rest =
      Written.spaced before (Conditions.write (conditions [] first others) rest) := by
  cases others <;> exact Written.spaced_append ..

theorem toList_text (comparison : Comparison) (rest : List Char) :
    comparison.text.toList ++ rest =
      '"' :: (Sql.doubled '"' comparison.field.toList ++ '"' :: ' ' ::
        (comparison.operator.spelling.toList ++ ' ' ::
          '\'' :: (Sql.doubled '\'' comparison.value.toList ++ '\'' :: rest))) := by
  simp [text, quotedIn]

theorem spells_text (comparison : Comparison) {rest : List Char} {tokens : List Token}
    (ends : rest.head? ≠ some '\'') (others : Spells rest tokens) :
    Spells (comparison.text.toList ++ rest)
      (.word comparison.field (some .double) :: .blank .space ::
        .symbol comparison.operator.symbol :: .blank .space ::
          .string .single comparison.value :: tokens) := by
  have spaceNext (s : List Char) : (' ' :: s).head? ≠ some '"' := nofun
  have field := Sql.readToken_quotedWord comparison.field.toList (spaceNext
    (comparison.operator.spelling.toList ++ ' ' ::
      '\'' :: (Sql.doubled '\'' comparison.value.toList ++ '\'' :: rest)))
  have value := Sql.readToken_string comparison.value.toList ends
  rw [String.ofList_toList] at field value
  rw [toList_text]
  exact .cons field (.cons (Sql.readToken_space _) (.cons (comparison.operator.readToken_spelling _)
    (.cons (Sql.readToken_space _) (.cons value others))))

theorem spells_conjunction (first : Comparison) (others : List Comparison) :
    Spells (conjunction (first :: others)).toList
      (Conditions.write (conditions [] first others) []) := by
  induction others generalizing first with
  | nil =>
    have spelled : Spells (first.text.toList ++ []) _ := first.spells_text nofun .nil
    rw [List.append_nil] at spelled
    exact spelled
  | cons second others ih =>
    have joined : (conjunction (first :: second :: others)).toList = first.text.toList ++
        ' ' :: 'A' :: 'N' :: 'D' :: ' ' :: (conjunction (second :: others)).toList := by
      simp [conjunction]
    have spelled : Spells (first.text.toList ++
        ' ' :: 'A' :: 'N' :: 'D' :: ' ' :: (conjunction (second :: others)).toList) _ :=
      first.spells_text nofun (.cons (Sql.readToken_space _) (.cons (Sql.readToken_and _)
        (.cons (Sql.readToken_space _) (ih second))))
    have written : Conditions.write (conditions [] first (second :: others)) [] =
        .word first.field (some .double) :: .blank .space :: .symbol first.operator.symbol ::
          .blank .space :: .string .single first.value :: .blank .space :: .word "AND" none ::
            Conditions.write (conditions [.blank .space] second others) [] := rfl
    rw [joined, written, write_conditions]
    exact spelled

/-- A conjunction of comparisons is read as these comparisons and no others, in their order, and each
text takes part in its comparison as it is. -/
theorem readConditions_conjunction (first : Comparison) (others : List Comparison) :
    ∃ predicates, readConditions (conjunction (first :: others)) = .ok predicates ∧
      List.Forall₂ (fun comparison predicate =>
        predicate.field = comparison.field ∧ predicate.operator = comparison.operator ∧
          coerceText predicate.literal = .text comparison.value)
        (first :: others) predicates := by
  have read : Grammar.conditions (Conditions.write (conditions [] first others) []) = _ :=
    Conditions.conditions_write _ nofun rfl
  rw [predicates_conditions, warnings_conditions] at read
  refine ⟨(first :: others).map predicate, ?_, ?_⟩
  · rw [readConditions, readTokens, (spells_conjunction first others).tokens_eq]
    dsimp only
    rw [Grammar.wholeConditions, Grammar.finished, read, Traced.mk_ok_bind]
    rfl
  · rw [List.forall₂_map_right_iff, List.forall₂_same]
    exact fun comparison _ => ⟨rfl, rfl, comparison.coerceText_literal⟩

end Comparison

end TableQuery
