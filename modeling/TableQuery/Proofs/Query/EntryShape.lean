import TableQuery.Proofs.Query.Accepted
import TableQuery.Proofs.Query.Splitting

/-! What the entries of an accepted select list look like. An entry that begins with a call and ends
with a parenthesis is taken for that call, also when the call is closed before: what comes after it
is not looked at, unless the function is an aggregate. -/

namespace TableQuery.Grammar

open Sql (Quote Token)

def entries (tokens : List Token) : List (List Token) :=
  match _h : splitEntry 0 tokens with
  | (entry, []) => [entry]
  | (entry, separator :: rest) =>
    if separator = .symbol .comma then entry :: entries rest else [entry]
termination_by tokens.length
decreasing_by
  have := splitEntry_length 0 tokens
  rw [_h, List.length_cons] at this
  omega

theorem entries_of_split {tokens entry rest : List Token} {separator : Token}
    (splits : splitEntry 0 tokens = (entry, separator :: rest)) :
    entries tokens = if separator = .symbol .comma then entry :: entries rest else [entry] := by
  rw [entries]
  split <;> simp_all

/-- The number of open parentheses after a token. No parenthesis closes what none has opened. -/
def nest (depth : Nat) : Token → Option Nat
  | .symbol .openParen => some (depth + 1)
  | .symbol .closeParen => if depth = 0 then none else some (depth - 1)
  | _ => some depth

def Balanced (tokens : List Token) : Prop := tokens.foldlM nest 0 = some 0

/-- A star, a column with or without its table, or one call that ends where the entry ends. -/
inductive Shaped : List Token → Prop
  | star : Shaped [.symbol .star]
  | column (name : String) (quote : Option Quote) : Shaped [.word name quote]
  | ofTable (table name : String) (tableQuote quote : Option Quote) :
    Shaped [.word table tableQuote, .symbol .period, .word name quote]
  | call (function : String) (quote : Option Quote) {inner : List Token} (balanced : Balanced inner) :
    Shaped (.word function quote :: .symbol .openParen :: (inner ++ [.symbol .closeParen]))

def isAggregateName (name : String) : Bool :=
  upperName name = "COUNT" || (columnAggregate? (upperName name)).isSome

/-- A call of no aggregate is closed, and what comes after it ends with a parenthesis too. -/
def Overruns (tokens : List Token) : Prop :=
  ∃ function quote before after,
    tokens = .word function quote :: .symbol .openParen ::
      (before ++ .symbol .closeParen :: (after ++ [.symbol .closeParen])) ∧
    Balanced before ∧ isAggregateName function = false

theorem eq_closeParen_of_nest {depth : Nat} {token : Token} (fails : nest depth token = none) :
    depth = 0 ∧ token = .symbol .closeParen := by
  unfold nest at fails
  split at fails
  · cases fails
  · split at fails
    next zero => exact ⟨zero, rfl⟩
    next => cases fails
  · cases fails

theorem depthAfter_of_nest {depth reached : Nat} {token : Token}
    (nests : nest depth token = some reached) : depthAfter (depth + 1) token = reached + 1 := by
  unfold nest at nests
  split at nests
  · cases nests
    rfl
  · split at nests
    · cases nests
    next nonzero =>
      cases nests
      exact (Nat.succ_pred_eq_of_ne_zero nonzero).symm
  next notOpen notClose =>
    cases nests
    unfold depthAfter
    split
    · exact absurd rfl notOpen
    · exact absurd rfl notClose
    · rfl

theorem foldl_depthAfter_of_nest {depth reached : Nat} {tokens : List Token}
    (nests : tokens.foldlM nest depth = some reached) :
    tokens.foldl depthAfter (depth + 1) = reached + 1 := by
  induction tokens generalizing depth with
  | nil =>
    cases nests
    rfl
  | cons token tokens ih =>
    rw [List.foldlM_cons, Option.bind_eq_bind, Option.bind_eq_some_iff] at nests
    obtain ⟨next, step, others⟩ := nests
    rw [List.foldl_cons, depthAfter_of_nest step, ih others]

theorem exists_close_of_not_nested {depth : Nat} {tokens : List Token}
    (fails : tokens.foldlM nest depth = none) :
    ∃ before after, tokens = before ++ .symbol .closeParen :: after ∧
      before.foldlM nest depth = some 0 := by
  induction tokens generalizing depth with
  | nil => cases fails
  | cons token tokens ih =>
    cases step : nest depth token with
    | none =>
      obtain ⟨rfl, rfl⟩ := eq_closeParen_of_nest step
      exact ⟨[], tokens, rfl, rfl⟩
    | some next =>
      rw [List.foldlM_cons, step] at fails
      obtain ⟨before, after, rfl, nests⟩ := ih fails
      refine ⟨token :: before, after, rfl, ?_⟩
      rw [List.foldlM_cons, step]
      exact nests

theorem not_nested_of_close {before after : List Token} (balanced : Balanced before) :
    (before ++ .symbol .closeParen :: after).foldlM nest 0 = none := by
  rw [List.foldlM_append, balanced]
  rfl

theorem Shaped.not_overruns {tokens : List Token} (shaped : Shaped tokens) : ¬ Overruns tokens := by
  rintro ⟨function, quote, before, after, written, balanced, -⟩
  cases shaped with
  | star => cases written
  | column name quote => cases written
  | ofTable table name tableQuote quote => cases written
  | @call function quote inner balancedInner =>
    simp only [List.cons.injEq, true_and] at written
    have same : inner = before ++ .symbol .closeParen :: after :=
      List.append_cancel_right (written.2.trans (by simp))
    rw [same, Balanced, not_nested_of_close balanced] at balancedInner
    cases balancedInner

theorem depthWithin_eq_some {depth reached : Nat} {tokens : List Token}
    (within : depthWithin depth tokens = some reached) : tokens.foldl depthAfter depth = reached := by
  induction tokens generalizing depth with
  | nil => exact Option.some.inj within
  | cons token tokens ih =>
    rw [depthWithin] at within
    split at within
    · cases within
    · exact ih within

theorem foldl_depthAfter_filter (depth : Nat) (tokens : List Token) :
    (tokens.filter (!·.isSpace)).foldl depthAfter depth = tokens.foldl depthAfter depth := by
  induction tokens generalizing depth with
  | nil => rfl
  | cons token tokens ih =>
    cases token with
    | blank blank => exact ih depth
    | comment comment => exact ih depth
    | _ => exact ih _

theorem balanced_of_argument? {tokens : List Token} {argument : Argument}
    (read : argument? tokens = some argument) : Balanced tokens := by
  unfold argument? at read
  split at read
  · rfl
  · rfl
  · rfl
  · cases read

theorem balanced_of_callKind {function text : String} {arguments : List Token} {kind : FieldKind}
    (aggregate : isAggregateName function = true)
    (read : callKind function arguments text = .ok kind) : Balanced arguments := by
  cases taken : argument? arguments with
  | some argument => exact balanced_of_argument? taken
  | none =>
    by_cases counts : upperName function = "COUNT"
    · simp [callKind, taken, counts] at read
    · obtain ⟨make, column⟩ : ∃ make, columnAggregate? (upperName function) = some make := by
        simpa [isAggregateName, counts, Option.isSome_iff_exists] using aggregate
      simp [callKind, taken, counts, column] at read

theorem shaped_or_call_of_fieldKind {tokens : List Token} {text : String} {kind : FieldKind}
    (read : fieldKind tokens text = .ok kind) :
    Shaped tokens ∨ ∃ function quote inner,
      tokens = .word function quote :: .symbol .openParen :: (inner ++ [.symbol .closeParen]) ∧
        callKind function inner text = .ok kind := by
  unfold fieldKind at read
  split at read
  · cases read
  · exact .inl .star
  · exact .inl (.column _ _)
  · exact .inl (.ofTable ..)
  next function quote inner =>
    split at read
    next last =>
      obtain ⟨inner, rfl⟩ := List.getLast?_eq_some_iff.1 last
      rw [List.dropLast_concat] at read
      exact .inr ⟨function, quote, inner, rfl, read⟩
    next => cases read
  · cases read

theorem shaped_or_overruns {entry : List Token} {field : Field}
    (within : depthWithin 0 entry = some 0) (read : entryField entry = .ok field) :
    Shaped (entry.filter (!·.isSpace)) ∨ Overruns (entry.filter (!·.isSpace)) := by
  have depth := (foldl_depthAfter_filter 0 entry).trans (depthWithin_eq_some within)
  obtain ⟨kind, kindRead, -⟩ : ∃ kind, fieldKind (entry.filter (!·.isSpace)) (spanText entry) =
      .ok kind ∧ _ := map_eq_ok_iff.1 read
  obtain shaped | ⟨function, quote, inner, written, call⟩ := shaped_or_call_of_fieldKind kindRead
  · exact .inl shaped
  · rw [written] at depth ⊢
    have closes : inner.foldl depthAfter 1 - 1 = 0 := by
      rw [List.foldl_cons, List.foldl_cons, List.foldl_append] at depth
      exact depth
    cases nests : inner.foldlM nest 0 with
    | some reached =>
      rw [foldl_depthAfter_of_nest nests, Nat.add_sub_cancel] at closes
      subst closes
      exact .inl (.call function quote nests)
    | none =>
      obtain ⟨before, after, rfl, balanced⟩ := exists_close_of_not_nested nests
      refine .inr ⟨function, quote, before, after, by simp, balanced, ?_⟩
      refine Bool.eq_false_iff.2 fun aggregate => ?_
      have argument := balanced_of_callKind aggregate call
      rw [Balanced, nests] at argument
      cases argument

theorem exists_field_of_mem_entries {tokens after : List Token} {fields : List Field}
    (read : selectList tokens = .ok (fields, after)) {entry : List Token}
    (member : entry ∈ entries tokens) :
    depthWithin 0 entry = some 0 ∧ ∃ field ∈ fields, entryField entry = .ok field := by
  revert member
  refine selectList_induction ?last ?more read
  case last =>
    intro tokens only separator field splits other understood member
    rw [entries_of_split splits, if_neg other, List.mem_singleton] at member
    subst member
    exact ⟨(splitEntry_eq_iff.1 splits).2.1, field, .head _, understood⟩
  case more =>
    intro tokens first rest field fields splits understood ih member
    rw [entries_of_split splits, if_pos rfl, List.mem_cons] at member
    obtain rfl | member := member
    · exact ⟨(splitEntry_eq_iff.1 splits).2.1, field, .head _, understood⟩
    · obtain ⟨within, other, among, understood⟩ := ih member
      exact ⟨within, other, .tail _ among, understood⟩

/-- In a text that is accepted, an entry of the select list is as it should be exactly when it does not
overrun. -/
theorem shaped_iff_of_readQuery {text : String} {query : Query}
    (accepted : (readQuery text).outcome = .ok query) :
    ∃ tokens list, Sql.tokens text = .ok tokens ∧ afterKeyword? "SELECT" tokens = some list ∧
      ∀ entry ∈ entries list,
        (Shaped (entry.filter (!·.isSpace)) ↔ ¬ Overruns (entry.filter (!·.isSpace))) := by
  obtain ⟨tokens, spelled, accepted⟩ := exists_tokens_of_readQuery accepted
  obtain ⟨list, after, selects, read⟩ := exists_selectList_of_query accepted
  refine ⟨tokens, list, spelled, selects, fun entry member => ⟨Shaped.not_overruns, ?_⟩⟩
  intro contained
  obtain ⟨within, field, -, understood⟩ := exists_field_of_mem_entries read member
  exact (shaped_or_overruns within understood).resolve_right contained

def hiddenSumText : String := "SELECT f(a) + SUM(b) FROM t"

def hiddenSum : Query where
  fields := [⟨"f(a) + SUM(b)", .plain "f(a) + SUM(b)"⟩]
  table := "t"
  join := none
  conditions := []
  groupBy := none
  aggregatesAll := false

theorem readQuery_hiddenSumText : (readQuery hiddenSumText).outcome = .ok hiddenSum :=
  eq_ok_of_toOption (by decide +kernel)

theorem shaped_iff_of_hiddenSumText :
    (readQuery hiddenSumText).outcome = .ok hiddenSum ∧
      ∃ tokens list, Sql.tokens hiddenSumText = .ok tokens ∧
        afterKeyword? "SELECT" tokens = some list ∧
        ∀ entry ∈ entries list,
          (Shaped (entry.filter (!·.isSpace)) ↔ ¬ Overruns (entry.filter (!·.isSpace))) :=
  ⟨readQuery_hiddenSumText, shaped_iff_of_readQuery readQuery_hiddenSumText⟩

def hiddenSumTokens : List Token :=
  [.blank .space, .word "f" none, .symbol .openParen, .word "a" none, .symbol .closeParen,
    .blank .space, .other "+", .blank .space, .word "SUM" none, .symbol .openParen, .word "b" none,
    .symbol .closeParen, .blank .space]

theorem hiddenSumText_not_shaped :
    (readQuery hiddenSumText).outcome = .ok hiddenSum ∧
      ∃ tokens list, Sql.tokens hiddenSumText = .ok tokens ∧
        afterKeyword? "SELECT" tokens = some list ∧
        ∃ entry ∈ entries list, ¬ Shaped (entry.filter (!·.isSpace)) := by
  refine ⟨readQuery_hiddenSumText,
    .word "SELECT" none :: (hiddenSumTokens ++
      [.word "FROM" none, .blank .space, .word "t" none]), _,
    eq_ok_of_toOption (by decide +kernel), rfl, hiddenSumTokens, by decide +kernel, fun shaped => ?_⟩
  refine shaped.not_overruns ⟨"f", none, [.word "a" none],
    [.other "+", .word "SUM" none, .symbol .openParen, .word "b" none], rfl, rfl, by decide⟩

end TableQuery.Grammar
