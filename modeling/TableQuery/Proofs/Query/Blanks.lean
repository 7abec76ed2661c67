import TableQuery.Proofs.Query.Runs
import TableQuery.Proofs.Query.SpanSpace

/-! Queries whose tokens differ in blanks only. Blanks part the tokens and are kept in the texts of
entries and literals, and nothing else depends on them: what one list is refused for, the other is
refused for too. -/

namespace TableQuery

open Sql (Token withoutBlanks)

def ParseError.squeezed : ParseError → ParseError
  | invalidField text => invalidField (squeeze text)
  | invalidArgument text => invalidArgument (squeeze text)
  | columnRequired function text => columnRequired function (squeeze text)
  | error => error

def QueryError.squeezed : QueryError → QueryError
  | parse error => parse error.squeezed
  | error => error

structure Predicate.SameButSpace (predicate other : Predicate) : Prop where
  field : predicate.field = other.field
  operator : predicate.operator = other.operator
  literal : squeeze predicate.literal = squeeze other.literal

namespace Grammar

/-- The fields of one entry. A call of no aggregate is the column of its text, and any other entry
means the same with other blanks in it. -/
structure SameField (entry : List Token) (field other : Field) : Prop where
  text : squeeze field.text = squeeze other.text
  kind : keepsText entry = false → field.kind = other.kind
  call : keepsText entry = true → field.kind = .plain field.text ∧ other.kind = .plain other.text

inductive SameFields : List (List Token) → List Field → List Field → Prop
  | nil : SameFields [] [] []
  | cons {entry : List Token} {entries : List (List Token)} {field other : Field}
      {fields others : List Field} (first : SameField entry field other)
      (more : SameFields entries fields others) :
    SameFields (entry :: entries) (field :: fields) (other :: others)

structure SameQuery (tokens : List Token) (query other : Query) : Prop where
  fields : SameFields (queryEntries tokens) query.fields other.fields
  table : query.table = other.table
  join : query.join = other.join
  conditions : List.Forall₂ Predicate.SameButSpace query.conditions other.conditions
  groupBy : query.groupBy = other.groupBy
  aggregatesAll : query.aggregatesAll = other.aggregatesAll

/-- Both readings warn of the same. They fail for the same cause, whose text may differ in white
space, or both succeed with values that are related. -/
structure ReadsAlike {α β : Type} (related : α → β → Prop) (one : Reading α) (other : Reading β) :
    Prop where
  trace : one.trace = other.trace
  outcome : Alike related (one.outcome.mapError QueryError.squeezed)
    (other.outcome.mapError QueryError.squeezed)

/-! ### Outcomes -/

section

variable {ε ε' α β α' β' : Type} {related : α → β → Prop} {relatedToo : α' → β' → Prop}

namespace ReadsAlike

theorem ok {one : α} {other : β} (values : related one other) :
    ReadsAlike related (.ok one) (.ok other) :=
  ⟨rfl, .ok values⟩

theorem fail (error : QueryError) :
    ReadsAlike related (.fail error : Reading α) (.fail error : Reading β) :=
  ⟨rfl, .error _⟩

theorem readingOf {one : Except ParseError α} {other : Except ParseError β}
    (alike : Alike related (one.mapError ParseError.squeezed)
      (other.mapError ParseError.squeezed)) :
    ReadsAlike related (Grammar.readingOf one) (Grammar.readingOf other) := by
  have squeezed {γ : Type} (outcome : Except ParseError γ) :
      (Grammar.readingOf outcome).outcome.mapError QueryError.squeezed =
        (outcome.mapError ParseError.squeezed).mapError QueryError.parse := by
    cases outcome with
    | error error => rfl
    | ok value => rfl
  refine ⟨rfl, ?_⟩
  rw [squeezed, squeezed]
  exact alike.mapError QueryError.parse

theorem bind {one : Reading α} {other : Reading β} {next : α → Reading α'}
    {nextToo : β → Reading β'} (first : ReadsAlike related one other)
    (others : ∀ u v, related u v → ReadsAlike relatedToo (next u) (nextToo v)) :
    ReadsAlike relatedToo (one >>= next) (other >>= nextToo) := by
  obtain ⟨trace, outcome⟩ := one
  obtain ⟨traceToo, outcomeToo⟩ := other
  obtain ⟨rfl, alike⟩ : trace = traceToo ∧ _ := ⟨first.trace, first.outcome⟩
  cases outcome with
  | error error =>
    cases outcomeToo with
    | error errorToo =>
      have same : error.squeezed = errorToo.squeezed := (Except.error.inj (alike.eq_error rfl)).symm
      refine ⟨rfl, ?_⟩
      change Alike relatedToo (.error error.squeezed) (.error errorToo.squeezed)
      rw [same]
      exact .error _
    | ok valueToo => cases alike.eq_error rfl
  | ok value =>
    cases outcomeToo with
    | error errorToo =>
      obtain ⟨_, same, -⟩ := alike.exists_of_ok rfl
      cases same
    | ok valueToo =>
      obtain ⟨_, same, values⟩ := alike.exists_of_ok rfl
      cases same
      have later := others _ _ values
      exact ⟨congrArg (trace ++ ·) later.trace, later.outcome⟩

end ReadsAlike

theorem Alike.bind_mapError {one : Except ε α} {other : Except ε β} {next : α → Except ε α'}
    {nextToo : β → Except ε β'} {f : ε → ε'}
    (first : Alike related (one.mapError f) (other.mapError f))
    (others : ∀ u v, related u v →
      Alike relatedToo ((next u).mapError f) ((nextToo v).mapError f)) :
    Alike relatedToo ((one >>= next).mapError f) ((other >>= nextToo).mapError f) := by
  change Alike relatedToo ((one.bind next).mapError f) ((other.bind nextToo).mapError f)
  rw [mapError_bind, mapError_bind]
  exact first.bind others

end

/-! ### Entries of a select list -/

theorem callKind_refused {function text textToo : String} {arguments : List Token}
    {error : ParseError} (same : squeeze text = squeeze textToo)
    (refused : callKind function arguments text = .error error) :
    ∃ errorToo, callKind function arguments textToo = .error errorToo ∧
      error.squeezed = errorToo.squeezed := by
  have invalid : (ParseError.invalidArgument text).squeezed =
      (ParseError.invalidArgument textToo).squeezed := congrArg ParseError.invalidArgument same
  have missing (name : String) : (ParseError.columnRequired name text).squeezed =
      (ParseError.columnRequired name textToo).squeezed :=
    congrArg (ParseError.columnRequired name) same
  unfold callKind at refused ⊢
  dsimp only at refused ⊢
  by_cases counts : upperName function = "COUNT"
  · rw [if_pos counts] at refused ⊢
    cases taken : argument? arguments with
    | some argument => simp [taken] at refused
    | none =>
      rw [taken] at refused
      cases refused
      exact ⟨_, rfl, invalid⟩
  · rw [if_neg counts] at refused ⊢
    cases known : columnAggregate? (upperName function) with
    | none => simp [known] at refused
    | some aggregate =>
      rw [known] at refused
      cases taken : argument? arguments with
      | none =>
        rw [taken] at refused
        cases refused
        exact ⟨_, rfl, invalid⟩
      | some argument =>
        rw [taken] at refused
        cases argument with
        | column => cases refused
        | wildcard =>
          cases refused
          exact ⟨_, rfl, missing _⟩

theorem fieldKind_refused {tokens : List Token} {text textToo : String} {error : ParseError}
    (same : squeeze text = squeeze textToo) (refused : fieldKind tokens text = .error error) :
    ∃ errorToo, fieldKind tokens textToo = .error errorToo ∧
      error.squeezed = errorToo.squeezed := by
  have invalid : (ParseError.invalidField text).squeezed =
      (ParseError.invalidField textToo).squeezed := congrArg ParseError.invalidField same
  unfold fieldKind at refused ⊢
  split at refused
  · exact ⟨error, refused, rfl⟩
  · cases refused
  · cases refused
  · cases refused
  next function quote inner =>
    split at refused
    next closed =>
      rw [if_pos closed]
      exact callKind_refused same refused
    next unclosed =>
      cases refused
      exact ⟨_, if_neg unclosed, invalid⟩
  next =>
    cases refused
    exact ⟨_, rfl, invalid⟩

theorem Respaced.entryField_alike {entry other : List Token}
    (h : Respaced SameButBlanks entry other) :
    Alike (SameField entry) ((Grammar.entryField entry).mapError ParseError.squeezed)
      ((Grammar.entryField other).mapError ParseError.squeezed) := by
  have same : squeeze (spanText entry) = squeeze (spanText other) :=
    h.sameButBlanks.squeeze_spanText
  cases read : Grammar.entryField entry with
  | ok field =>
    obtain ⟨fieldToo, readToo, known, unknown⟩ := h.entryField read
    obtain ⟨kind, -, rfl⟩ : ∃ kind, _ ∧ (⟨spanText entry, kind⟩ : Field) = field :=
      map_eq_ok_iff.1 read
    obtain ⟨kindToo, -, rfl⟩ : ∃ kind, _ ∧ (⟨spanText other, kind⟩ : Field) = fieldToo :=
      map_eq_ok_iff.1 readToo
    rw [readToo]
    exact .ok ⟨same, known, unknown⟩
  | error error =>
    have refused : fieldKind (entry.filter (!·.isSpace)) (spanText entry) = .error error :=
      map_eq_error_iff.1 read
    obtain ⟨errorToo, refusedToo, causes⟩ := fieldKind_refused same refused
    rw [h.filter_not_space] at refusedToo
    have readToo : Grammar.entryField other = .error errorToo := by
      rw [Grammar.entryField, refusedToo]
      rfl
    rw [readToo]
    change Alike _ (.error error.squeezed) (.error errorToo.squeezed)
    rw [causes]
    exact .error _

/-! ### Queries -/

section

variable {tokens others : List Token}

theorem Respaced.splitEntry_open {varies : List Token → List Token → Prop} {depth : Nat}
    {entry : List Token} (h : Respaced varies tokens others)
    (splits : Grammar.splitEntry depth tokens = (entry, [])) :
    ∃ entryToo, Grammar.splitEntry depth others = (entryToo, []) := by
  match splitsToo : Grammar.splitEntry depth others with
  | (entryToo, []) => exact ⟨entryToo, rfl⟩
  | (entryToo, separator :: rest) =>
    obtain ⟨_, _, back, -⟩ := h.symm.splitEntry splitsToo
    cases splits.symm.trans back

theorem Respaced.selectList_alike (h : Respaced SameButBlanks tokens others) :
    Alike
      (fun one other =>
        SameFields (entries tokens) one.1 other.1 ∧ Respaced SameButBlanks one.2 other.2)
      ((Grammar.selectList tokens).mapError ParseError.squeezed)
      ((Grammar.selectList others).mapError ParseError.squeezed) := by
  fun_induction entries tokens generalizing others with
  | case1 tokens entry unended =>
    obtain ⟨_, unendedToo⟩ := h.splitEntry_open unended
    rw [selectList_of_open unended, selectList_of_open unendedToo]
    exact .error _
  | case2 tokens entry rest splits ih =>
    obtain ⟨_, _, splitsToo, same, left⟩ := h.splitEntry splits
    rw [selectList_of_split splits, selectList_of_split splitsToo]
    refine same.entryField_alike.bind_mapError fun field fieldToo first => ?_
    rw [if_pos rfl, if_pos rfl, mapError_map, mapError_map]
    exact (ih left).map fun _ _ more => ⟨.cons first more.1, more.2⟩
  | case3 tokens entry separator rest splits other =>
    obtain ⟨_, _, splitsToo, same, left⟩ := h.splitEntry splits
    rw [selectList_of_split splits, selectList_of_split splitsToo]
    refine same.entryField_alike.bind_mapError fun field fieldToo first => ?_
    rw [if_neg other, if_neg other]
    exact .ok ⟨.cons first .nil, left⟩

structure HeadsAlike (tokens : List Token)
    (one other : (List Field × String × Option JoinClause) × List Token) : Prop where
  fields : SameFields (queryEntries tokens) one.1.1 other.1.1
  tables : one.1.2 = other.1.2
  left : Respaced SameButBlanks one.2 other.2

theorem Respaced.queryHead_alike (h : Respaced SameButBlanks tokens others) :
    Alike (HeadsAlike tokens) ((Grammar.queryHead tokens).mapError ParseError.squeezed)
      ((Grammar.queryHead others).mapError ParseError.squeezed) := by
  unfold Grammar.queryHead
  have keyword := h.afterKeyword? "SELECT"
  cases selects : Grammar.afterKeyword? "SELECT" tokens with
  | none =>
    rw [eq_none_of_rel keyword selects]
    exact .error _
  | some list =>
    obtain ⟨listToo, selectsToo, left⟩ := exists_of_rel keyword selects
    have entries : queryEntries tokens = entries list := by rw [queryEntries, selects]
    rw [selectsToo]
    refine left.selectList_alike.bind_mapError ?_
    rintro ⟨fields, rest⟩ ⟨fieldsToo, restToo⟩ ⟨same, left⟩
    dsimp only
    cases named : Grammar.word? rest with
    | none =>
      rw [eq_none_of_rel left.word? named]
      exact .error _
    | some word =>
      obtain ⟨_, namedToo, ⟨_, left⟩⟩ := exists_of_rel left.word? named
      rw [namedToo]
      refine (left.joinClause.mapError _).bind_mapError ?_
      rintro _ _ ⟨join, left⟩
      exact .ok ⟨entries ▸ same, rfl, left⟩

theorem Respaced.literal_alike (h : Respaced SameButBlanks tokens others) :
    Alike (fun one other => squeeze one.1 = squeeze other.1 ∧ Respaced SameButBlanks one.2 other.2)
      (Grammar.literal tokens) (Grammar.literal others) := by
  have run := (h.takeWhile endsLiteral_of_space).sameButBlanks
  unfold Grammar.literal
  dsimp only
  by_cases blank : spanText (tokens.takeWhile (!endsLiteral ·)) = ""
  · rw [if_pos blank, if_pos (run.spanText_eq_empty_iff.1 blank)]
    exact .error _
  · rw [if_neg blank, if_neg (mt run.spanText_eq_empty_iff.2 blank)]
    exact .ok ⟨run.squeeze_spanText, h.dropWhile endsLiteral_of_space⟩

theorem Respaced.condition_alike (h : Respaced SameButBlanks tokens others) :
    Alike (fun one other => one.1.SameButSpace other.1 ∧ Respaced SameButBlanks one.2 other.2)
      (Grammar.condition tokens) (Grammar.condition others) := by
  unfold Grammar.condition
  match Grammar.column? tokens, Grammar.column? others, h.column? with
  | _, _, .none => exact .error _
  | some (field, rest), some (_, restToo), .some (.mk _ left) =>
    dsimp only
    match Grammar.next? rest, Grammar.next? restToo, left.next? with
    | _, _, .none => exact .error _
    | some (token, rest), some (_, restToo), .some (.mk _ left) =>
      dsimp only
      cases tokenOperator token with
      | error error => exact .error _
      | ok operator =>
        dsimp only
        match Grammar.literal rest, Grammar.literal restToo, left.literal_alike with
        | _, _, .error _ => exact .error _
        | .ok (text, rest), .ok (textToo, restToo), .ok ⟨same, left⟩ =>
          exact .ok ⟨⟨rfl, rfl, same⟩, left⟩

def ConditionsAlike (one other : List Predicate × List Token) : Prop :=
  List.Forall₂ Predicate.SameButSpace one.1 other.1 ∧ Respaced SameButBlanks one.2 other.2

theorem Respaced.conditions_alike (h : Respaced SameButBlanks tokens others) :
    ReadsAlike ConditionsAlike (Grammar.conditions tokens) (Grammar.conditions others) := by
  fun_induction Grammar.conditions tokens generalizing others with
  | case1 tokens error refused =>
    rw [conditions_of_error (h.condition_alike.eq_error refused)]
    exact .fail error
  | case2 tokens predicate rest first last =>
    obtain ⟨⟨_, _⟩, firstToo, same, left⟩ := h.condition_alike.exists_of_ok first
    rw [conditions_of_last firstToo (eq_none_of_rel left.connective? last)]
    exact .ok ⟨.cons same .nil, left⟩
  | case3 tokens predicate rest first connective after more =>
    rename_i ih
    obtain ⟨⟨_, _⟩, firstToo, same, left⟩ := h.condition_alike.exists_of_ok first
    obtain ⟨_, moreToo, ⟨_, left⟩⟩ := exists_of_rel left.connective? more
    rw [conditions_of_more firstToo moreToo]
    refine ⟨congrArg (connective.warnings ++ ·) (ih left).trace, ?_⟩
    dsimp only
    rw [mapError_map, mapError_map]
    exact (ih left).outcome.map fun _ _ others => ⟨.cons same others.1, others.2⟩

theorem Respaced.whereClause_alike (h : Respaced SameButBlanks tokens others) :
    ReadsAlike ConditionsAlike (Grammar.whereClause tokens) (Grammar.whereClause others) := by
  unfold Grammar.whereClause
  match Grammar.afterKeyword? "WHERE" tokens, Grammar.afterKeyword? "WHERE" others,
    h.afterKeyword? "WHERE" with
  | _, _, .none => exact .ok ⟨.nil, h⟩
  | some _, some _, .some left => exact left.conditions_alike

theorem SameField.isAggregate_eq {entry : List Token} {field other : Field}
    (same : SameField entry field other) : field.isAggregate = other.isAggregate := by
  cases calls : keepsText entry with
  | true =>
    obtain ⟨kind, kindToo⟩ := same.call calls
    simp [Field.isAggregate, Field.aggregate?, kind, kindToo]
  | false => simp [Field.isAggregate, Field.aggregate?, same.kind calls]

theorem SameFields.any_isAggregate_eq {entries : List (List Token)} {fields others : List Field}
    (same : SameFields entries fields others) :
    fields.any Field.isAggregate = others.any Field.isAggregate := by
  induction same with
  | nil => rfl
  | cons first _ ih => rw [List.any_cons, List.any_cons, first.isAggregate_eq, ih]

theorem Respaced.selectQuery_alike (h : Respaced SameButBlanks tokens others) :
    ReadsAlike
      (fun one other => SameQuery tokens one.1 other.1 ∧ Respaced SameButBlanks one.2 other.2)
      (Grammar.selectQuery tokens) (Grammar.selectQuery others) := by
  refine (ReadsAlike.readingOf h.queryHead_alike).bind ?_
  rintro ⟨⟨fields, table, join⟩, rest⟩ ⟨⟨fieldsToo, tableToo, joinToo⟩, restToo⟩
    ⟨fields, tables, left⟩
  cases tables
  refine left.whereClause_alike.bind ?_
  rintro ⟨conditions, filtered⟩ ⟨conditionsToo, filteredToo⟩ ⟨conditions, left⟩
  refine (ReadsAlike.readingOf (left.groupClause.mapError _)).bind ?_
  rintro _ _ ⟨groupBy, left⟩
  refine .ok ⟨⟨fields, rfl, rfl, conditions, rfl, ?_⟩, left⟩
  exact congrArg (groupBy.isNone && ·) fields.any_isAggregate_eq

end

/-- Blanks carry no structure. Lists of tokens that are the same without their blanks are both
refused, for the same cause, or both accepted, as queries that differ in the white space of the texts
they keep. -/
theorem query_of_sameButBlanks {tokens others : List Token}
    (same : withoutBlanks tokens = withoutBlanks others) :
    ReadsAlike (SameQuery tokens) (query tokens) (query others) := by
  refine (SameButBlanks.respaced same).selectQuery_alike.bind ?_
  rintro ⟨query, rest⟩ ⟨other, restToo⟩ ⟨alike, left⟩
  have ends : expectEnd rest = expectEnd restToo := left.expectEnd
  dsimp only
  rw [ends]
  exact (ReadsAlike.readingOf (.refl _)).bind fun _ _ _ => .ok alike

def packedTokens : List Token :=
  [.word "SELECT" none, .word "f" none, .symbol .openParen, .word "a" none, .symbol .comma,
    .word "b" none, .symbol .closeParen, .word "FROM" none, .word "t" none, .word "WHERE" none,
    .word "a" none, .symbol .greaterEqual, .number "5", .word "x" none]

def partedTokens : List Token :=
  [.blank .tab, .word "SELECT" none, .blank .space, .word "f" none, .blank .space,
    .symbol .openParen, .word "a" none, .symbol .comma, .blank .newline, .word "b" none,
    .symbol .closeParen, .word "FROM" none, .word "t" none, .word "WHERE" none, .word "a" none,
    .blank .space, .symbol .greaterEqual, .number "5", .blank .tab, .word "x" none, .blank .newline]

def callQuery (call literal : String) : Query where
  fields := [⟨call, .plain call⟩]
  table := "t"
  join := none
  conditions := [⟨"a", .greaterEqual, literal⟩]
  groupBy := none
  aggregatesAll := false

theorem query_of_sameButBlanks_call :
    withoutBlanks packedTokens = withoutBlanks partedTokens ∧
      ReadsAlike (SameQuery packedTokens) (query packedTokens) (query partedTokens) ∧
      (query packedTokens).outcome = .ok (callQuery "f(a,b)" "5x") ∧
      (query partedTokens).outcome = .ok (callQuery "f (a,\nb)" "5\tx") :=
  ⟨rfl, query_of_sameButBlanks rfl, eq_ok_of_toOption (by decide +kernel),
    eq_ok_of_toOption (by decide +kernel)⟩

end Grammar

end TableQuery
