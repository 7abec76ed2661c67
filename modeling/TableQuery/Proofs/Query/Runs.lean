import TableQuery.Proofs.Query.EntryShape
import TableQuery.Proofs.Query.Respaced

/-! The runs of tokens whose text a query keeps: the literals of its conditions and the calls of no
aggregate in its select list. All else that a query says, it says by its tokens without white space. -/

namespace TableQuery.Grammar

open Sql (Token)

/-! ### Conditions -/

structure RawCondition where
  field : String
  operator : Operator
  run : List Token

def RawCondition.predicate (raw : RawCondition) : Predicate :=
  ⟨raw.field, raw.operator, spanText raw.run⟩

def rawCondition? (tokens : List Token) : Option (RawCondition × List Token) :=
  match column? tokens with
  | none => none
  | some (field, rest) =>
    match next? rest with
    | none => none
    | some (token, rest) =>
      match tokenOperator token with
      | .error _ => none
      | .ok operator =>
        some (⟨field, operator, rest.takeWhile (!endsLiteral ·)⟩, rest.dropWhile (!endsLiteral ·))

theorem condition_eq_ok_iff {tokens rest : List Token} {predicate : Predicate} :
    condition tokens = .ok (predicate, rest) ↔
      ∃ raw, rawCondition? tokens = some (raw, rest) ∧
        spanText raw.run ≠ "" ∧ raw.predicate = predicate := by
  rw [condition, rawCondition?]
  cases column? tokens with
  | none => simp
  | some first =>
    obtain ⟨field, rest⟩ := first
    dsimp only
    cases next? rest with
    | none => simp
    | some second =>
      obtain ⟨token, rest⟩ := second
      dsimp only
      cases tokenOperator token with
      | error error => simp
      | ok operator =>
        by_cases blank : spanText (rest.takeWhile (!endsLiteral ·)) = ""
        · simp only [literal, if_pos blank, reduceCtorEq, Option.some.injEq, Prod.mk.injEq, false_iff]
          rintro ⟨_, ⟨rfl, -⟩, written, -⟩
          exact written blank
        · simp only [literal, if_neg blank, Except.ok.injEq, Option.some.injEq, Prod.mk.injEq]
          constructor
          · rintro ⟨rfl, rfl⟩
            exact ⟨_, ⟨rfl, rfl⟩, blank, rfl⟩
          · rintro ⟨_, ⟨rfl, rfl⟩, -, rfl⟩
            exact ⟨rfl, rfl⟩

theorem rawCondition?_remains {tokens rest : List Token} {raw : RawCondition}
    (found : rawCondition? tokens = some (raw, rest)) : Remains rest tokens := by
  unfold rawCondition? at found
  split at found
  next => cases found
  next column =>
    split at found
    next => cases found
    next operator =>
      split at found
      next => cases found
      next =>
        cases found
        exact (column?_remains column).of_suffix
          ((List.dropWhile_suffix _).trans (next?_remains operator).ends)

def rawConditions? (tokens : List Token) : Option (List RawCondition × List Token) :=
  match _hc : rawCondition? tokens with
  | none => none
  | some (raw, rest) =>
    match _hn : connective? rest with
    | none => some ([raw], rest)
    | some (_, after) => (rawConditions? after).map fun (more, left) => (raw :: more, left)
termination_by tokens.length
decreasing_by
  exact ((rawCondition?_remains _hc).of_suffix (connective?_remains _hn).ends).shorter

theorem rawConditions?_eq (tokens : List Token) :
    rawConditions? tokens =
      match rawCondition? tokens with
      | none => none
      | some (raw, rest) =>
        match connective? rest with
        | none => some ([raw], rest)
        | some (_, after) =>
          (rawConditions? after).map fun (more, left) => (raw :: more, left) := by
  rw [rawConditions?]
  split
  next none => rw [none]
  next found =>
    rw [found]
    dsimp only
    split
    next last => rw [last]
    next more => rw [more]

theorem exists_rawCondition_of_conditions {tokens rest : List Token} {predicates : List Predicate}
    (read : (conditions tokens).outcome = .ok (predicates, rest)) :
    ∃ raw after, rawCondition? tokens = some (raw, after) ∧
      spanText raw.run ≠ "" ∧ condition tokens = .ok (raw.predicate, after) := by
  cases first : condition tokens with
  | error error =>
    rw [conditions_of_error first] at read
    cases read
  | ok found =>
    obtain ⟨predicate, after⟩ := found
    obtain ⟨raw, found, written, rfl⟩ := condition_eq_ok_iff.1 first
    exact ⟨raw, after, found, written, rfl⟩

theorem conditions_eq_ok_iff {tokens rest : List Token} {predicates : List Predicate} :
    (conditions tokens).outcome = .ok (predicates, rest) ↔
      ∃ raws, rawConditions? tokens = some (raws, rest) ∧
        (∀ raw ∈ raws, spanText raw.run ≠ "") ∧
        raws.map RawCondition.predicate = predicates := by
  constructor
  · intro read
    fun_induction rawConditions? tokens generalizing predicates rest with
    | case1 tokens none =>
      obtain ⟨_, _, found, -⟩ := exists_rawCondition_of_conditions read
      rw [none] at found
      cases found
    | case2 tokens raw after found last =>
      obtain ⟨_, _, same, written, first⟩ := exists_rawCondition_of_conditions read
      cases found.symm.trans same
      rw [conditions_of_last first last] at read
      cases read
      exact ⟨_, rfl, by simpa using written, rfl⟩
    | case3 tokens raw after found connective left more ih =>
      obtain ⟨_, _, same, written, first⟩ := exists_rawCondition_of_conditions read
      cases found.symm.trans same
      rw [conditions_of_more first more] at read
      obtain ⟨⟨others, _⟩, readMore, same⟩ := map_eq_ok_iff.1 read
      cases same
      obtain ⟨raws, foundMore, writtenMore, rfl⟩ := ih readMore
      exact ⟨raw :: raws, by rw [foundMore]; rfl,
        List.forall_mem_cons.2 ⟨written, writtenMore⟩, rfl⟩
  · rintro ⟨raws, found, written, rfl⟩
    fun_induction rawConditions? tokens generalizing raws rest with
    | case1 tokens none => cases found
    | case2 tokens raw after first last =>
      cases found
      rw [conditions_of_last (condition_eq_ok_iff.2 ⟨_, first, written _ (.head _), rfl⟩) last]
      rfl
    | case3 tokens raw after first connective left more ih =>
      obtain ⟨⟨others, _⟩, foundMore, same⟩ := Option.map_eq_some_iff.1 found
      cases same
      obtain ⟨writtenFirst, writtenMore⟩ := List.forall_mem_cons.1 written
      rw [conditions_of_more (condition_eq_ok_iff.2 ⟨_, first, writtenFirst, rfl⟩) more]
      exact map_eq_ok_iff.2 ⟨_, ih _ foundMore writtenMore, rfl⟩

structure RawCondition.Respaced (varies : List Token → List Token → Prop)
    (raw other : RawCondition) : Prop where
  field : raw.field = other.field
  operator : raw.operator = other.operator
  run : Grammar.Respaced varies raw.run other.run

section

variable {varies : List Token → List Token → Prop} {tokens others : List Token}

theorem endsLiteral_of_space (token : Token) (space : token.isSpace = true) :
    (!endsLiteral token) = true := by
  cases token with
  | blank | comment => rfl
  | _ => cases space

theorem Respaced.rawCondition? (h : Respaced varies tokens others) :
    Option.Rel
      (fun one other => one.1.Respaced varies other.1 ∧ Respaced varies one.2 other.2)
      (Grammar.rawCondition? tokens) (Grammar.rawCondition? others) := by
  unfold Grammar.rawCondition?
  match Grammar.column? tokens, Grammar.column? others, h.column? with
  | _, _, .none => exact .none
  | some (field, rest), some (_, restToo), .some (.mk _ left) =>
    dsimp only
    match Grammar.next? rest, Grammar.next? restToo, left.next? with
    | _, _, .none => exact .none
    | some (token, rest), some (_, restToo), .some (.mk _ left) =>
      dsimp only
      cases tokenOperator token with
      | error error => exact .none
      | ok operator =>
        exact .some ⟨⟨rfl, rfl, left.takeWhile endsLiteral_of_space⟩,
          left.dropWhile endsLiteral_of_space⟩

theorem Respaced.rawConditions? (h : Respaced varies tokens others) :
    Option.Rel
      (fun one other =>
        List.Forall₂ (RawCondition.Respaced varies) one.1 other.1 ∧ Respaced varies one.2 other.2)
      (Grammar.rawConditions? tokens) (Grammar.rawConditions? others) := by
  fun_induction Grammar.rawConditions? tokens generalizing others with
  | case1 tokens none =>
    rw [rawConditions?_eq others, eq_none_of_rel h.rawCondition? none]
    exact .none
  | case2 tokens raw rest found last =>
    obtain ⟨⟨_, _⟩, foundToo, same, left⟩ := exists_of_rel h.rawCondition? found
    rw [rawConditions?_eq others, foundToo]
    dsimp only
    rw [eq_none_of_rel left.connective? last]
    exact .some ⟨.cons same .nil, left⟩
  | case3 tokens raw rest found connective after more ih =>
    obtain ⟨⟨_, _⟩, foundToo, same, left⟩ := exists_of_rel h.rawCondition? found
    obtain ⟨_, moreToo, @⟨_, _, afterToo, left⟩⟩ := exists_of_rel left.connective? more
    rw [rawConditions?_eq others, foundToo]
    dsimp only
    rw [moreToo]
    dsimp only
    match Grammar.rawConditions? after, Grammar.rawConditions? afterToo, ih left with
    | _, _, .none => exact .none
    | some _, some _, .some ⟨others, left⟩ => exact .some ⟨.cons same others, left⟩

end

/-! ### Entries of a select list -/

def callsUnknown : List Token → Bool
  | .word function _ :: .symbol .openParen :: _ => !isAggregateName function
  | _ => false

theorem callKind_of_unknown {function : String} (unknown : isAggregateName function = false)
    (arguments : List Token) (text : String) :
    callKind function arguments text = .ok (.plain text) := by
  obtain ⟨notCount, noColumn⟩ : upperName function ≠ "COUNT" ∧
      columnAggregate? (upperName function) = none := by
    simpa [isAggregateName] using unknown
  simp [callKind, notCount, noColumn]

theorem callKind_of_text {function text : String} {arguments : List Token} {kind : FieldKind}
    (known : isAggregateName function = true) (read : callKind function arguments text = .ok kind)
    (other : String) : callKind function arguments other = .ok kind := by
  unfold callKind at read ⊢
  dsimp only at read ⊢
  split
  next counts =>
    rw [if_pos counts] at read
    split at read
    · exact read
    · cases read
  next notCount =>
    rw [if_neg notCount] at read
    obtain ⟨aggregate, column⟩ :
        ∃ aggregate, columnAggregate? (upperName function) = some aggregate := by
      simpa [isAggregateName, notCount, Option.isSome_iff_exists] using known
    rw [column] at read ⊢
    dsimp only at read ⊢
    split at read
    · exact read
    · cases read
    · cases read

/-- A call of no aggregate is the column of its text. -/
theorem fieldKind_of_call {tokens : List Token} {text : String} {kind : FieldKind}
    (calls : callsUnknown tokens = true) (read : fieldKind tokens text = .ok kind) (other : String) :
    kind = .plain text ∧ fieldKind tokens other = .ok (.plain other) := by
  unfold callsUnknown at calls
  split at calls
  next function quote inner =>
    have unknown : isAggregateName function = false := by simpa using calls
    rw [fieldKind] at read ⊢
    split at read
    next closed =>
      rw [callKind_of_unknown unknown] at read
      cases read
      exact ⟨rfl, by rw [if_pos closed, callKind_of_unknown unknown]⟩
    next => cases read
  next => cases calls

theorem fieldKind_of_text {tokens : List Token} {text : String} {kind : FieldKind}
    (known : callsUnknown tokens = false) (read : fieldKind tokens text = .ok kind)
    (other : String) : fieldKind tokens other = .ok kind := by
  unfold fieldKind at read ⊢
  split at read
  · cases read
  · exact read
  · exact read
  · exact read
  next function quote inner =>
    split at read
    next closed =>
      have aggregate : isAggregateName function = true := by simpa [callsUnknown] using known
      rw [if_pos closed]
      exact callKind_of_text aggregate read other
    next => cases read
  · cases read

def keepsText (entry : List Token) : Bool := callsUnknown (entry.filter (!·.isSpace))

theorem forall₂_entryField_of_selectList {tokens rest : List Token} {fields : List Field}
    (read : selectList tokens = .ok (fields, rest)) :
    List.Forall₂ (fun entry field => entryField entry = .ok field) (entries tokens) fields := by
  refine selectList_induction ?last ?more read
  case last =>
    intro tokens entry separator field splits other understood
    rw [entries_of_split splits, if_neg other]
    exact .cons understood .nil
  case more =>
    intro tokens entry rest field fields splits understood ih
    rw [entries_of_split splits, if_pos rfl]
    exact .cons understood ih

section

variable {varies : List Token → List Token → Prop}

theorem Respaced.keepsText {entry other : List Token} (h : Respaced varies entry other) :
    Grammar.keepsText entry = Grammar.keepsText other := by
  rw [Grammar.keepsText, Grammar.keepsText, h.filter_not_space]

theorem Respaced.entryField {entry other : List Token} {field : Field}
    (h : Respaced varies entry other) (read : Grammar.entryField entry = .ok field) :
    ∃ fieldToo, Grammar.entryField other = .ok fieldToo ∧
      (Grammar.keepsText entry = false → field.kind = fieldToo.kind) ∧
      (Grammar.keepsText entry = true →
        field.kind = .plain (spanText entry) ∧ fieldToo.kind = .plain (spanText other)) := by
  obtain ⟨kind, understood, rfl⟩ : ∃ kind,
      fieldKind (entry.filter (!·.isSpace)) (spanText entry) = .ok kind ∧ _ := map_eq_ok_iff.1 read
  rw [Grammar.keepsText]
  rw [h.filter_not_space] at understood ⊢
  cases calls : callsUnknown (other.filter (!·.isSpace)) with
  | true =>
    obtain ⟨rfl, understoodToo⟩ := fieldKind_of_call calls understood (spanText other)
    exact ⟨_, map_eq_ok_iff.2 ⟨_, understoodToo, rfl⟩, nofun, fun _ => ⟨rfl, rfl⟩⟩
  | false =>
    have understoodToo := fieldKind_of_text calls understood (spanText other)
    exact ⟨_, map_eq_ok_iff.2 ⟨_, understoodToo, rfl⟩, fun _ => rfl, nofun⟩

theorem Respaced.selectList {tokens rest : List Token} {fields : List Field}
    (read : Grammar.selectList tokens = .ok (fields, rest)) (others : List Token)
    (h : Respaced varies tokens others) :
    ∃ fieldsToo restToo, Grammar.selectList others = .ok (fieldsToo, restToo) ∧
      List.Forall₂ (Respaced varies) (entries tokens) (entries others) ∧
      Respaced varies rest restToo := by
  revert others
  refine selectList_induction ?last ?more read
  case last =>
    intro tokens entry separator field splits other understood others h
    obtain ⟨_, restToo, splitsToo, same, left⟩ := h.splitEntry splits
    obtain ⟨fieldToo, understoodToo, -⟩ := same.entryField understood
    refine ⟨[fieldToo], restToo, ?_, ?_, left⟩
    · exact selectList_eq_ok_iff.2
        ⟨_, _, _, _, splitsToo, understoodToo, .inr ⟨other, rfl, rfl⟩⟩
    · rw [entries_of_split splits, entries_of_split splitsToo, if_neg other, if_neg other]
      exact .cons same .nil
  case more =>
    intro tokens entry rest field fields splits understood ih others h
    obtain ⟨_, _, splitsToo, same, left⟩ := h.splitEntry splits
    obtain ⟨fieldToo, understoodToo, -⟩ := same.entryField understood
    obtain ⟨fieldsToo, restToo, readToo, all, left⟩ := ih _ left
    refine ⟨fieldToo :: fieldsToo, restToo, ?_, ?_, left⟩
    · exact selectList_eq_ok_iff.2
        ⟨_, _, _, _, splitsToo, understoodToo, .inl ⟨rfl, _, readToo, rfl⟩⟩
    · rw [entries_of_split splits, entries_of_split splitsToo, if_pos rfl, if_pos rfl]
      exact .cons same all

end

/-! ### Queries -/

def whereConditions? (tokens : List Token) : Option (List RawCondition × List Token) :=
  match afterKeyword? "WHERE" tokens with
  | some rest => rawConditions? rest
  | none => some ([], tokens)

def queryEntries (tokens : List Token) : List (List Token) :=
  match afterKeyword? "SELECT" tokens with
  | some list => entries list
  | none => []

def queryConditions (tokens : List Token) : List RawCondition :=
  match queryHead tokens with
  | .ok (_, rest) => ((whereConditions? rest).map Prod.fst).getD []
  | .error _ => []

/-- The runs of tokens that a query keeps by their text. -/
def keptRuns (tokens : List Token) : List (List Token) :=
  (queryConditions tokens).map RawCondition.run ++ (queryEntries tokens).filter keepsText

theorem whereClause_eq_ok_iff {tokens rest : List Token} {predicates : List Predicate} :
    (whereClause tokens).outcome = .ok (predicates, rest) ↔
      ∃ raws, whereConditions? tokens = some (raws, rest) ∧
        (∀ raw ∈ raws, spanText raw.run ≠ "") ∧
        raws.map RawCondition.predicate = predicates := by
  rw [whereClause, whereConditions?]
  cases afterKeyword? "WHERE" tokens with
  | some list => exact conditions_eq_ok_iff
  | none =>
    constructor
    · intro read
      cases read
      exact ⟨[], rfl, by simp, rfl⟩
    · rintro ⟨_, found, -, rfl⟩
      cases found
      rfl

theorem forall₂_entryField_of_query {tokens : List Token} {query : Query}
    (accepted : (Grammar.query tokens).outcome = .ok query) :
    List.Forall₂ (fun entry field => entryField entry = .ok field) (queryEntries tokens)
      query.fields := by
  obtain ⟨list, after, selects, read⟩ := exists_selectList_of_query accepted
  rw [queryEntries, selects]
  exact forall₂_entryField_of_selectList read

theorem queryConditions_of_query {tokens : List Token} {query : Query}
    (accepted : (Grammar.query tokens).outcome = .ok query) :
    (∀ raw ∈ queryConditions tokens, spanText raw.run ≠ "") ∧
      (queryConditions tokens).map RawCondition.predicate = query.conditions := by
  obtain ⟨rest, filtered, -, head, filters, -⟩ := exists_rests_of_query accepted
  obtain ⟨raws, found, written, same⟩ := whereClause_eq_ok_iff.1 filters
  rw [queryConditions, head]
  dsimp only
  rw [found]
  exact ⟨written, same⟩

section

variable {varies : List Token → List Token → Prop} {tokens others : List Token}

theorem Respaced.whereConditions? (h : Respaced varies tokens others) :
    Option.Rel
      (fun one other =>
        List.Forall₂ (RawCondition.Respaced varies) one.1 other.1 ∧ Respaced varies one.2 other.2)
      (Grammar.whereConditions? tokens) (Grammar.whereConditions? others) := by
  unfold Grammar.whereConditions?
  match Grammar.afterKeyword? "WHERE" tokens, Grammar.afterKeyword? "WHERE" others,
    h.afterKeyword? "WHERE" with
  | _, _, .none => exact .some ⟨.nil, h⟩
  | some _, some _, .some left => exact left.rawConditions?

theorem Respaced.queryHead {rest : List Token} {fields : List Field} {table : String}
    {join : Option JoinClause} (h : Respaced varies tokens others)
    (head : Grammar.queryHead tokens = .ok ((fields, table, join), rest)) :
    ∃ fieldsToo restToo, Grammar.queryHead others = .ok ((fieldsToo, table, join), restToo) ∧
      List.Forall₂ (Respaced varies) (queryEntries tokens) (queryEntries others) ∧
      Respaced varies rest restToo := by
  obtain ⟨list, after, named, selects, read, word, joins⟩ := queryHead_eq_ok_iff.1 head
  obtain ⟨listToo, selectsToo, left⟩ := exists_of_rel (h.afterKeyword? "SELECT") selects
  obtain ⟨fieldsToo, afterToo, readToo, entries, left⟩ := Respaced.selectList read _ left
  obtain ⟨_, wordToo, ⟨_, left⟩⟩ := exists_of_rel left.word? word
  obtain ⟨_, joinsToo, @⟨_, _, restToo, left⟩⟩ := left.joinClause.exists_of_ok joins
  refine ⟨fieldsToo, restToo, queryHead_eq_ok_iff.2 ⟨_, _, _, selectsToo, readToo, wordToo, joinsToo⟩,
    ?_, left⟩
  rw [queryEntries, queryEntries, selects, selectsToo]
  exact entries

/-- White space in a query changes the texts of the runs it stands in and nothing else, as long as it does
not leave a literal without text. -/
theorem Respaced.query {query : Query} (h : Respaced varies tokens others)
    (accepted : (Grammar.query tokens).outcome = .ok query) :
    List.Forall₂ (Respaced varies) (queryEntries tokens) (queryEntries others) ∧
      List.Forall₂ (RawCondition.Respaced varies) (queryConditions tokens)
        (queryConditions others) ∧
      ((∀ raw ∈ queryConditions others, spanText raw.run ≠ "") →
        ∃ other, (Grammar.query others).outcome = .ok other ∧ query.table = other.table ∧
          query.join = other.join ∧ query.groupBy = other.groupBy) := by
  obtain ⟨rest, filtered, grouped, head, filters, groups, ended, -⟩ := exists_rests_of_query accepted
  obtain ⟨fieldsToo, restToo, headToo, entries, left⟩ := h.queryHead head
  obtain ⟨raws, found, -, -⟩ := whereClause_eq_ok_iff.1 filters
  obtain ⟨⟨rawsToo, filteredToo⟩, foundToo, same, left⟩ :=
    exists_of_rel left.whereConditions? found
  have all : queryConditions tokens = raws ∧ queryConditions others = rawsToo := by
    rw [queryConditions, queryConditions, head, headToo]
    dsimp only
    rw [found, foundToo]
    exact ⟨rfl, rfl⟩
  refine ⟨entries, by rwa [all.1, all.2], fun written => ?_⟩
  rw [all.2] at written
  obtain ⟨_, groupsToo, @⟨_, _, groupedToo, left⟩⟩ := left.groupClause.exists_of_ok groups
  refine ⟨⟨fieldsToo, query.table, query.join, rawsToo.map RawCondition.predicate,
    query.groupBy, query.groupBy.isNone && fieldsToo.any Field.isAggregate⟩, ?_, rfl, rfl, rfl⟩
  exact query_of_rests headToo (whereClause_eq_ok_iff.2 ⟨_, foundToo, written, rfl⟩) groupsToo
    (left.expectEnd ▸ ended) rfl

end

end TableQuery.Grammar
