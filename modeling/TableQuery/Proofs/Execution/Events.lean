import TableQuery.Proofs.Execution.Outcome
import TableQuery.Proofs.Filter.Kept
import TableQuery.Proofs.Query.Accepted

/-! The events of an execution. A query and the numbers of rows at its stages say what is noted when
all goes well; an execution that fails has noted what comes before the stage that fails, and nothing
for that stage. -/

namespace TableQuery

structure Sizes where
  base : Nat
  joined : Nat
  input : Nat
  kept : Nat
  result : Nat

namespace Query

def aggregates (query : Query) : Bool := query.groupBy.isSome || query.fields.any Field.isAggregate

def started (query : Query) : Event :=
  .queryParsed query.table (query.join.map JoinClause.table) query.conditions.length

def joinEvents (query : Query) (sizes : Sizes) : List Event :=
  match query.join with
  | none => []
  | some clause =>
    [.tableFetched clause.table sizes.joined, .joinCompleted clause.kind sizes.input]

def filterEvents (query : Query) (sizes : Sizes) : List Event :=
  if query.conditions = [] then [] else [.rowsFiltered sizes.input sizes.kept]

def aggregateEvents (query : Query) (sizes : Sizes) : List Event :=
  if query.aggregates then [.rowsAggregated query.groupBy.isSome sizes.result] else []

def events (query : Query) (sizes : Sizes) : List Event :=
  query.started :: .tableFetched query.table sizes.base :: (query.joinEvents sizes ++
    (query.filterEvents sizes ++ (query.aggregateEvents sizes ++ [.queryCompleted sizes.result])))

/-- The number of events up to the last table or join. -/
def inputEvents (query : Query) : Nat := if query.join.isSome then 4 else 2

end Query

structure Sizes.Fetched (sizes : Sizes) (tables : Tables) (query : Query) (rows : List Row) :
    Prop where
  base : (tables.find? query.table).map List.length = some sizes.base
  joined : ∀ clause ∈ query.join, (tables.find? clause.table).map List.length = some sizes.joined
  input : sizes.input = rows.length
  single : query.join = none → sizes.input = sizes.base

structure Sizes.Finished (sizes : Sizes) (query : Query) (kept result : List Row) : Prop where
  kept : sizes.kept = kept.length
  kept_le : sizes.kept ≤ sizes.input
  unfiltered : query.conditions = [] → sizes.kept = sizes.input
  result : sizes.result = result.length
  projected : query.aggregates = false → sizes.result = sizes.kept

/-- How far an execution gets, with what it returns and what it has noted by then. -/
inductive Ends (tables : Tables) (text : String) :
    Except QueryError (List Row) → List Event → Prop where
  | unread {error : QueryError} (rejected : (readQuery text).outcome = .error error) :
    Ends tables text (.error error) []
  | withoutBase {query : Query} (sizes : Sizes) (accepted : (readQuery text).outcome = .ok query)
      (missing : tables.find? query.table = none) :
    Ends tables text (.error (.source (.notFound query.table))) ((query.events sizes).take 1)
  | withoutJoined {query : Query} {clause : JoinClause} {base : List Row} (sizes : Sizes)
      (accepted : (readQuery text).outcome = .ok query) (join : query.join = some clause)
      (fetchBase : tables.find? query.table = some base) (reported : sizes.base = base.length)
      (missing : tables.find? clause.table = none) :
    Ends tables text (.error (.source (.notFound clause.table))) ((query.events sizes).take 2)
  | unsupported {query : Query} {clause : JoinClause} {base joined : List Row} {name : String}
      (sizes : Sizes) (accepted : (readQuery text).outcome = .ok query)
      (join : query.join = some clause) (fetchBase : tables.find? query.table = some base)
      (reported : sizes.base = base.length)
      (fetchJoined : tables.find? clause.table = some joined)
      (reportedToo : sizes.joined = joined.length) (kind : clause.kind = .unsupported name) :
    Ends tables text (.error (.unsupported (.joinKind name))) ((query.events sizes).take 3)
  | withoutColumn {query : Query} {rows : List Row} {row : Row} {predicate : Predicate}
      {sizes : Sizes} (accepted : (readQuery text).outcome = .ok query)
      (input : (inputStage tables.source query).outcome = .ok rows)
      (fetched : sizes.Fetched tables query rows) (member : row ∈ rows)
      (condition : predicate ∈ query.conditions) (missing : row.get? predicate.field = none)
      (fails : keepRows query.conditions rows = .error (.field predicate.field)) :
    Ends tables text (.error (.field predicate.field))
      ((query.events sizes).take query.inputEvents)
  | finished {query : Query} {rows kept : List Row} {sizes : Sizes}
      (accepted : (readQuery text).outcome = .ok query)
      (input : (inputStage tables.source query).outcome = .ok rows)
      (fetched : sizes.Fetched tables query rows)
      (filtered : keepRows query.conditions rows = .ok kept)
      (finished : sizes.Finished query kept (resultRows query kept)) :
    Ends tables text (.ok (resultRows query kept)) (query.events sizes)

section

variable {source : Source} {query : Query} {clause : JoinClause} {base joined rows : List Row}

theorem fetchTable_of_ok {table : String} (found : source table = .ok rows) :
    fetchTable source table = ⟨[.tableFetched table rows.length], .ok rows⟩ := by
  rw [fetchTable, found]
  rfl

theorem fetchTable_of_error {table : String} {error : SourceError}
    (missing : source table = .error error) : fetchTable source table = .fail (.source error) := by
  rw [fetchTable, missing]
  rfl

theorem inputStage_of_ok (fetchBase : source query.table = .ok base) :
    inputStage source query = match query.join with
      | none => ⟨[.tableFetched query.table base.length], .ok base⟩
      | some clause =>
        let rest := fetchTable source clause.table >>= joinStage query clause base
        ⟨.tableFetched query.table base.length :: rest.trace, rest.outcome⟩ := by
  rw [inputStage, fetchTable_of_ok fetchBase, Traced.mk_ok_bind]
  cases query.join with
  | none => rfl
  | some clause => rfl

theorem joinStage_of_ok
    (joins : joinRows clause.kind (joinSpec query clause base joined) base joined = .ok rows) :
    joinStage query clause base joined =
      ⟨[.joinCompleted clause.kind rows.length], .ok rows⟩ := by
  rw [joinStage, joins]
  rfl

theorem joinStage_of_unsupported {name : String} (kind : clause.kind = .unsupported name) :
    joinStage query clause base joined = .fail (.unsupported (.joinKind name)) := by
  rw [joinStage, kind]
  rfl

theorem execute_of_input_error {events : List Event} {error : QueryError}
    (input : inputStage source query = ⟨events, .error error⟩) :
    execute source query = ⟨query.started :: events, .error error⟩ := by
  rw [execute, Traced.note_bind, input]
  rfl

theorem execute_of_filter_error {events : List Event} {error : QueryError}
    (input : inputStage source query = ⟨events, .ok rows⟩)
    (fails : keepRows query.conditions rows = .error error) :
    execute source query = ⟨query.started :: events, .error error⟩ := by
  have conditional : query.conditions.isEmpty = false := by
    rw [List.isEmpty_eq_false_iff]
    intro none
    rw [none, keepRows_no_predicates] at fails
    cases fails
  have filter : filterStage query.conditions rows = .fail error := by
    rw [filterStage, conditional, fails]
    rfl
  rw [execute, Traced.note_bind, input, Traced.mk_ok_bind, filter, Traced.bind_fail]
  simp only [Traced.fail, List.append_nil]
  rfl

theorem filterStage_of_ok {sizes : Sizes} {kept : List Row}
    (filtered : keepRows query.conditions rows = .ok kept) (input : sizes.input = rows.length)
    (left : sizes.kept = kept.length) :
    filterStage query.conditions rows = ⟨query.filterEvents sizes, .ok kept⟩ := by
  rw [filterStage, Query.filterEvents]
  by_cases none : query.conditions = []
  · rw [none, keepRows_no_predicates] at filtered
    obtain rfl : rows = kept := Except.ok.inj filtered
    simp [none, Traced.ok]
  · simp only [List.isEmpty_iff, none, if_false, filtered, input, left]
    rfl

theorem resultStage_eq {sizes : Sizes}
    (flag : query.aggregatesAll = (query.groupBy.isNone && query.fields.any Field.isAggregate))
    (shown : sizes.result = (resultRows query rows).length) :
    resultStage query rows = ⟨query.aggregateEvents sizes, .ok (resultRows query rows)⟩ := by
  rw [Query.aggregateEvents, Query.aggregates, shown]
  unfold resultStage resultRows
  rw [flag]
  cases query.groupBy with
  | some columns => rfl
  | none =>
    cases query.fields.any Field.isAggregate with
    | true => rfl
    | false => rfl

theorem execute_of_ok {events : List Event} {kept : List Row} (sizes : Sizes)
    (flag : query.aggregatesAll = (query.groupBy.isNone && query.fields.any Field.isAggregate))
    (input : inputStage source query = ⟨events, .ok rows⟩)
    (filtered : keepRows query.conditions rows = .ok kept) (size : sizes.input = rows.length)
    (left : sizes.kept = kept.length) (shown : sizes.result = (resultRows query kept).length) :
    execute source query = ⟨query.started :: (events ++ (query.filterEvents sizes ++
      (query.aggregateEvents sizes ++ [.queryCompleted sizes.result]))),
      .ok (resultRows query kept)⟩ := by
  rw [execute, Traced.note_bind, input, Traced.mk_ok_bind, filterStage_of_ok filtered size left,
    Traced.mk_ok_bind, resultStage_eq flag shown, Traced.mk_ok_bind, Traced.note_bind, shown]
  rfl

end

theorem Query.take_inputEvents (query : Query) (sizes : Sizes) :
    (query.events sizes).take query.inputEvents =
      query.started :: .tableFetched query.table sizes.base :: query.joinEvents sizes := by
  unfold Query.events Query.inputEvents Query.joinEvents
  cases query.join with
  | none => rfl
  | some clause => rfl

theorem Query.inputEvents_lt (query : Query) (sizes : Sizes) :
    query.inputEvents < (query.events sizes).length := by
  have taken := congrArg List.length (query.take_inputEvents sizes)
  have joinEvents : (query.joinEvents sizes).length + 2 = query.inputEvents := by
    unfold Query.joinEvents Query.inputEvents
    cases query.join with
    | none => rfl
    | some clause => rfl
  simp only [Query.events, List.length_cons, List.length_append, List.length_nil]
  omega

theorem Tables.source_of_some {tables : Tables} {name : String} {rows : List Row}
    (found : tables.find? name = some rows) : tables.source name = .ok rows := by
  rw [Tables.source, found]

theorem Tables.source_of_none {tables : Tables} {name : String}
    (missing : tables.find? name = none) : tables.source name = .error (.notFound name) := by
  rw [Tables.source, missing]

section

variable {tables : Tables} {text : String} {query : Query}

theorem ends_of_input (base joined : Nat) (rows : List Row)
    (accepted : (readQuery text).outcome = .ok query)
    (input : inputStage tables.source query =
      ⟨.tableFetched query.table base :: query.joinEvents ⟨base, joined, rows.length, 0, 0⟩,
        .ok rows⟩)
    (fetched : ∀ kept result : Nat,
      Sizes.Fetched ⟨base, joined, rows.length, kept, result⟩ tables query rows) :
    Ends tables text (execute tables.source query).outcome
      (execute tables.source query).trace := by
  have outcome : (inputStage tables.source query).outcome = .ok rows := by rw [input]
  cases filtered : keepRows query.conditions rows with
  | error error =>
    obtain ⟨row, member, undecided⟩ := exists_of_keepRows_eq_error filtered
    obtain ⟨predicate, condition, missing, rfl⟩ := satisfies_eq_error undecided
    have ends := Ends.withoutColumn accepted outcome (fetched 0 0) member condition missing filtered
    rw [Query.take_inputEvents] at ends
    rw [execute_of_filter_error input filtered]
    exact ends
  | ok kept =>
    have flag := aggregatesAll_of_readQuery accepted
    have executed := execute_of_ok ⟨base, joined, rows.length, kept.length,
      (resultRows query kept).length⟩ flag input filtered rfl rfl rfl
    rw [executed]
    refine .finished accepted outcome (fetched _ _) filtered
      ⟨rfl, (sublist_of_keepRows filtered).length_le, ?_, rfl, ?_⟩
    · intro none
      rw [none, keepRows_no_predicates] at filtered
      rw [Except.ok.inj filtered]
    · intro projects
      obtain ⟨ungrouped, unaggregated⟩ : query.groupBy = none ∧
          query.fields.any Field.isAggregate = false := by
        simpa [Query.aggregates] using projects
      have projecting : query.Projects := ⟨ungrouped, by rw [flag, ungrouped, unaggregated]; rfl⟩
      rw [projecting.resultRows_eq, length_project]

theorem ends_of_single {base : List Row} (accepted : (readQuery text).outcome = .ok query)
    (fetchBase : tables.find? query.table = some base) (single : query.join = none) :
    Ends tables text (execute tables.source query).outcome
      (execute tables.source query).trace := by
  refine ends_of_input base.length 0 base accepted ?_ ?_
  · rw [inputStage_of_ok (Tables.source_of_some fetchBase), Query.joinEvents, single]
  · intro kept result
    exact ⟨by rw [fetchBase]; rfl, by simp [single], rfl, fun _ => rfl⟩

theorem ends_of_join {clause : JoinClause} {base joined : List Row}
    (accepted : (readQuery text).outcome = .ok query)
    (fetchBase : tables.find? query.table = some base) (join : query.join = some clause)
    (fetchJoined : tables.find? clause.table = some joined) :
    Ends tables text (execute tables.source query).outcome
      (execute tables.source query).trace := by
  have stage := inputStage_of_ok (Tables.source_of_some fetchBase)
  rw [join] at stage
  simp only [fetchTable_of_ok (Tables.source_of_some fetchJoined), Traced.mk_ok_bind] at stage
  cases joins : joinRows clause.kind (joinSpec query clause base joined) base joined with
  | error name =>
    have kind : clause.kind = .unsupported name := by
      unfold joinRows at joins
      split at joins
      next => cases joins
      next => cases joins
      next => cases joins
      next other kind => rw [kind, Except.error.inj joins]
    rw [joinStage_of_unsupported kind] at stage
    rw [execute_of_input_error stage]
    have ends := Ends.unsupported ⟨base.length, joined.length, 0, 0, 0⟩ accepted join fetchBase rfl
      fetchJoined rfl kind
    simpa [Query.events, Query.joinEvents, join, Traced.fail] using ends
  | ok rows =>
    rw [joinStage_of_ok joins] at stage
    refine ends_of_input base.length joined.length rows accepted ?_ ?_
    · rw [stage, Query.joinEvents, join]
      rfl
    · intro kept result
      refine ⟨by rw [fetchBase]; rfl, ?_, rfl, fun single => by simp [single] at join⟩
      rintro other same
      obtain rfl : clause = other := Option.some.inj (join.symm.trans same)
      rw [fetchJoined]
      rfl

theorem ends_executeText (tables : Tables) (text : String) :
    Ends tables text (executeText tables.source text).outcome
      (executeText tables.source text).trace := by
  rw [executeText]
  cases accepted : (readQuery text).outcome with
  | error error => exact .unread accepted
  | ok query =>
    change Ends tables text (execute tables.source query).outcome
      (execute tables.source query).trace
    cases fetchBase : tables.find? query.table with
    | none =>
      have stage : inputStage tables.source query = .fail (.source (.notFound query.table)) := by
        rw [inputStage, fetchTable_of_error (Tables.source_of_none fetchBase), Traced.bind_fail]
      rw [execute_of_input_error stage]
      exact .withoutBase ⟨0, 0, 0, 0, 0⟩ accepted fetchBase
    | some base =>
      cases join : query.join with
      | none => exact ends_of_single accepted fetchBase join
      | some clause =>
        cases fetchJoined : tables.find? clause.table with
        | some joined => exact ends_of_join accepted fetchBase join fetchJoined
        | none =>
          have stage := inputStage_of_ok (Tables.source_of_some fetchBase)
          rw [join] at stage
          simp only [fetchTable_of_error (Tables.source_of_none fetchJoined), Traced.bind_fail]
            at stage
          rw [execute_of_input_error stage]
          have ends := Ends.withoutJoined ⟨base.length, 0, 0, 0, 0⟩ accepted join fetchBase rfl
            fetchJoined
          simpa [Query.events, Query.joinEvents, join, Traced.fail] using ends

theorem Ends.strictPrefix {error : QueryError} {events : List Event}
    (ends : Ends tables text (.error error) events)
    (accepted : (readQuery text).outcome = .ok query) :
    ∃ sizes, events <+: query.events sizes ∧ events ≠ query.events sizes := by
  have cut (sizes : Sizes) (count : Nat) (before : count ≤ query.inputEvents) :
      ∃ sizes', (query.events sizes).take count <+: query.events sizes' ∧
        (query.events sizes).take count ≠ query.events sizes' := by
    refine ⟨sizes, List.take_prefix _ _, fun same => ?_⟩
    have longer := query.inputEvents_lt sizes
    have length := congrArg List.length same
    rw [List.length_take] at length
    omega
  have atLeast : 2 ≤ query.inputEvents := by
    unfold Query.inputEvents
    split
    next => decide
    next => decide
  cases ends with
  | unread rejected => simp [accepted] at rejected
  | withoutBase sizes accepted' missing =>
    obtain rfl := Except.ok.inj (accepted.symm.trans accepted')
    exact cut sizes 1 (by omega)
  | withoutJoined sizes accepted' join fetchBase reported missing =>
    obtain rfl := Except.ok.inj (accepted.symm.trans accepted')
    exact cut _ 2 atLeast
  | unsupported sizes accepted' join fetchBase reported fetchJoined reportedToo kind =>
    obtain rfl := Except.ok.inj (accepted.symm.trans accepted')
    exact cut _ 3 (by simp [Query.inputEvents, join])
  | withoutColumn accepted' input fetched member condition missing fails =>
    obtain rfl := Except.ok.inj (accepted.symm.trans accepted')
    exact cut _ _ (Nat.le_refl _)

/-- The events of an execution are fixed by how far it gets. On failure they are a strict prefix of
those of a success, and there is an event for the filter when there is a WHERE in the text. -/
theorem executeText_events (tables : Tables) (text : String) :
    Ends tables text (executeText tables.source text).outcome
        (executeText tables.source text).trace ∧
      ∀ query, (readQuery text).outcome = .ok query →
        (∀ error, (executeText tables.source text).outcome = .error error →
          ∃ sizes, (executeText tables.source text).trace <+: query.events sizes ∧
            (executeText tables.source text).trace ≠ query.events sizes) ∧
        ∃ tokens head rest, Sql.tokens text = .ok tokens ∧
          Grammar.queryHead tokens = .ok (head, rest) ∧
          (query.conditions = [] ↔ Grammar.afterKeyword? "WHERE" rest = none) := by
  have ends := ends_executeText tables text
  refine ⟨ends, fun query accepted => ⟨fun error fails => ?_, ?_⟩⟩
  · exact (fails ▸ ends).strictPrefix accepted
  · obtain ⟨tokens, spelled, read⟩ := exists_tokens_of_readQuery accepted
    obtain ⟨head, rest, reads, clause⟩ := Grammar.conditions_eq_nil_iff_of_query read
    exact ⟨tokens, head, rest, spelled, reads, clause⟩

end

end TableQuery
