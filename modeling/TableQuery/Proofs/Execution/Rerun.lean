import TableQuery.Proofs.Execution.Outcome
import TableQuery.Proofs.Filter.Kept
import TableQuery.Proofs.Query.Accepted
import TableQuery.Proofs.Row.Projected

/-! A query run again on its own result. Projected rows answer what the query reads as their sources
have answered it, so that all of them are kept, and each is its own projection. -/

namespace TableQuery

theorem satisfies_of_get? {row other : Row} {predicates : List Predicate}
    (answers : ∀ predicate ∈ predicates, ∀ value,
      row.get? predicate.field = some value → other.get? predicate.field = some value)
    (holds : satisfies row predicates = .ok true) : satisfies other predicates = .ok true := by
  rw [← passes_iff, passes_iff_forall] at holds ⊢
  intro predicate member
  have held := holds predicate member
  cases found : row.get? predicate.field with
  | none => simp [Predicate.evaluate, found] at held
  | some value =>
    have same : predicate.evaluate other = predicate.evaluate row := by
      rw [Predicate.evaluate, Predicate.evaluate, found, answers predicate member value found]
    rw [same, held]

def Query.ShowsConditions (query : Query) : Prop :=
  query.hasWildcard ∨ ∀ predicate ∈ query.conditions,
    ∃ field ∈ query.fields, field.kind = .plain predicate.field

theorem Query.ShowsConditions.shown_or_wildcard {query : Query} (shows : query.ShowsConditions)
    {predicate : Predicate} (member : predicate ∈ query.conditions) :
    (∃ field ∈ query.fields, field.isWildcard) ∨
      ∃ field ∈ query.fields, field.kind = .plain predicate.field := by
  rcases shows with wildcard | selected
  · exact .inl (by simpa [Query.hasWildcard] using wildcard)
  · exact .inr (selected predicate member)

/-- A projection of one table, run on its result in the place of the table, gives the result again. -/
theorem executeText_rerun {tables : Tables} {text : String} {query : Query} {result : List Row}
    (accepted : (readQuery text).outcome = .ok query) (single : query.join = none)
    (ungrouped : query.groupBy = none)
    (unaggregated : ∀ field ∈ query.fields, field.isAggregate = false)
    (named : NamedByColumn query.fields) (shows : query.ShowsConditions)
    (succeeds : (executeText tables.source text).outcome = .ok result) :
    (executeText (tables.store query.table result).source text).outcome = .ok result := by
  have projects := projects_of_readQuery accepted ungrouped unaggregated
  rw [executeText, accepted] at succeeds ⊢
  obtain ⟨rows, kept, -, filtered, rfl⟩ := (execute_eq_ok_iff projects).1 succeeds
  have fetched : (inputStage (tables.store query.table (project query.fields kept)).source
      query).outcome = .ok (project query.fields kept) := by
    rw [outcome_inputStage_of_table single, Tables.source, Tables.find?_store_self]
    rfl
  have hold : ∀ row ∈ project query.fields kept, satisfies row query.conditions = .ok true := by
    intro row member
    obtain ⟨source, inKept, rfl⟩ := List.mem_map.1 member
    refine satisfies_of_get? (fun predicate condition value answered => ?_)
      (satisfies_of_keepRows filtered source inKept)
    exact get?_projectRow named (shows.shown_or_wildcard condition) answered
  have again : project query.fields (project query.fields kept) = project query.fields kept := by
    rw [project, project, List.map_map]
    exact List.map_congr_left fun source _ => projectRow_projectRow named source
  exact (execute_eq_ok_iff projects).2 ⟨_, _, fetched, keepRows_eq_self hold, again⟩

/-- Rows without the class that is asked for, and one with a column under a key of the table. -/
def pupils : Tables := Tables.empty.store "pupil"
  [.ofColumns [(.plain "name", .text "Ann"), (.plain "age", .text "11")],
    .ofColumns [(.plain "age", .number 9), (.plain "name", .text "Ben")],
    .ofColumns [(.qualified "pupil" "age", .text "12"), (.plain "age", .text "10")]]

def olderPupilsText : String := "SELECT pupil.age, *, class FROM pupil WHERE pupil.age > 10"

def olderPupils : Query where
  fields := [⟨"pupil.age", .plain "pupil.age"⟩, ⟨"*", .wildcard⟩, ⟨"class", .plain "class"⟩]
  table := "pupil"
  join := none
  conditions := [⟨"pupil.age", .greater, "10"⟩]
  groupBy := none
  aggregatesAll := false

theorem readQuery_olderPupilsText : (readQuery olderPupilsText).outcome = .ok olderPupils :=
  eq_ok_of_toOption (by decide +kernel)

theorem executeText_rerun_pupils :
    (readQuery olderPupilsText).outcome = .ok olderPupils ∧ olderPupils.ShowsConditions ∧
    ∃ result, (executeText pupils.source olderPupilsText).outcome = .ok result ∧
      result.length = 2 ∧
      (executeText (pupils.store "pupil" result).source olderPupilsText).outcome = .ok result := by
  have named : NamedByColumn olderPupils.fields := by
    simp [NamedByColumn, olderPupils]
  have executed : (execute pupils.source olderPupils).outcome.toOption.map List.length = some 2 := by
    decide +kernel
  obtain ⟨result, found, length⟩ := Option.map_eq_some_iff.1 executed
  have succeeds : (executeText pupils.source olderPupilsText).outcome = .ok result := by
    rw [executeText, readQuery_olderPupilsText]
    exact eq_ok_of_toOption found
  have rerun := executeText_rerun readQuery_olderPupilsText rfl rfl (by decide) named (.inl rfl)
    succeeds
  exact ⟨readQuery_olderPupilsText, .inl rfl, result, succeeds, length, rerun⟩

end TableQuery
