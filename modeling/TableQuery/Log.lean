import TableQuery.Execution
import TableQuery.Text.Quoted

/-! What is logged of a query: a warning for each OR, then the events of its execution. -/

namespace TableQuery

inductive Level where
  | warn
  | debug
  deriving DecidableEq

def Level.name : Level → String
  | warn => "WARN"
  | debug => "DEBUG"

structure LogEntry where
  level : Level
  message : String
  details : List (String × String)
  deriving DecidableEq

def Event.entry (event : Event) : LogEntry :=
  match event with
  | .queryParsed table joined predicates =>
    ⟨.debug, "query parsed", [("table", table), ("join_table", Text.quotedOption joined),
      ("predicates", toString predicates)]⟩
  | .tableFetched table rows =>
    ⟨.debug, "table fetched", [("table", table), ("rows", toString rows)]⟩
  | .joinCompleted kind rows =>
    ⟨.debug, "join completed", [("kind", kind.name), ("rows", toString rows)]⟩
  | .rowsFiltered before after =>
    ⟨.debug, "rows filtered", [("before", toString before), ("after", toString after)]⟩
  | .rowsAggregated grouped groups =>
    ⟨.debug, "rows aggregated", [("grouped", if grouped then "true" else "false"),
      ("groups", toString groups)]⟩
  | .queryCompleted rows => ⟨.debug, "query completed", [("rows", toString rows)]⟩

def Warning.entry : Warning → LogEntry
  | orReadAsAnd => ⟨.warn, "OR in WHERE clause is evaluated as AND", []⟩

def logOf (source : Source) (text : String) : List LogEntry :=
  (readQuery text).trace.map Warning.entry ++ (executeText source text).trace.map Event.entry

end TableQuery
