/-! The entries of a select list. An entry keeps its text as written, which names the column of
the result that an aggregate fills. -/

namespace TableQuery

inductive Aggregate where
  | count
  | sum (column : String)
  | average (column : String)
  | minimum (column : String)
  | maximum (column : String)
  deriving DecidableEq

def Aggregate.column? : Aggregate → Option String
  | count => none
  | sum column | average column | minimum column | maximum column => some column

inductive FieldKind where
  | plain (column : String)
  | wildcard
  | aggregate (aggregate : Aggregate)
  deriving DecidableEq

structure Field where
  text : String
  kind : FieldKind
  deriving DecidableEq

namespace Field

def isWildcard (field : Field) : Bool :=
  match field.kind with
  | .wildcard => true
  | _ => false

def aggregate? (field : Field) : Option Aggregate :=
  match field.kind with
  | .aggregate aggregate => some aggregate
  | _ => none

def isAggregate (field : Field) : Bool := field.aggregate?.isSome

def column? (field : Field) : Option String :=
  match field.kind with
  | .plain column => some column
  | .wildcard => none
  | .aggregate aggregate => aggregate.column?

end Field

end TableQuery
