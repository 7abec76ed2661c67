import TableQuery.Query
import TableQuery.Row

/-! Joins of two tables. A row of the result is built from a pair of rows, in which a side may be
missing. -/

namespace TableQuery

structure JoinSpec where
  condition : JoinCondition
  /-- The columns to carry; those without a table belong to the base table. -/
  fields : List String
  baseTable : String

def rowsMatch (condition : JoinCondition) (base joined : Row) : Bool :=
  match base.get? condition.left, joined.get? condition.right with
  | some a, some b => !a.isNull && !b.isNull && a.equals b
  | _, _ => false

structure Pair where
  base : Option Row
  joined : Option Row

/-- A missing side has null in every column, and a row that lacks the column gives nothing. -/
def Pair.value? (pair : Pair) (baseTable : String) (key : ColumnKey) : Option Value :=
  match if key.belongsTo baseTable then pair.base else pair.joined with
  | none => some .null
  | some row => row.get? key.name

def Pair.carry (pair : Pair) (baseTable : String) (row : Row) (field : String) : Row :=
  match pair.value? baseTable (.ofText field) with
  | some value => row.insert field value
  | none => row

def Row.tagged (row : Row) (table : String) : Row :=
  Row.ofColumns (row.columns.map fun column =>
    (ColumnKey.qualified table column.1.name, column.2))

def Pair.start (pair : Pair) (baseTable : String) (outer : Bool) : Row :=
  match outer, pair.base with
  | true, some base => base.tagged baseTable
  | _, _ => .empty

def Pair.row (pair : Pair) (spec : JoinSpec) (outer : Bool) : Row :=
  spec.fields.foldl (pair.carry spec.baseTable) (pair.start spec.baseTable outer)

def innerJoin (spec : JoinSpec) (base joined : List Row) : List Row :=
  base.flatMap fun b =>
    (joined.filter (rowsMatch spec.condition b ·)).map fun j => Pair.row ⟨some b, some j⟩ spec false

def pushMatches (holds : Row → Bool) (build : Row → Row) (inner : List Row) (out : Array Row) :
    Array Row :=
  inner.foldl (fun out row => if holds row then out.push (build row) else out) out

def pushOuter (holds : Row → Row → Bool) (build : Row → Option Row → Row) (inner : List Row)
    (out : Array Row) (row : Row) : Array Row :=
  let found := pushMatches (holds row) (fun other => build row (some other)) inner out
  if found.size = out.size then found.push (build row none) else found

def outerJoin (holds : Row → Row → Bool) (build : Row → Option Row → Row)
    (outer inner : List Row) : List Row :=
  (outer.foldl (pushOuter holds build inner) #[]).toList

def leftJoin (spec : JoinSpec) (base joined : List Row) : List Row :=
  outerJoin (rowsMatch spec.condition) (fun b found => Pair.row ⟨some b, found⟩ spec true)
    base joined

/-- A joined row that nothing matches is paired with a row of nulls in the shape of the first
base row, or with nothing when there is no base row. -/
def rightJoin (spec : JoinSpec) (base joined : List Row) : List Row :=
  outerJoin (fun j b => rowsMatch spec.condition b j)
    (fun j found => Pair.row ⟨found.or (base.head?.map Row.nulled), some j⟩ spec true)
    joined base

def joinRows (kind : JoinKind) (spec : JoinSpec) (base joined : List Row) :
    Except String (List Row) :=
  match kind with
  | .inner => .ok (innerJoin spec base joined)
  | .left => .ok (leftJoin spec base joined)
  | .right => .ok (rightJoin spec base joined)
  | .unsupported name => .error name

def tableColumns (table : String) (rows : List Row) : List String :=
  match rows with
  | [] => []
  | row :: _ => row.keys.map fun key => (ColumnKey.qualified table key.name).text

/-- The columns a join has to carry: those that the query reads and, for a wildcard, all
columns of both tables. -/
def joinFields (query : Query) (clause : JoinClause) (base joined : List Row) : List String :=
  if query.hasWildcard then
    (tableColumns query.table base ++ tableColumns clause.table joined).foldl addIfNew
      query.referencedColumns
  else query.referencedColumns

def joinSpec (query : Query) (clause : JoinClause) (base joined : List Row) : JoinSpec where
  condition := clause.condition.oriented query.table clause.table
  fields := joinFields query clause base joined
  baseTable := query.table

end TableQuery
