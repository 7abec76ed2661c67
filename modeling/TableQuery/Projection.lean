import TableQuery.Query.Field
import TableQuery.Row

/-! The selected columns of a row. A wildcard copies all columns under their own keys, and a
plain entry gives a column named by its text, null where the row has none. -/

namespace TableQuery

def projectField (source row : Row) (field : Field) : Row :=
  match field.kind with
  | .wildcard => row.setAll source.columns
  | .plain column => row.insert field.text ((source.get? column).getD .null)
  | .aggregate _ => row

def projectRow (fields : List Field) (source : Row) : Row :=
  fields.foldl (projectField source) .empty

def project (fields : List Field) (rows : List Row) : List Row := rows.map (projectRow fields)

@[simp] theorem length_project (fields : List Field) (rows : List Row) :
    (project fields rows).length = rows.length := by
  simp [project]

end TableQuery
