import TableQuery.FirstSeen
import TableQuery.Json.Printer
import TableQuery.Row

/-! Rows with the columns in which they are shown, drawn as a table. All lines of a drawing are
equally wide: a column is as wide as the longest of its name and its cells. -/

namespace TableQuery

structure ResultSet where
  columns : List ColumnKey
  rows : List Row

namespace ResultSet

def ofRows (rows : List Row) : ResultSet := ⟨firstSeen (rows.flatMap Row.keys), rows⟩

def cell (row : Row) (key : ColumnKey) : List Char :=
  match row.find? key with
  | some value => value.toText.toList
  | none => []

def header (columns : List ColumnKey) : List (List Char) := columns.map (·.text.toList)

def cells (columns : List ColumnKey) (row : Row) : List (List Char) := columns.map (cell row)

def width (rows : List Row) (key : ColumnKey) : Nat :=
  rows.foldl (fun width row => max width (cell row key).length) key.text.length

def widths (result : ResultSet) : List Nat := result.columns.map (width result.rows)

def border (left middle right : Char) (widths : List Nat) : List Char :=
  left :: [middle].intercalate (widths.map fun width => List.replicate (width + 2) '─') ++ [right]

def paddedCell (text : List Char) (width : Nat) : List Char :=
  ' ' :: text ++ List.replicate (width - text.length) ' ' ++ [' ', '│']

def line (texts : List (List Char)) (widths : List Nat) : List Char :=
  '│' :: (List.zipWith paddedCell texts widths).flatten

def lines (result : ResultSet) : List (List Char) :=
  border '┌' '┬' '┐' result.widths ::
    line (header result.columns) result.widths ::
    border '├' '┼' '┤' result.widths ::
    result.rows.map (fun row => line (cells result.columns row) result.widths) ++
    [border '└' '┴' '┘' result.widths]

def drawing (result : ResultSet) : String :=
  if result.rows.isEmpty then "No rows found"
  else String.ofList (result.lines.flatMap (· ++ ['\n'])) ++ "\n" ++
    toString result.rows.length ++ " row(s) returned"

def json (result : ResultSet) : String := String.ofList (Json.rowsText result.rows)

end ResultSet

end TableQuery
