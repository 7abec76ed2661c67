import TableQuery.Row
import TableQuery.Text.Hex

/-! Values and rows as JSON text. A row is an object with its columns in order, and a column
whose key is shown like another's is written as often as it occurs. -/

namespace TableQuery.Json

def escape (c : Char) : List Char :=
  match c with
  | '"' => ['\\', '"']
  | '\\' => ['\\', '\\']
  | '\x08' => ['\\', 'b']
  | '\x0c' => ['\\', 'f']
  | '\n' => ['\\', 'n']
  | '\r' => ['\\', 'r']
  | '\t' => ['\\', 't']
  | c =>
    if c.toNat < 0x10 then "\\u000".toList ++ Text.hexText c.toNat
    else if c.toNat < 0x20 then "\\u00".toList ++ Text.hexText c.toNat
    else [c]

def quoted (s : String) : List Char := '"' :: s.toList.flatMap escape ++ ['"']

def valueText : Value → List Char
  | .null => "null".toList
  | .number n => Number.jsonText n
  | .text s => quoted s

def openBrace : Char := '\x7b'

def closeBrace : Char := '\x7d'

def joined (separator : List Char) (parts : List (List Char)) : List Char :=
  separator.intercalate parts

def member (colon : List Char) (column : ColumnKey × Value) : List Char :=
  quoted column.1.text ++ colon ++ valueText column.2

def rowText (row : Row) : List Char :=
  openBrace :: joined [','] (row.columns.map (member [':'])) ++ [closeBrace]

/-- The items on lines of their own, two blanks deeper than the closing bracket. -/
def block (first last : Char) (margin : Nat) (items : List (List Char)) : List Char :=
  let lineStart (depth : Nat) : List Char := '\n' :: List.replicate depth ' '
  if items.isEmpty then [first, last]
  else first :: lineStart (margin + 2) ++ joined (',' :: lineStart (margin + 2)) items ++
    lineStart margin ++ [last]

def rowsText (rows : List Row) : List Char :=
  block '[' ']' 0 (rows.map fun row =>
    block openBrace closeBrace 2 (row.columns.map (member [':', ' '])))

end TableQuery.Json
