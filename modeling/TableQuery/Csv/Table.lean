import TableQuery.Csv.Record
import TableQuery.Row
import TableQuery.Text.Utf8
import TableQuery.Text.WhiteSpace

/-! A file of records as the rows of a table. The first record names the columns, all records
have as many fields as it has, and names and cells lose the white space at their ends. -/

namespace TableQuery.Csv

/-- The white space of one byte, but for the vertical tab. -/
def isBlank (b : UInt8) : Bool :=
  b == 0x20 || b == 0x09 || b == lineFeed || b == 0x0C || b == carriageReturn

def leadingBlanks (field : List UInt8) : Nat := (field.takeWhile isBlank).length

/-- The texts of the fields, or the place of the first field that is no text, and in it of the
first byte at fault, counted after the margin of its field. -/
def texts (margin : List UInt8 → Nat) (index : Nat) :
    List (List UInt8) → Except (Nat × Nat) (List String)
  | [] => .ok []
  | field :: rest =>
    match Text.decode field with
    | .error byte => .error (index, byte - margin field)
    | .ok text => (texts margin (index + 1) rest).map (String.ofList (Text.trim text) :: ·)

def recordTexts (margin : List UInt8 → Nat) (file : List UInt8) (record : Record) (index : Nat) :
    Except Fault (List String) :=
  (texts margin 0 record.fields).mapError fun (field, byte) =>
    .notUtf8 (record.position file index) field byte

def headerTexts : List UInt8 → Record → Nat → Except Fault (List String) := recordTexts fun _ => 0

/-- The bytes of a cell are counted from its first one that is no blank. -/
def cellTexts : List UInt8 → Record → Nat → Except Fault (List String) := recordTexts leadingBlanks

def row (names cells : List String) : Row :=
  Row.ofColumns ((names.zip cells).map fun (name, cell) => (ColumnKey.plain name, .text cell))

def rows (file : List UInt8) (names : List String) (index : Nat) :
    List Record → Except Fault (List Row)
  | [] => .ok []
  | record :: rest =>
    if record.fields.length ≠ names.length then
      .error (.unequalLengths (record.position file index) record.fields.length names.length)
    else
      match cellTexts file record index with
      | .error fault => .error fault
      | .ok cells => (rows file names (index + 1) rest).map (row names cells :: ·)

def table (file : List UInt8) : Except Fault (List Row) :=
  match fileRecords file with
  | [] => .ok []
  | header :: rest =>
    match headerTexts file header 0 with
    | .error fault => .error fault
    | .ok names => rows file names 1 rest

end TableQuery.Csv
