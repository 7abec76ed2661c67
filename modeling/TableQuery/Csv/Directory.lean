import TableQuery.Csv.Table
import TableQuery.Source

/-! A directory as a source of tables: the table of a name is read from the file of that name.
A name that could lead out of the directory names no table. -/

namespace TableQuery.Csv

/-- The contents of the files that can be opened, by the names of their tables, and the reasons
why others cannot. -/
structure Directory where
  files : List (String × Except Fault (List UInt8))

def isTableName (name : String) : Bool :=
  name != "" && !name.toList.any (fun c => c == '/' || c == '\\') &&
    !(name.toList.zip name.toList.tail).contains ('.', '.')

/-- A file name, with its ending, has at most 255 bytes and no null character. -/
def nameFault? (name : String) : Option Fault :=
  if name.toList.contains '\x00' then some .nullInName
  else if 255 < name.utf8ByteSize + ".csv".utf8ByteSize then some .nameTooLong
  else none

def Directory.open? (directory : Directory) (name : String) : Option (Except Fault (List UInt8)) :=
  if isTableName name then
    match nameFault? name with
    | some fault => some (.error fault)
    | none => directory.files.lookup name
  else none

def tableNamed (name : String) (file : List UInt8) : Except SourceError (List Row) :=
  (table file).mapError (.unreadable name)

def Directory.source (directory : Directory) : Source := fun name =>
  match directory.open? name with
  | none => .error (.notFound name)
  | some (.error fault) => .error (.unreadable name fault)
  | some (.ok file) => tableNamed name file

end TableQuery.Csv
