/-! What keeps the file of a table from being read. -/

namespace TableQuery.Csv

/-- Where the reading of a record begins. Records and bytes are counted from 0, lines from 1. -/
structure RecordPosition where
  record : Nat
  line : Nat
  byte : Nat
  deriving DecidableEq

inductive Fault where
  | nullInName
  | nameTooLong
  | unequalLengths (position : RecordPosition) (found expected : Nat)
  | notUtf8 (position : RecordPosition) (field index : Nat)
  | system (message : String)
  deriving DecidableEq

def Fault.message : Fault → String
  | nullInName => "file name contained an unexpected NUL byte"
  | nameTooLong => "File name too long (os error 36)"
  | unequalLengths position found expected =>
    "CSV error: record " ++ toString position.record ++ " (line: " ++ toString position.line ++
      ", byte: " ++ toString position.byte ++ "): found record with " ++ toString found ++
      " fields, but the previous record has " ++ toString expected ++ " fields"
  | notUtf8 position field index =>
    "CSV parse error: record " ++ toString position.record ++ " (line " ++
      toString position.line ++ ", field: " ++ toString field ++ ", byte: " ++
      toString position.byte ++ "): invalid utf-8: invalid UTF-8 in field " ++ toString field ++
      " near byte index " ++ toString index
  | system message => message

end TableQuery.Csv
