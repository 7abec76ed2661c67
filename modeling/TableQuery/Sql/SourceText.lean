import TableQuery.Sql.Fault

/-! The characters of a text at a position, found again in its lines. -/

namespace TableQuery.Sql

/-- The lines of a text. A line feed ends a line, and with it a carriage return right before it. -/
def lines : List Char → List (List Char)
  | [] => []
  | '\n' :: rest => [] :: lines rest
  | '\r' :: '\n' :: rest => [] :: lines rest
  | c :: rest =>
    match lines rest with
    | [] => [[c]]
    | line :: more => (c :: line) :: more

/-- So many characters from a position on, or as many as its line has. No line and no column is
counted as 0. -/
def sourceText? (text : List Char) (position : Position) (count : Nat) : Option (List Char) :=
  match position with
  | ⟨line + 1, column + 1⟩ => (lines text)[line]?.map fun found => (found.drop column).take count
  | _ => none

end TableQuery.Sql
