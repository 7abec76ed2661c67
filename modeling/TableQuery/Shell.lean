import TableQuery.Execution
import TableQuery.ResultSet
import TableQuery.Shell.Settings

/-! What the command writes. With a query among its settings it answers that and ends; without
one it reads lines, of which each is a query or an instruction to the shell. -/

namespace TableQuery.Shell

structure Reply where
  output : String
  errors : String
  deriving DecidableEq

def Reply.append (first second : Reply) : Reply :=
  ⟨first.output ++ second.output, first.errors ++ second.errors⟩

def Format.render (format : Format) (result : ResultSet) : String :=
  match format with
  | table => result.drawing
  | json => result.json

def answer (source : Source) (format : Format) (query : String) : Except String String :=
  match (executeText source query).outcome with
  | .ok rows => .ok (format.render (ResultSet.ofRows rows))
  | .error error => .error error.message

def reply (source : Source) (format : Format) (query : String) : Reply :=
  match answer source format query with
  | .ok text => ⟨text ++ "\n", ""⟩
  | .error message => ⟨"", "Error: " ++ message ++ "\n"⟩

def banner (directory : String) : String :=
  "MiniSQL interactive shell\nReading tables from " ++ directory ++
    "\nType SQL queries or '.help' for help\nType '.exit' to quit\n\n"

def prompt : String := "minisql> "

def help : String :=
  "Special Commands:\n" ++
  "  .help              Show this help message\n" ++
  "  .exit, .quit       Exit the shell\n" ++
  "\n" ++
  "Queries:\n" ++
  "  SELECT name, age FROM student WHERE age > 21\n" ++
  "  SELECT * FROM student\n" ++
  "  SELECT student.name, enrollment.course FROM student\n" ++
  "    INNER JOIN enrollment ON student.id = enrollment.student_id\n" ++
  "  SELECT course, COUNT(*) FROM enrollment GROUP BY course\n" ++
  "\n" ++
  "Notes:\n" ++
  "  - Each table is read from <data-dir>/<table>.csv\n" ++
  "  - Joins: INNER, LEFT and RIGHT\n" ++
  "  - Aggregates: COUNT, SUM, AVG, MIN, MAX\n" ++
  "  - OR in WHERE is treated as AND\n" ++
  "\n"

inductive Line where
  | empty
  | exit
  | help
  | unknown (text : String)
  | query (text : String)
  deriving DecidableEq

/-- Only a line that begins with a period is an instruction to the shell. -/
def Line.ofText (text : String) : Line :=
  let text := Text.trim text.toList
  if text = [] then .empty
  else if text.head? = some '.' then
    match String.ofList text with
    | ".exit" | ".quit" => .exit
    | ".help" => .help
    | text => .unknown text
  else .query (String.ofList text)

def respond (source : Source) (format : Format) (line : String) : Reply × Bool :=
  match Line.ofText line with
  | .empty => (⟨"", ""⟩, true)
  | .exit => (⟨"Goodbye!\n", ""⟩, false)
  | .help => (⟨help, ""⟩, true)
  | .unknown text => (⟨"Unknown command: " ++ text ++ "\nType '.help' for help\n", ""⟩, true)
  | .query text => (reply source format text, true)

def converse (source : Source) (format : Format) : List String → Reply
  | [] => ⟨prompt ++ "\n", ""⟩
  | line :: rest =>
    let (said, more) := respond source format line
    let first := Reply.append ⟨prompt, ""⟩ said
    if more then first.append (converse source format rest) else first

/-- The lines of an input. A line feed at the very end begins no further line. -/
def inputLines (input : String) : List String :=
  let lines := input.splitOn "\n"
  if lines.getLast? = some "" then lines.dropLast else lines

def run (source : Source) (settings : Settings) (input : String) : Reply × Nat :=
  match settings.query with
  | some query =>
    let said := reply source settings.format query
    (said, if said.errors = "" then 0 else 1)
  | none =>
    ((Reply.mk (banner settings.directory) "").append
      (converse source settings.format (inputLines input)), 0)

end TableQuery.Shell
