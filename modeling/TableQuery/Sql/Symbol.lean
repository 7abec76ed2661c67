/-! The operators and punctuation marks that the grammar of a query uses. -/

namespace TableQuery.Sql

inductive Symbol where
  | equal
  | doubleEqual
  | notEqual
  | angleNotEqual
  | spaceship
  | less
  | lessEqual
  | greater
  | greaterEqual
  | star
  | comma
  | period
  | semicolon
  | openParen
  | closeParen
  deriving DecidableEq

namespace Symbol

def spelling : Symbol → String
  | equal => "="
  | doubleEqual => "=="
  | notEqual => "!="
  | angleNotEqual => "<>"
  | spaceship => "<=>"
  | less => "<"
  | lessEqual => "<="
  | greater => ">"
  | greaterEqual => ">="
  | star => "*"
  | comma => ","
  | period => "."
  | semicolon => ";"
  | openParen => "("
  | closeParen => ")"

def all : List Symbol :=
  [equal, doubleEqual, notEqual, angleNotEqual, spaceship, less, lessEqual, greater,
    greaterEqual, star, comma, period, semicolon, openParen, closeParen]

def ofSpelling? (s : List Char) : Option Symbol := all.find? (·.spelling.toList == s)

theorem spelling_of_ofSpelling? {s : List Char} {symbol : Symbol}
    (h : ofSpelling? s = some symbol) : symbol.spelling.toList = s := by
  simpa using List.find?_some h

@[simp] theorem ofSpelling?_spelling (symbol : Symbol) :
    ofSpelling? symbol.spelling.toList = some symbol := by
  cases symbol <;> decide

end Symbol

end TableQuery.Sql
