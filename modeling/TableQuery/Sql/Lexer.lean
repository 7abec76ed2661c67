import TableQuery.Sql.BlankReader
import TableQuery.Sql.DollarReader
import TableQuery.Sql.EscapedReader
import TableQuery.Sql.NumeralReader
import TableQuery.Sql.QuotedReader
import TableQuery.Sql.SourceText
import TableQuery.Sql.WordReader

/-! A query text as tokens. At each place the first reader that does not decline decides; the
last one takes any character, so that only the end of the text ends the tokens. -/

namespace TableQuery.Sql

def readers : List Reader :=
  [blankReader, stringReader, rawReader, escapedStringReader, unicodeStringReader,
    quotedWordReader .double, quotedWordReader .back, numeralReader, commentReader,
    markedWordReader, wordReader, dollarReader, questionReader, markReader]

def readToken (s : List Char) : Option Outcome := readers.findSome? (·.read s)

theorem readToken_length {s rest : List Char} {token : Token}
    (h : readToken s = some (.ok (token, rest))) : rest.length < s.length := by
  obtain ⟨reader, -, hread⟩ := List.exists_of_findSome?_eq_some h
  exact reader.shortens hread

structure Lexeme where
  token : Token
  source : List Char

def lexemes (s : List Char) : Except Fault (List Lexeme) :=
  match _h : readToken s with
  | none => .ok []
  | some (.error fault) => .error fault
  | some (.ok (token, rest)) => (lexemes rest).map (⟨token, s⟩ :: ·)
termination_by s.length
decreasing_by exact readToken_length _h

theorem lexemes_of_none {s : List Char} (h : readToken s = none) : lexemes s = .ok [] := by
  rw [lexemes]
  split <;> simp_all

theorem lexemes_of_ok {s rest : List Char} {token : Token}
    (h : readToken s = some (.ok (token, rest))) :
    lexemes s = (lexemes rest).map (⟨token, s⟩ :: ·) := by
  rw [lexemes]
  split <;> simp_all

/-- Both spellings of an inequality are the same operator to a reader of tokens. -/
def Token.isInequality : Token → Bool
  | symbol .notEqual | symbol .angleNotEqual => true
  | _ => false

/-- The token of a lexeme in a text. An inequality takes its spelling from the text at its place, or
the spelling `!=` where there is no such place. -/
def Lexeme.spelled (text : List Char) (lexeme : Lexeme) : Token :=
  if lexeme.token.isInequality then
    .ofSpelling ((sourceText? text (Position.of text lexeme.source) 2).getD ['!', '='])
  else lexeme.token

def tokens (text : String) : Except LocatedFault (List Token) :=
  match lexemes text.toList with
  | .ok found => .ok (found.map (Lexeme.spelled text.toList))
  | .error fault => .error (fault.locate text.toList)

end TableQuery.Sql
