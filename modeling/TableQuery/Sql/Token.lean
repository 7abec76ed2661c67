import TableQuery.Sql.Symbol
import TableQuery.Text.UpperCase

/-! The tokens of a query text. White space and comments are tokens too, because a literal and
the text of a selected field are put together from the texts of all tokens they span. -/

namespace TableQuery.Sql

inductive Quote where
  | double
  | back
  deriving DecidableEq

def Quote.mark : Quote → Char
  | double => '"'
  | back => '\x60'

inductive Blank where
  | space
  | tab
  | newline
  deriving DecidableEq

def Blank.text : Blank → String
  | space => " "
  | tab => "\t"
  | newline => "\n"

/-- A line comment holds the line break that ends it. -/
inductive Comment where
  | line (body : String)
  | block (body : String)
  deriving DecidableEq

def Comment.text : Comment → String
  | line body => "--" ++ body
  | block body => "/*" ++ body ++ "*/"

inductive StringForm where
  | single
  | national
  | hex
  | bytes
  | bytesDouble
  | raw
  | rawDouble
  | rawTriple
  | rawTripleDouble
  | escaped
  | unicode
  | dollar (tag : String)
  deriving DecidableEq

namespace StringForm

def opening : StringForm → String
  | single => "'"
  | national => "N'"
  | hex => "X'"
  | bytes => "B'"
  | bytesDouble => "B\""
  | raw => "R'"
  | rawDouble => "R\""
  | rawTriple => "R'''"
  | rawTripleDouble => "R\"\"\""
  | escaped => "E'"
  | unicode => "U&'"
  | dollar tag => "$" ++ tag ++ "$"

def closing : StringForm → String
  | bytesDouble | rawDouble => "\""
  | rawTriple => "'''"
  | rawTripleDouble => "\"\"\""
  | dollar tag => "$" ++ tag ++ "$"
  | _ => "'"

end StringForm

inductive Token where
  | word (value : String) (quote : Option Quote)
  | string (form : StringForm) (value : String)
  | number (spelling : String)
  | placeholder (spelling : String)
  | symbol (symbol : Symbol)
  | other (spelling : String)
  | blank (blank : Blank)
  | comment (comment : Comment)
  deriving DecidableEq

namespace Token

/-- The text of a token is its normal spelling: strings and quoted words show their value
between the marks, with nothing in it doubled or escaped. -/
def text : Token → String
  | word value none => value
  | word value (some quote) => quote.mark.toString ++ value ++ quote.mark.toString
  | string form value => form.opening ++ value ++ form.closing
  | number spelling | placeholder spelling | other spelling => spelling
  | symbol s => s.spelling
  | blank b => b.text
  | comment c => c.text

def isSpace : Token → Bool
  | blank _ | comment _ => true
  | _ => false

def isSymbol : Token → Bool
  | symbol _ => true
  | _ => false

/-- Only a word without quotes is a keyword, in whatever case it is written. -/
def isKeyword (keyword : String) : Token → Bool
  | word value none => Text.upperCase value.toList == keyword.toList
  | _ => false

def ofSpelling (s : List Char) : Token :=
  match Symbol.ofSpelling? s with
  | some s => symbol s
  | none => other (String.ofList s)

@[simp] theorem text_ofSpelling (s : List Char) : (ofSpelling s).text = String.ofList s := by
  unfold ofSpelling
  split
  next h => simp [text, ← Symbol.spelling_of_ofSpelling? h]
  next => rfl

@[simp] theorem isKeyword_quoted (keyword value : String) (quote : Quote) :
    (word value (some quote)).isKeyword keyword = false := rfl

end Token

end TableQuery.Sql
