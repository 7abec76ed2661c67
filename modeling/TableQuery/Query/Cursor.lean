import TableQuery.Remains
import TableQuery.Sql.Token
import TableQuery.Text.WhiteSpace

/-! What every rule of the grammar needs of a list of tokens: the next token that is no white
space, with the tokens after it, and the text of a run of tokens. -/

namespace TableQuery.Grammar

open Sql (Token)

def skipSpace (tokens : List Token) : List Token := tokens.dropWhile Token.isSpace

def next? (tokens : List Token) : Option (Token × List Token) :=
  match skipSpace tokens with
  | token :: rest => some (token, rest)
  | [] => none

theorem next?_suffix {tokens rest : List Token} {token : Token}
    (read : next? tokens = some (token, rest)) : token :: rest <:+ tokens := by
  unfold next? at read
  split at read
  next skip =>
    cases read
    exact skip ▸ List.dropWhile_suffix _
  next => cases read

theorem next?_remains {tokens rest : List Token} {token : Token}
    (read : next? tokens = some (token, rest)) : Remains rest tokens :=
  remains_of_cons_suffix (next?_suffix read)

@[simp] theorem skipSpace_space {token : Token} (h : token.isSpace = true) (rest : List Token) :
    skipSpace (token :: rest) = skipSpace rest := by
  simp [skipSpace, h]

@[simp] theorem next?_space {token : Token} (h : token.isSpace = true) (rest : List Token) :
    next? (token :: rest) = next? rest := by
  simp [next?, h]

theorem next?_of_not_space {token : Token} (h : token.isSpace = false) (rest : List Token) :
    next? (token :: rest) = some (token, rest) := by
  simp [next?, skipSpace, h]

def afterKeyword? (keyword : String) (tokens : List Token) : Option (List Token) :=
  match next? tokens with
  | some (token, rest) => if token.isKeyword keyword then some rest else none
  | none => none

def word? (tokens : List Token) : Option (String × List Token) :=
  match next? tokens with
  | some (.word value _, rest) => some (value, rest)
  | _ => none

theorem word?_remains {tokens rest : List Token} {value : String}
    (read : word? tokens = some (value, rest)) : Remains rest tokens := by
  unfold word? at read
  split at read
  next first =>
    cases read
    exact next?_remains first
  next => cases read

def spanText (tokens : List Token) : String :=
  String.ofList (Text.trim (tokens.flatMap (·.text.toList)))

/-- A column, alone or after its table and a period. A period that no word follows is left
where it is. -/
def column? (tokens : List Token) : Option (String × List Token) :=
  match word? tokens with
  | none => none
  | some (first, rest) =>
    match next? rest with
    | some (.symbol .period, after) =>
      match word? after with
      | some (second, after) => some (first ++ "." ++ second, after)
      | none => some (first, rest)
    | _ => some (first, rest)

theorem column?_remains {tokens rest : List Token} {column : String}
    (read : column? tokens = some (column, rest)) : Remains rest tokens := by
  unfold column? at read
  split at read
  next => cases read
  next word =>
    have first := word?_remains word
    split at read
    next period =>
      split at read
      next second =>
        cases read
        exact first.of_suffix ((word?_remains second).ends.trans (next?_remains period).ends)
      next =>
        cases read
        exact first
    next =>
      cases read
      exact first

end TableQuery.Grammar
