import TableQuery.Query.SelectList

/-! The pieces that a query is written in, as tokens: keywords, names and columns, with white space or
comments in front of any token. A piece is written in front of the tokens that come after it, and the
rule of the grammar for the piece takes it off again. -/

namespace TableQuery.Written

open Grammar
open Sql (Blank Comment Quote Token)

/-- What may stand between two tokens and is none of the grammar's business. -/
inductive Space where
  | blank (blank : Blank)
  | comment (comment : Comment)

def Space.token : Space → Token
  | blank b => .blank b
  | comment c => .comment c

@[simp] theorem Space.isSpace_token (space : Space) : space.token.isSpace = true := by
  cases space <;> rfl

abbrev Gap : Type := List Space

def spaced (gap : Gap) (tokens : List Token) : List Token := gap.map Space.token ++ tokens

@[simp] theorem spaced_nil (tokens : List Token) : spaced [] tokens = tokens := rfl

@[simp] theorem spaced_cons (space : Space) (gap : Gap) (tokens : List Token) :
    spaced (space :: gap) tokens = space.token :: spaced gap tokens := rfl

theorem spaced_append (gap : Gap) (tokens rest : List Token) :
    spaced gap tokens ++ rest = spaced gap (tokens ++ rest) := by
  simp [spaced]

@[simp] theorem skipSpace_spaced (gap : Gap) (tokens : List Token) :
    skipSpace (spaced gap tokens) = skipSpace tokens := by
  induction gap with
  | nil => rfl
  | cons space gap ih => rw [spaced_cons, skipSpace_space space.isSpace_token, ih]

@[simp] theorem next?_spaced (gap : Gap) (tokens : List Token) :
    next? (spaced gap tokens) = next? tokens := by
  simp [next?]

@[simp] theorem afterKeyword?_spaced (keyword : String) (gap : Gap) (tokens : List Token) :
    afterKeyword? keyword (spaced gap tokens) = afterKeyword? keyword tokens := by
  simp [afterKeyword?]

@[simp] theorem word?_spaced (gap : Gap) (tokens : List Token) :
    word? (spaced gap tokens) = word? tokens := by
  simp [word?]

@[simp] theorem column?_spaced (gap : Gap) (tokens : List Token) :
    column? (spaced gap tokens) = column? tokens := by
  simp [column?]

theorem isWhite_blank (blank : Blank) : ∀ c ∈ blank.text.toList, Text.isWhite c = true := by
  have all : blank.text.toList.all Text.isWhite = true := by
    cases blank <;> rfl
  exact List.all_eq_true.1 all

/-- Blanks at the ends of a run of tokens are no part of its text. A comment is. -/
theorem spanText_of_blanks (blanks blanksAfter : List Blank) (tokens : List Token) :
    spanText (spaced (blanks.map .blank) (tokens ++ spaced (blanksAfter.map .blank) [])) =
      spanText tokens := by
  have white (blanks : List Blank) :
      ∀ c ∈ ((blanks.map Space.blank).map Space.token).flatMap (·.text.toList),
        Text.isWhite c = true := by
    intro c member
    simp only [List.mem_flatMap, List.mem_map] at member
    obtain ⟨_, ⟨_, ⟨blank, -, rfl⟩, rfl⟩, inBlank⟩ := member
    exact isWhite_blank blank c inBlank
  rw [spanText, spanText, spaced, spaced, List.append_nil, ← List.append_assoc, List.flatMap_append,
    List.flatMap_append, Text.trim_append_of_white _ (white blanks) (white blanksAfter)]

structure Keyword (spelling : String) where
  value : String
  spelled : Text.upperCase value.toList = spelling.toList

namespace Keyword

variable {spelling : String}

def token (keyword : Keyword spelling) : Token := .word keyword.value none

theorem upperName_value (keyword : Keyword spelling) : upperName keyword.value = spelling := by
  rw [upperName, keyword.spelled, String.ofList_toList]

@[simp] theorem next?_cons (keyword : Keyword spelling) (rest : List Token) :
    next? (keyword.token :: rest) = some (keyword.token, rest) :=
  next?_of_not_space rfl rest

@[simp] theorem isKeyword_value (keyword : Keyword spelling) (other : String) :
    (Token.word keyword.value none).isKeyword other = (spelling == other) := by
  rw [Bool.eq_iff_iff]
  simp [Token.isKeyword, keyword.spelled, String.toList_inj]

@[simp] theorem isKeyword_token (keyword : Keyword spelling) (other : String) :
    keyword.token.isKeyword other = (spelling == other) :=
  keyword.isKeyword_value other

@[simp] theorem afterKeyword?_cons (keyword : Keyword spelling) (other : String)
    (rest : List Token) :
    afterKeyword? other (keyword.token :: rest) = if spelling = other then some rest else none := by
  simp [afterKeyword?]

end Keyword

inductive Phrase : List String → Type where
  | done : Phrase []
  | word {spelling : String} {more : List String} (gap : Gap) (keyword : Keyword spelling)
      (rest : Phrase more) : Phrase (spelling :: more)

namespace Phrase

def write : {spellings : List String} → Phrase spellings → List Token → List Token
  | _, done, after => after
  | _, word gap keyword rest, after => spaced gap (keyword.token :: rest.write after)

variable {spelling : String} {more : List String}

def head : Phrase (spelling :: more) → Keyword spelling
  | word _ keyword _ => keyword

def tail : Phrase (spelling :: more) → Phrase more
  | word _ _ rest => rest

@[simp] theorem write_nil (phrase : Phrase []) (after : List Token) : phrase.write after = after := by
  cases phrase
  rfl

@[simp] theorem next?_write (phrase : Phrase (spelling :: more)) (after : List Token) :
    next? (phrase.write after) = some (phrase.head.token, phrase.tail.write after) := by
  cases phrase with
  | word gap keyword rest =>
    rw [write, next?_spaced, keyword.next?_cons]
    rfl

@[simp] theorem afterKeyword?_write (phrase : Phrase (spelling :: more)) (other : String)
    (after : List Token) :
    afterKeyword? other (phrase.write after) =
      if spelling = other then some (phrase.tail.write after) else none := by
  simp [afterKeyword?]

end Phrase

/-- One item or more, with something between each two. -/
inductive Chain (α σ : Type) where
  | last (item : α)
  | more (item : α) (separator : σ) (rest : Chain α σ)

namespace Chain

variable {α σ : Type}

def items : Chain α σ → List α
  | last item => [item]
  | more item _ rest => item :: rest.items

def separators : Chain α σ → List σ
  | last _ => []
  | more _ separator rest => separator :: rest.separators

def write (item : α → List Token → List Token) (separator : σ → List Token → List Token) :
    Chain α σ → List Token → List Token
  | last only, after => item only after
  | more first between rest, after =>
    item first (separator between (rest.write item separator after))

end Chain

def keywords : List String :=
  ["SELECT", "FROM", "INNER", "LEFT", "RIGHT", "OUTER", "JOIN", "ON", "WHERE", "AND", "OR", "GROUP",
    "BY"]

/-- A word in quotes, or one that is no keyword. -/
structure Name where
  value : String
  quote : Option Quote
  free : ∀ keyword ∈ keywords, (Token.word value quote).isKeyword keyword = false

def Name.token (name : Name) : Token := .word name.value name.quote

@[simp] theorem isSpace_symbol (symbol : Sql.Symbol) : (Token.symbol symbol).isSpace = false := rfl

@[simp] theorem isSpace_word (value : String) (quote : Option Quote) :
    (Token.word value quote).isSpace = false := rfl

@[simp] theorem next?_symbol (symbol : Sql.Symbol) (rest : List Token) :
    next? (.symbol symbol :: rest) = some (.symbol symbol, rest) :=
  next?_of_not_space rfl rest

@[simp] theorem Name.isSpace_token (name : Name) : name.token.isSpace = false := rfl

@[simp] theorem Name.word?_token (name : Name) (rest : List Token) :
    word? (name.token :: rest) = some (name.value, rest) := by
  rw [word?, next?_of_not_space name.isSpace_token]
  rfl

inductive Column where
  | plain (name : Name)
  | ofTable (table : Name) (beforePeriod beforeName : Gap) (name : Name)

namespace Column

def text : Column → String
  | plain name => name.value
  | ofTable table _ _ name => table.value ++ "." ++ name.value

def tokens : Column → List Token
  | plain name => [name.token]
  | ofTable table beforePeriod beforeName name =>
    table.token :: spaced beforePeriod (.symbol .period :: spaced beforeName [name.token])

theorem column?_ofTable (table name : Name) (beforePeriod beforeName : Gap) (rest : List Token) :
    column? ((ofTable table beforePeriod beforeName name).tokens ++ rest) =
      some (table.value ++ "." ++ name.value, rest) := by
  simp [tokens, spaced_append, column?]

theorem column?_tokens (column : Column) {rest : List Token}
    (ends : ∀ after, next? rest ≠ some (.symbol .period, after)) :
    column? (column.tokens ++ rest) = some (column.text, rest) := by
  cases column with
  | plain name =>
    rw [tokens, List.singleton_append, column?, name.word?_token]
    dsimp only
    split
    next after period => exact absurd period (ends after)
    next => rfl
  | ofTable table beforePeriod beforeName name => exact column?_ofTable ..

end Column

end TableQuery.Written
