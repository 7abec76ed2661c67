import TableQuery.Error
import TableQuery.Query.Cursor
import TableQuery.Query.Field

/-! The select list: entries between commas outside parentheses, up to the keyword FROM. Each
entry is understood before the next one is looked for. -/

namespace TableQuery.Grammar

open Sql (Token)

/-- A closing parenthesis without an opening one leaves the depth at zero. -/
def depthAfter (depth : Nat) : Token → Nat
  | .symbol .openParen => depth + 1
  | .symbol .closeParen => depth - 1
  | _ => depth

def endsEntry (token : Token) : Bool := token.isKeyword "FROM" || token == .symbol .comma

def splitEntry (depth : Nat) : List Token → List Token × List Token
  | [] => ([], [])
  | token :: rest =>
    if depth = 0 ∧ endsEntry token then ([], token :: rest)
    else
      let (entry, after) := splitEntry (depthAfter depth token) rest
      (token :: entry, after)

theorem splitEntry_append (depth : Nat) (tokens : List Token) :
    (splitEntry depth tokens).1 ++ (splitEntry depth tokens).2 = tokens := by
  induction tokens generalizing depth with
  | nil => rfl
  | cons token rest ih =>
    rw [splitEntry]
    split
    · rfl
    · simp only [List.cons_append, ih]

theorem splitEntry_length (depth : Nat) (tokens : List Token) :
    (splitEntry depth tokens).2.length ≤ tokens.length := by
  have := congrArg List.length (splitEntry_append depth tokens)
  rw [List.length_append] at this
  omega

inductive Argument where
  | wildcard
  | column (name : String)
  deriving DecidableEq

def argument? : List Token → Option Argument
  | [.symbol .star] => some .wildcard
  | [.word column _] => some (.column column)
  | [.word table _, .symbol .period, .word column _] => some (.column (table ++ "." ++ column))
  | _ => none

def upperName (name : String) : String := String.ofList (Text.upperCase name.toList)

def columnAggregate? (name : String) : Option (String → Aggregate) :=
  match name with
  | "SUM" => some .sum
  | "AVG" => some .average
  | "MIN" => some .minimum
  | "MAX" => some .maximum
  | _ => none

/-- A call of a function that is no aggregate stands for a column of that text. COUNT ignores
its argument; the other aggregates need a column. -/
def callKind (function : String) (arguments : List Token) (text : String) :
    Except ParseError FieldKind :=
  let name := upperName function
  if name = "COUNT" then
    match argument? arguments with
    | some _ => .ok (.aggregate .count)
    | none => .error (.invalidArgument text)
  else match columnAggregate? name with
    | some aggregate =>
      match argument? arguments with
      | some (.column column) => .ok (.aggregate (aggregate column))
      | some .wildcard => .error (.columnRequired name text)
      | none => .error (.invalidArgument text)
    | none => .ok (.plain text)

def fieldKind (tokens : List Token) (text : String) : Except ParseError FieldKind :=
  match tokens with
  | [] => .error .emptyField
  | [.symbol .star] => .ok .wildcard
  | [.word column _] => .ok (.plain column)
  | [.word table _, .symbol .period, .word column _] => .ok (.plain (table ++ "." ++ column))
  | .word function _ :: .symbol .openParen :: inner =>
    if inner.getLast? = some (.symbol .closeParen) then callKind function inner.dropLast text
    else .error (.invalidField text)
  | _ => .error (.invalidField text)

def entryField (entry : List Token) : Except ParseError Field :=
  let text := spanText entry
  (fieldKind (entry.filter (!·.isSpace)) text).map fun kind => ⟨text, kind⟩

def selectList (tokens : List Token) : Except ParseError (List Field × List Token) :=
  match _h : splitEntry 0 tokens with
  | (_, []) => .error .fromExpected
  | (entry, separator :: rest) =>
    match entryField entry with
    | .error error => .error error
    | .ok field =>
      if separator = .symbol .comma then
        match selectList rest with
        | .ok (fields, after) => .ok (field :: fields, after)
        | .error error => .error error
      else .ok ([field], rest)
termination_by tokens.length
decreasing_by
  have := splitEntry_length 0 tokens
  rw [_h, List.length_cons] at this
  omega

theorem selectList_of_open {tokens entry : List Token} (h : splitEntry 0 tokens = (entry, [])) :
    selectList tokens = .error .fromExpected := by
  rw [selectList]
  split <;> simp_all

end TableQuery.Grammar
