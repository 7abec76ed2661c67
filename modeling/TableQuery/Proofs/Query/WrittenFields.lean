import TableQuery.Proofs.Query.Splitting
import TableQuery.Proofs.Query.Written

/-! Select lists as they are written. An entry is a star, a column or the call of an aggregate; its
field keeps the text between the commas, and is of the kind that the entry is written as. -/

namespace TableQuery.Written

open Grammar
open Sql (Quote Token)

inductive Function where
  | count
  | sum
  | average
  | minimum
  | maximum

namespace Function

def name : Function → String
  | count => "COUNT"
  | sum => "SUM"
  | average => "AVG"
  | minimum => "MIN"
  | maximum => "MAX"

/-- A star counts rows; the other functions need a column. -/
def aggregate? : Function → Argument → Option Aggregate
  | count, _ => some .count
  | sum, .column name => some (.sum name)
  | average, .column name => some (.average name)
  | minimum, .column name => some (.minimum name)
  | maximum, .column name => some (.maximum name)
  | _, .wildcard => none

end Function

inductive Operand where
  | star
  | column (column : Column)

namespace Operand

def tokens : Operand → List Token
  | star => [.symbol .star]
  | column written => written.tokens

def argument : Operand → Argument
  | star => .wildcard
  | column written => .column written.text

end Operand

structure Call where
  function : Function
  name : String
  quote : Option Quote
  named : upperName name = function.name
  operand : Operand
  aggregate : Aggregate
  takes : function.aggregate? operand.argument = some aggregate
  beforeOpen : Gap
  beforeOperand : Gap
  beforeClose : Gap

def Call.tokens (call : Call) : List Token :=
  .word call.name call.quote :: spaced call.beforeOpen (.symbol .openParen ::
    spaced call.beforeOperand (call.operand.tokens ++
      spaced call.beforeClose [.symbol .closeParen]))

inductive Entry where
  | star
  | column (column : Column)
  | call (call : Call)

namespace Entry

def tokens : Entry → List Token
  | star => [.symbol .star]
  | column written => written.tokens
  | call written => written.tokens

def kind : Entry → FieldKind
  | star => .wildcard
  | column written => .plain written.text
  | call written => .aggregate written.aggregate

end Entry

/-- An entry with what stands around it, up to the commas. Its text is the whole of it without white
space at the ends. -/
structure Listed where
  before : Gap
  entry : Entry
  after : Gap

namespace Listed

def tokens (listed : Listed) : List Token :=
  spaced listed.before (listed.entry.tokens ++ spaced listed.after [])

def field (listed : Listed) : Field := ⟨spanText listed.tokens, listed.entry.kind⟩

end Listed

section

variable (depth : Nat) (gap : Gap) (tokens : List Token)

@[simp] theorem filter_spaced :
    (spaced gap tokens).filter (!·.isSpace) = tokens.filter (!·.isSpace) := by
  induction gap with
  | nil => rfl
  | cons space gap ih => simp [ih]

@[simp] theorem depthWithin_spaced :
    depthWithin depth (spaced gap tokens) = depthWithin depth tokens := by
  induction gap with
  | nil => rfl
  | cons space gap ih =>
    have inside : endsEntry space.token = false := by
      cases space <;> rfl
    have same : depthAfter depth space.token = depth := by
      cases space <;> rfl
    rw [spaced_cons, depthWithin, inside, same, if_neg (by simp), ih]

end

theorem Column.filter_ofTable (table name : Name) (beforePeriod beforeName : Gap) :
    (Column.ofTable table beforePeriod beforeName name).tokens.filter (!·.isSpace) =
      [table.token, .symbol .period, name.token] := by
  simp [tokens]

theorem depthWithin_cons {depth : Nat} {token : Token} (inside : endsEntry token = false)
    (same : depthAfter depth token = depth) (rest : List Token) :
    depthWithin depth (token :: rest) = depthWithin depth rest := by
  rw [depthWithin, if_neg (by simp [inside]), same]

theorem Name.endsEntry_token (name : Name) : endsEntry name.token = false := by
  have notFrom := name.free "FROM" (by decide)
  simp [endsEntry, Name.token, notFrom]

theorem Column.depthWithin_tokens (column : Column) (depth : Nat) :
    depthWithin depth column.tokens = some depth := by
  cases column with
  | plain name =>
    rw [tokens, depthWithin_cons name.endsEntry_token rfl]
    rfl
  | ofTable table beforePeriod beforeName name =>
    rw [tokens, depthWithin_cons table.endsEntry_token rfl, depthWithin_spaced,
      depthWithin_cons rfl rfl, depthWithin_spaced, depthWithin_cons name.endsEntry_token rfl]
    rfl

theorem Operand.depthWithin_tokens (operand : Operand) (depth : Nat) :
    depthWithin depth operand.tokens = some depth := by
  cases operand with
  | star => rw [tokens, depthWithin_cons rfl rfl, depthWithin]
  | column written => exact written.depthWithin_tokens depth

theorem Function.name_ne_from (function : Function) : function.name ≠ "FROM" := by
  cases function <;> decide

theorem Call.endsEntry_name (call : Call) : endsEntry (.word call.name call.quote) = false := by
  have notFrom : (Token.word call.name call.quote).isKeyword "FROM" = false := by
    cases call.quote with
    | some quote => rfl
    | none =>
      have named := call.named
      have unlike := call.function.name_ne_from
      rw [upperName] at named
      rw [← named, Ne, ← String.toList_inj, String.toList_ofList] at unlike
      simpa [Token.isKeyword] using unlike
  simp [endsEntry, notFrom]

theorem Call.depthWithin_tokens (call : Call) : depthWithin 0 call.tokens = some 0 := by
  rw [tokens, depthWithin_cons call.endsEntry_name rfl, depthWithin_spaced, depthWithin,
    if_neg (by simp [endsEntry, Token.isKeyword]), depthWithin_spaced, depthWithin_append,
    call.operand.depthWithin_tokens, Option.bind_some, depthWithin_spaced]
  rfl

theorem Entry.depthWithin_tokens (entry : Entry) : depthWithin 0 entry.tokens = some 0 := by
  cases entry with
  | star => rfl
  | column written => exact written.depthWithin_tokens 0
  | call written => exact written.depthWithin_tokens

theorem Operand.argument?_tokens (operand : Operand) :
    argument? (operand.tokens.filter (!·.isSpace)) = some operand.argument := by
  cases operand with
  | star => rfl
  | column written =>
    cases written with
    | plain name => rfl
    | ofTable table beforePeriod beforeName name =>
      rw [tokens, argument, Column.filter_ofTable]
      rfl

theorem callKind_of_aggregate? {function : Function} {name : String} {arguments : List Token}
    {argument : Argument} {aggregate : Aggregate} (named : upperName name = function.name)
    (read : argument? arguments = some argument)
    (takes : function.aggregate? argument = some aggregate) (text : String) :
    callKind name arguments text = .ok (.aggregate aggregate) := by
  cases function <;> cases argument <;> cases takes <;>
    simp [callKind, named, read, Function.name, columnAggregate?]

theorem Call.fieldKind_tokens (call : Call) (text : String) :
    fieldKind (call.tokens.filter (!·.isSpace)) text = .ok (.aggregate call.aggregate) := by
  have solid : call.tokens.filter (!·.isSpace) = .word call.name call.quote :: .symbol .openParen ::
      (call.operand.tokens.filter (!·.isSpace) ++ [.symbol .closeParen]) := by
    simp [tokens]
  rw [solid, fieldKind, List.getLast?_concat, if_pos rfl, List.dropLast_concat]
  exact callKind_of_aggregate? call.named call.operand.argument?_tokens call.takes text

theorem Entry.fieldKind_tokens (entry : Entry) (text : String) :
    fieldKind (entry.tokens.filter (!·.isSpace)) text = .ok entry.kind := by
  cases entry with
  | star => rfl
  | column written =>
    cases written with
    | plain name => rfl
    | ofTable table beforePeriod beforeName name =>
      rw [tokens, Column.filter_ofTable]
      rfl
  | call written => exact written.fieldKind_tokens text

namespace Listed

theorem entryField_tokens (listed : Listed) : entryField listed.tokens = .ok listed.field := by
  have solid : listed.tokens.filter (!·.isSpace) = listed.entry.tokens.filter (!·.isSpace) := by
    simp [tokens]
  rw [entryField, solid, listed.entry.fieldKind_tokens]
  rfl

theorem splitEntry_append (listed : Listed) {separator : Token} (ends : endsEntry separator = true)
    (rest : List Token) :
    splitEntry 0 (listed.tokens ++ separator :: rest) = (listed.tokens, separator :: rest) := by
  refine splitEntry_eq_iff.2 ⟨rfl, ?_, ends⟩
  rw [tokens, depthWithin_spaced, depthWithin_append, listed.entry.depthWithin_tokens,
    Option.bind_some, depthWithin_spaced, depthWithin]

end Listed

abbrev Fields : Type := Chain Listed Unit

namespace Fields

def write : Fields → List Token → List Token :=
  Chain.write (fun listed after => listed.tokens ++ after) fun _ after => .symbol .comma :: after

def read (fields : Fields) : List Field := fields.items.map Listed.field

theorem selectList_write (fields : Fields) (fromWord : Keyword "FROM") (after : List Token) :
    selectList (fields.write (fromWord.token :: after)) = .ok (fields.read, after) := by
  induction fields with
  | last listed =>
    exact selectList_eq_ok_iff.2 ⟨_, fromWord.token, after, listed.field,
      listed.splitEntry_append (by simp [endsEntry]) after, listed.entryField_tokens,
      .inr ⟨nofun, rfl, rfl⟩⟩
  | more listed _ rest ih =>
    exact selectList_eq_ok_iff.2 ⟨_, .symbol .comma, _, listed.field,
      listed.splitEntry_append rfl _, listed.entryField_tokens, .inl ⟨rfl, _, ih, rfl⟩⟩

end Fields

end TableQuery.Written
