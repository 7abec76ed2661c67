import TableQuery.Remains
import TableQuery.Sql.Fault
import TableQuery.Sql.Token

/-! Readers of single tokens. A reader declines a text that does not begin with what it reads;
a text that does gives a token and a shorter rest, or a fault. -/

namespace TableQuery.Sql

abbrev Outcome := Except Fault (Token × List Char)

structure Reader where
  read : List Char → Option Outcome
  shortens : ∀ {s : List Char} {token : Token} {rest : List Char},
    read s = some (.ok (token, rest)) → rest.length < s.length

def Outcome.ofValue (token : String → Token) (fault : Fault) :
    Option (List Char × List Char) → Outcome
  | some (value, rest) => .ok (token (String.ofList value), rest)
  | none => .error fault

def prepend (c : Char) (read : List Char × List Char) : List Char × List Char :=
  (c :: read.1, read.2)

theorem map_prepend_eq_some {c : Char} {read : Option (List Char × List Char)}
    {value rest : List Char} (h : read.map (prepend c) = some (value, rest)) :
    ∃ tail, read = some (tail, rest) ∧ value = c :: tail := by
  obtain ⟨⟨tail, after⟩, found, same⟩ := Option.map_eq_some_iff.1 h
  cases same
  exact ⟨tail, found, rfl⟩

/-- A token that is no symbol was read at the front of the text. -/
structure TakesOther (s : List Char) (token : Token) (rest : List Char) : Prop
    extends Remains rest s where
  other : token.isSymbol = false

theorem TakesOther.cons {c : Char} {s rest : List Char} {token : Token}
    (takes : TakesOther s token rest) : TakesOther (c :: s) token rest :=
  ⟨takes.toRemains.cons, takes.other⟩

theorem takesOther_of_ofValue {make : String → Token} {fault : Fault}
    {read : Option (List Char × List Char)} {s rest : List Char} {token : Token}
    (found : Outcome.ofValue make fault read = .ok (token, rest))
    (remains : ∀ value, read = some (value, rest) → Remains rest s)
    (other : ∀ value, (make value).isSymbol = false) : TakesOther s token rest := by
  unfold Outcome.ofValue at found
  split at found
  next value rest =>
    cases found
    exact ⟨remains value rfl, other _⟩
  next => cases found

end TableQuery.Sql
