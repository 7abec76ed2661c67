import TableQuery.Sql.Reader
import TableQuery.Text.Alphabetic

/-! Words without quotes, and the operators and marks that are no part of one. A number sign or
an at sign begins a word, whatever comes next, unless an operator or a blank does. -/

namespace TableQuery.Sql

def isWordStart (c : Char) : Bool := Text.isAlphabetic c || c == '_'

def isWordPart (c : Char) : Bool :=
  Text.isAlphabetic c || c.isDigit || c == '@' || c == '$' || c == '#' || c == '_'

def wordFrom (first rest : List Char) : Outcome :=
  .ok (.word (String.ofList (first ++ rest.takeWhile isWordPart)) none, rest.dropWhile isWordPart)

theorem wordFrom_takesOther {c : Char} {first s rest : List Char} {token : Token}
    (read : wordFrom first s = .ok (token, rest)) : TakesOther (c :: s) token rest := by
  cases read
  exact ⟨remains_cons (List.dropWhile_suffix _), rfl⟩

def readWord : List Char → Option Outcome
  | c :: rest => if isWordStart c then some (wordFrom [c] rest) else none
  | [] => none

theorem readWord_takesOther {s rest : List Char} {token : Token}
    (read : readWord s = some (.ok (token, rest))) : TakesOther s token rest := by
  unfold readWord at read
  split at read
  · split at read
    · exact wordFrom_takesOther (Option.some.inj read)
    · cases read
  · cases read

def wordReader : Reader where
  read := readWord
  shortens read := (readWord_takesOther read).shorter

def readMarkedWord : List Char → Option Outcome
  | '#' :: c :: rest => if c ∈ ['-', '>', ' '] then none else some (wordFrom ['#', c] rest)
  | '@' :: '@' :: s =>
    match s with
    | c :: rest => if c = ' ' then none else some (wordFrom ['@', '@', c] rest)
    | [] => none
  | '@' :: c :: rest => if c ∈ ['>', '?', ' '] then none else some (wordFrom ['@', c] rest)
  | _ => none

theorem readMarkedWord_takesOther {s rest : List Char} {token : Token}
    (read : readMarkedWord s = some (.ok (token, rest))) : TakesOther s token rest := by
  unfold readMarkedWord at read
  split at read
  · split at read
    · cases read
    · exact (wordFrom_takesOther (Option.some.inj read)).cons
  · split at read
    · split at read
      · cases read
      · exact (wordFrom_takesOther (Option.some.inj read)).cons.cons
    · cases read
  · split at read
    · cases read
    · exact (wordFrom_takesOther (Option.some.inj read)).cons
  · cases read

def markedWordReader : Reader where
  read := readMarkedWord
  shortens read := (readMarkedWord_takesOther read).shorter

/-- The operators of more than one character, the longer ones first. -/
def operators : List String :=
  ["!~~*", "<=>", "!~*", "!~~", "~~*", "->>", "||/", "#>>", "==", "=>", "!=", "<>", "<=", "<<",
    "<@", ">=", ">>", "!!", "!~", "~*", "~~", "->", "//", "||", "|/", "&&", "^@", "::", ":=", "#-",
    "#>", "@>", "@?", "@@"]

def splitOperator? (s : List Char) : Option (List Char × List Char) :=
  (operators.find? (·.toList.isPrefixOf s)).map fun found =>
    (found.toList, s.drop found.toList.length)

theorem splitOperator?_eq_some {s found rest : List Char}
    (h : splitOperator? s = some (found, rest)) : s = found ++ rest ∧ found ≠ [] := by
  obtain ⟨operator, hfind, heq⟩ := Option.map_eq_some_iff.1 h
  simp only [Prod.mk.injEq] at heq
  have hprefix : operator.toList <+: s := by simpa using List.find?_some hfind
  have hmem := List.mem_of_find?_eq_some hfind
  constructor
  · rw [← heq.1, ← heq.2]
    exact (List.prefix_iff_eq_append.1 hprefix).symm
  · rw [← heq.1]
    exact (by decide : ∀ operator ∈ operators, operator.toList ≠ []) operator hmem

/-- Any character that begins nothing else is a token of its own. -/
def readMark (s : List Char) : Option Outcome :=
  match splitOperator? s with
  | some (found, rest) => some (.ok (.ofSpelling found, rest))
  | none =>
    match s with
    | c :: rest => some (.ok (.ofSpelling [c], rest))
    | [] => none

/-- The token was read at the front of the text, which has its spelling there when it is a
symbol. -/
structure Takes (s : List Char) (token : Token) (rest : List Char) : Prop
    extends Remains rest s where
  symbol : ∀ symbol, token = .symbol symbol → s = symbol.spelling.toList ++ rest

theorem TakesOther.takes {s rest : List Char} {token : Token} (takes : TakesOther s token rest) :
    Takes s token rest :=
  ⟨takes.toRemains, fun symbol same => by cases same ▸ takes.other⟩

theorem takes_ofSpelling (c : Char) (found rest : List Char) :
    Takes (c :: found ++ rest) (.ofSpelling (c :: found)) rest := by
  refine ⟨remains_cons (List.suffix_append ..), fun symbol same => ?_⟩
  unfold Token.ofSpelling at same
  split at same
  next spelled =>
    cases same
    rw [Symbol.spelling_of_ofSpelling? spelled]
  next => cases same

theorem readMark_takes {s rest : List Char} {token : Token}
    (read : readMark s = some (.ok (token, rest))) : Takes s token rest := by
  unfold readMark at read
  split at read
  next found after splits =>
    cases read
    obtain ⟨rfl, some⟩ := splitOperator?_eq_some splits
    obtain ⟨c, found, rfl⟩ := List.exists_cons_of_ne_nil some
    exact takes_ofSpelling c found _
  next =>
    split at read
    next c after _ =>
      cases read
      exact takes_ofSpelling c [] _
    next => cases read

def markReader : Reader where
  read := readMark
  shortens read := (readMark_takes read).shorter

end TableQuery.Sql
