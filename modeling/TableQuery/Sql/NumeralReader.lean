import TableQuery.Sql.Reader

/-! Numbers: digits with at most one point, an exponent when it is complete, and a mark for long
ones. A zero and the letter `x` begin a hexadecimal string instead. -/

namespace TableQuery.Sql

/-- An exponent with a digit in it, and the rest; otherwise nothing is taken. -/
def splitExponent : List Char → List Char × List Char
  | e :: sign :: rest =>
    if e = 'e' ∨ e = 'E' then
      if sign.isDigit then
        (e :: sign :: rest.takeWhile Char.isDigit, rest.dropWhile Char.isDigit)
      else if (sign = '+' ∨ sign = '-') ∧ (rest.head?.any Char.isDigit) then
        (e :: sign :: rest.takeWhile Char.isDigit, rest.dropWhile Char.isDigit)
      else ([], e :: sign :: rest)
    else ([], e :: sign :: rest)
  | s => ([], s)

def splitPoint : List Char → List Char × List Char
  | '.' :: rest => ('.' :: rest.takeWhile Char.isDigit, rest.dropWhile Char.isDigit)
  | s => ([], s)

def splitLong : List Char → List Char × List Char
  | 'L' :: rest => (['L'], rest)
  | s => ([], s)

theorem splitPoint_suffix (s : List Char) : (splitPoint s).2 <:+ s := by
  unfold splitPoint
  split
  · exact (remains_cons (List.dropWhile_suffix _)).ends
  · exact List.suffix_rfl

theorem splitExponent_suffix (s : List Char) : (splitExponent s).2 <:+ s := by
  unfold splitExponent
  split
  next e sign rest =>
    have digits : Remains (rest.dropWhile Char.isDigit) (e :: sign :: rest) :=
      remains_cons_cons (List.dropWhile_suffix _)
    split
    · split
      · exact digits.ends
      · split
        · exact digits.ends
        · exact List.suffix_rfl
    · exact List.suffix_rfl
  next => exact List.suffix_rfl

theorem splitLong_suffix (s : List Char) : (splitLong s).2 <:+ s := by
  unfold splitLong
  split
  · exact List.suffix_cons _ _
  · exact List.suffix_rfl

def numberToken (whole s : List Char) : Token × List Char :=
  let (fraction, s) := splitPoint s
  let (power, s) := splitExponent s
  let (long, s) := splitLong s
  (.number (String.ofList (whole ++ fraction ++ power ++ long)), s)

theorem numberToken_suffix (whole s : List Char) :
    (numberToken whole s).2 <:+ (splitPoint s).2 :=
  (splitLong_suffix _).trans (splitExponent_suffix _)

def readNumeral : List Char → Option Outcome
  | '0' :: 'x' :: rest =>
    some (.ok (.string .hex (String.ofList (rest.takeWhile Text.isHexDigit)),
      rest.dropWhile Text.isHexDigit))
  | '.' :: s => if s.head?.any Char.isDigit then some (.ok (numberToken [] ('.' :: s))) else none
  | c :: s =>
    if c.isDigit then
      some (.ok (numberToken (c :: s.takeWhile Char.isDigit) (s.dropWhile Char.isDigit)))
    else none
  | [] => none

theorem readNumeral_takesOther {s rest : List Char} {token : Token}
    (read : readNumeral s = some (.ok (token, rest))) : TakesOther s token rest := by
  unfold readNumeral at read
  split at read
  next =>
    cases read
    exact ⟨remains_cons_cons (List.dropWhile_suffix _), rfl⟩
  next s =>
    split at read
    · cases read
      have ends := (numberToken_suffix [] ('.' :: s)).trans (List.dropWhile_suffix _)
      exact ⟨remains_cons ends, rfl⟩
    · cases read
  next c s _ _ =>
    split at read
    · cases read
      have digits : s.dropWhile Char.isDigit <:+ s := List.dropWhile_suffix _
      have ends := (numberToken_suffix (c :: s.takeWhile Char.isDigit) _).trans
        ((splitPoint_suffix _).trans digits)
      exact ⟨remains_cons ends, rfl⟩
    · cases read
  next => cases read

def numeralReader : Reader where
  read := readNumeral
  shortens read := (readNumeral_takesOther read).shorter

end TableQuery.Sql
