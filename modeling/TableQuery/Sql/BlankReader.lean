import TableQuery.Sql.Reader
import TableQuery.Text.WhiteSpace

/-! White space and comments. A block comment counts its depth: a slash before a star opens one
more and a star before a slash closes one, whatever else these characters take part in. -/

namespace TableQuery.Sql

def readBlank : List Char → Option Outcome
  | '\t' :: rest => some (.ok (.blank .tab, rest))
  | '\n' :: rest => some (.ok (.blank .newline, rest))
  | '\r' :: '\n' :: rest => some (.ok (.blank .newline, rest))
  | '\r' :: rest => some (.ok (.blank .newline, rest))
  | c :: rest => if Text.isWhite c then some (.ok (.blank .space, rest)) else none
  | [] => none

theorem readBlank_takesOther {s rest : List Char} {token : Token}
    (read : readBlank s = some (.ok (token, rest))) : TakesOther s token rest := by
  unfold readBlank at read
  split at read
  case h_3 =>
    cases read
    exact ⟨remains_cons_cons List.suffix_rfl, rfl⟩
  case h_5 =>
    split at read
    · cases read
      exact ⟨remains_cons List.suffix_rfl, rfl⟩
    · cases read
  case h_6 => cases read
  all_goals
    cases read
    exact ⟨remains_cons List.suffix_rfl, rfl⟩

def blankReader : Reader where
  read := readBlank
  shortens read := (readBlank_takesOther read).shorter

/-- The body of a comment nested `depth` deep, with the star that closes it, and the rest. -/
def readBlock (depth : Nat) (last : Char) : List Char → Option (List Char × List Char)
  | [] => none
  | c :: rest =>
    if last = '/' ∧ c = '*' then (readBlock (depth + 1) c rest).map (prepend c)
    else if last = '*' ∧ c = '/' then
      if depth = 0 then some ([], rest) else (readBlock (depth - 1) c rest).map (prepend c)
    else (readBlock depth c rest).map (prepend c)

theorem readBlock_remains {depth : Nat} {last : Char} {s body rest : List Char}
    (read : readBlock depth last s = some (body, rest)) : Remains rest s := by
  induction s generalizing depth last body with
  | nil => cases read
  | cons c s ih =>
    have later {depth : Nat} {last : Char}
        (read : (readBlock depth last s).map (prepend c) = some (body, rest)) :
        Remains rest (c :: s) := by
      obtain ⟨tail, readTail, -⟩ := map_prepend_eq_some read
      exact (ih readTail).cons
    rw [readBlock] at read
    split at read
    · exact later read
    · split at read
      · split at read
        · cases read
          exact remains_cons List.suffix_rfl
        · exact later read
      · exact later read

def readComment : List Char → Option Outcome
  | '-' :: '-' :: s =>
    match s.dropWhile (· != '\n') with
    | c :: rest =>
      some (.ok (.comment (.line (String.ofList (s.takeWhile (· != '\n') ++ [c]))), rest))
    | [] => some (.ok (.comment (.line (String.ofList s)), []))
  | '/' :: '*' :: s =>
    some (.ofValue (fun body => .comment (.block body)) ⟨.unclosedComment, []⟩
      ((readBlock 0 ' ' s).map fun (body, rest) => (body.dropLast, rest)))
  | _ => none

theorem readComment_takesOther {s rest : List Char} {token : Token}
    (read : readComment s = some (.ok (token, rest))) : TakesOther s token rest := by
  unfold readComment at read
  split at read
  next s =>
    have ends : s.dropWhile (· != '\n') <:+ s := List.dropWhile_suffix _
    split at read
    next c after line =>
      cases read
      rw [line] at ends
      exact ⟨(remains_of_cons_suffix ends).cons.cons, rfl⟩
    next =>
      cases read
      exact ⟨remains_cons_cons List.nil_suffix, rfl⟩
  next s =>
    refine takesOther_of_ofValue (Option.some.inj read) (fun value body => ?_) fun _ => rfl
    obtain ⟨⟨_, _⟩, block, same⟩ := Option.map_eq_some_iff.1 body
    cases same
    exact (readBlock_remains block).cons.cons
  next => cases read

def commentReader : Reader where
  read := readComment
  shortens read := (readComment_takesOther read).shorter

end TableQuery.Sql
