import TableQuery.Sql.Reader
import TableQuery.Text.Alphabetic
import TableQuery.Text.Numeric

/-! What a dollar sign begins: a string between two doubled dollar signs, a string between two
equal tags, or a placeholder. -/

namespace TableQuery.Sql

def readToDollars : List Char → Option (List Char × List Char)
  | c :: d :: rest =>
    if c = '$' ∧ d = '$' then some ([], rest)
    else (readToDollars (d :: rest)).map (prepend c)
  | _ => none

theorem readToDollars_remains {s value rest : List Char}
    (read : readToDollars s = some (value, rest)) : Remains rest s := by
  fun_induction readToDollars s generalizing value with
  | case1 =>
    cases read
    exact remains_cons_cons List.suffix_rfl
  | case2 _ _ _ _ ih =>
    obtain ⟨tail, readTail, -⟩ := map_prepend_eq_some read
    exact (ih readTail).cons
  | case3 => cases read

/-- Whether a tag and a dollar sign follow. Where they do not, the characters compared so far
are passed over, the one that differs among them. -/
inductive TagMatch where
  | closed (rest : List Char)
  | differs (passed rest : List Char)
  | ended

def TagMatch.pass (c : Char) : TagMatch → TagMatch
  | differs passed rest => differs (c :: passed) rest
  | other => other

def matchTag : List Char → List Char → TagMatch
  | [], '$' :: rest => .closed rest
  | [], s => .differs [] s
  | _ :: _, [] => .ended
  | t :: tag, c :: rest => if c = t then (matchTag tag rest).pass c else .differs [c] rest

theorem TagMatch.pass_eq_differs {c : Char} {found : TagMatch} {passed rest : List Char}
    (h : found.pass c = .differs passed rest) : ∃ tail, found = .differs tail rest := by
  cases found <;> simp_all [TagMatch.pass]

theorem TagMatch.pass_eq_closed {c : Char} {found : TagMatch} {rest : List Char}
    (h : found.pass c = .closed rest) : found = .closed rest := by
  cases found <;> simp_all [TagMatch.pass]

theorem suffix_of_differs {tag s passed rest : List Char}
    (differs : matchTag tag s = .differs passed rest) : rest <:+ s := by
  fun_induction matchTag tag s generalizing passed with
  | case1 => cases differs
  | case2 =>
    cases differs
    exact List.suffix_rfl
  | case3 => cases differs
  | case4 _ _ _ ih =>
    obtain ⟨tail, later⟩ := TagMatch.pass_eq_differs differs
    exact (remains_cons (ih later)).ends
  | case5 =>
    cases differs
    exact List.suffix_cons _ _

theorem remains_of_closed {tag s rest : List Char} (closed : matchTag tag s = .closed rest) :
    Remains rest s := by
  fun_induction matchTag tag s with
  | case1 =>
    cases closed
    exact remains_cons List.suffix_rfl
  | case2 => cases closed
  | case3 => cases closed
  | case4 _ _ _ ih => exact (ih (TagMatch.pass_eq_closed closed)).cons
  | case5 => cases closed

def readTagged (tag s : List Char) : Option (List Char × List Char) :=
  match s with
  | [] => none
  | c :: rest =>
    if c = '$' then
      match _h : matchTag tag rest with
      | .closed after => some ([], after)
      | .differs passed after =>
        (readTagged tag after).map fun (value, tail) => (c :: passed ++ value, tail)
      | .ended => none
    else (readTagged tag rest).map (prepend c)
termination_by s.length
decreasing_by
  · exact (remains_cons (suffix_of_differs _h)).shorter
  · simp

theorem readTagged_remains {tag s value rest : List Char}
    (read : readTagged tag s = some (value, rest)) : Remains rest s := by
  fun_induction readTagged tag s generalizing value with
  | case1 => cases read
  | case2 _ _ closed =>
    cases read
    exact (remains_of_closed closed).cons
  | case3 _ _ _ differs ih =>
    obtain ⟨⟨more, after⟩, readMore, same⟩ := Option.map_eq_some_iff.1 read
    cases same
    exact remains_cons ((ih readMore).ends.trans (suffix_of_differs differs))
  | case4 => cases read
  | case5 _ _ _ ih =>
    obtain ⟨tail, readTail, -⟩ := map_prepend_eq_some read
    exact (ih readTail).cons

def isTagPart (c : Char) : Bool := Text.isAlphabetic c || Text.isNumeric c || c == '_'

def readDollar : List Char → Option Outcome
  | '$' :: '$' :: rest =>
    some (.ofValue (.string (.dollar "")) ⟨.unclosedDollarString, []⟩ (readToDollars rest))
  | '$' :: s =>
    let tag := s.takeWhile isTagPart
    match s.dropWhile isTagPart with
    | '$' :: rest =>
      some (.ofValue (.string (.dollar (String.ofList tag))) ⟨.unclosedTaggedString, []⟩
        (readTagged tag rest))
    | rest => some (.ok (.placeholder (String.ofList ('$' :: tag)), rest))
  | _ => none

theorem readDollar_takesOther {s rest : List Char} {token : Token}
    (read : readDollar s = some (.ok (token, rest))) : TakesOther s token rest := by
  unfold readDollar at read
  split at read
  · exact takesOther_of_ofValue (Option.some.inj read)
      (fun _ body => (readToDollars_remains body).cons.cons) fun _ => rfl
  next s _ =>
    have ends : s.dropWhile isTagPart <:+ s := List.dropWhile_suffix _
    dsimp only at read
    split at read
    next after tagged =>
      rw [tagged] at ends
      exact takesOther_of_ofValue (Option.some.inj read)
        (fun _ body => remains_cons ((readTagged_remains body).cons.ends.trans ends)) fun _ => rfl
    next =>
      cases read
      exact ⟨remains_cons ends, rfl⟩
  · cases read

def dollarReader : Reader where
  read := readDollar
  shortens read := (readDollar_takesOther read).shorter

def readQuestion : List Char → Option Outcome
  | '?' :: rest =>
    some (.ok (.placeholder (String.ofList ('?' :: rest.takeWhile Text.isNumeric)),
      rest.dropWhile Text.isNumeric))
  | _ => none

theorem readQuestion_takesOther {s rest : List Char} {token : Token}
    (read : readQuestion s = some (.ok (token, rest))) : TakesOther s token rest := by
  unfold readQuestion at read
  split at read
  · cases read
    exact ⟨remains_cons (List.dropWhile_suffix _), rfl⟩
  · cases read

def questionReader : Reader where
  read := readQuestion
  shortens read := (readQuestion_takesOther read).shorter

end TableQuery.Sql
