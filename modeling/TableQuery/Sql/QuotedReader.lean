import TableQuery.Sql.Reader

/-! Words and strings between quotes. A quote inside is written twice; three quotes in a row
end a raw string that began with three; some forms also take a backslash as an escape. -/

namespace TableQuery.Sql

def unescape (c : Char) : Char :=
  match c with
  | '0' => '\x00'
  | 'a' => '\x07'
  | 'b' => '\x08'
  | 'f' => '\x0c'
  | 'n' => '\n'
  | 'r' => '\r'
  | 't' => '\t'
  | 'Z' => '\x1a'
  | c => c

def readQuoted (quote : Char) (escapes : Bool) : List Char → Option (List Char × List Char)
  | [] => none
  | [c] => if c = quote then some ([], []) else none
  | c :: d :: rest =>
    if c = quote then
      if d = quote then (readQuoted quote escapes rest).map (prepend quote)
      else some ([], d :: rest)
    else if c = '\\' ∧ escapes then (readQuoted quote escapes rest).map (prepend (unescape d))
    else (readQuoted quote escapes (d :: rest)).map (prepend c)

theorem readQuoted_remains {quote : Char} {escapes : Bool} {s value rest : List Char}
    (read : readQuoted quote escapes s = some (value, rest)) : Remains rest s := by
  fun_induction readQuoted quote escapes s generalizing value with
  | case1 => cases read
  | case2 =>
    cases read
    exact remains_cons List.suffix_rfl
  | case3 => cases read
  | case4 _ ih =>
    obtain ⟨tail, readTail, -⟩ := map_prepend_eq_some read
    exact (ih readTail).cons.cons
  | case5 =>
    cases read
    exact remains_cons List.suffix_rfl
  | case6 _ _ _ _ _ ih =>
    obtain ⟨tail, readTail, -⟩ := map_prepend_eq_some read
    exact (ih readTail).cons.cons
  | case7 _ _ _ _ _ ih =>
    obtain ⟨tail, readTail, -⟩ := map_prepend_eq_some read
    exact (ih readTail).cons

def readTripled (quote : Char) : List Char → Option (List Char × List Char)
  | a :: b :: c :: rest =>
    if a = quote ∧ b = quote ∧ c = quote then some ([], rest)
    else (readTripled quote (b :: c :: rest)).map (prepend a)
  | _ => none

theorem readTripled_remains {quote : Char} {s value rest : List Char}
    (read : readTripled quote s = some (value, rest)) : Remains rest s := by
  fun_induction readTripled quote s generalizing value with
  | case1 =>
    cases read
    exact (remains_cons_cons List.suffix_rfl).cons
  | case2 _ _ _ _ _ ih =>
    obtain ⟨tail, readTail, -⟩ := map_prepend_eq_some read
    exact (ih readTail).cons
  | case3 => cases read

def readQuotedWord (quote : Quote) (s : List Char) : Option Outcome :=
  match s with
  | c :: rest =>
    if c = quote.mark then
      some (.ofValue (fun value => .word value (some quote)) ⟨.unclosedWord quote.mark, s⟩
        (readQuoted quote.mark false rest))
    else none
  | [] => none

theorem readQuotedWord_takesOther {quote : Quote} {s rest : List Char} {token : Token}
    (read : readQuotedWord quote s = some (.ok (token, rest))) : TakesOther s token rest := by
  unfold readQuotedWord at read
  split at read
  · split at read
    · exact takesOther_of_ofValue (Option.some.inj read)
        (fun _ body => (readQuoted_remains body).cons) fun _ => rfl
    · cases read
  · cases read

def quotedWordReader (quote : Quote) : Reader where
  read := readQuotedWord quote
  shortens read := (readQuotedWord_takesOther read).shorter

def lettered? (letter quote : Char) : Option (StringForm × Bool) :=
  match quote, letter with
  | '\'', 'n' | '\'', 'N' => some (.national, true)
  | '\'', 'x' | '\'', 'X' => some (.hex, true)
  | '\'', 'b' | '\'', 'B' => some (.bytes, false)
  | '"', 'b' | '"', 'B' => some (.bytesDouble, false)
  | _, _ => none

def readString : List Char → Option Outcome
  | '\'' :: rest =>
    some (.ofValue (.string .single) ⟨.unclosedString, '\'' :: rest⟩ (readQuoted '\'' false rest))
  | letter :: quote :: rest =>
    (lettered? letter quote).map fun (form, escapes) =>
      .ofValue (.string form) ⟨.unclosedString, quote :: rest⟩ (readQuoted quote escapes rest)
  | _ => none

theorem readString_takesOther {s rest : List Char} {token : Token}
    (read : readString s = some (.ok (token, rest))) : TakesOther s token rest := by
  unfold readString at read
  split at read
  · exact takesOther_of_ofValue (Option.some.inj read)
      (fun _ body => (readQuoted_remains body).cons) fun _ => rfl
  · obtain ⟨_, -, found⟩ := Option.map_eq_some_iff.1 read
    exact takesOther_of_ofValue found
      (fun _ body => (readQuoted_remains body).cons.cons) fun _ => rfl
  · cases read

def stringReader : Reader where
  read := readString
  shortens read := (readString_takesOther read).shorter

def rawForms? (letter quote : Char) : Option (StringForm × StringForm) :=
  match quote, letter with
  | '\'', 'r' | '\'', 'R' => some (.raw, .rawTriple)
  | '"', 'r' | '"', 'R' => some (.rawDouble, .rawTripleDouble)
  | _, _ => none

/-- Two quotes that no third one follows are an empty string. -/
def readRawValue (quote : Char) (form triple : StringForm) (s : List Char) : Outcome :=
  match s with
  | b :: c :: rest =>
    if b = quote ∧ c = quote then
      .ofValue (.string triple) ⟨.unclosedString, rest⟩ (readTripled quote rest)
    else if b = quote then .ok (.string form "", c :: rest)
    else .ofValue (.string form) ⟨.unclosedString, s⟩ (readQuoted quote false s)
  | s => .ofValue (.string form) ⟨.unclosedString, s⟩ (readQuoted quote false s)

theorem readRawValue_takesOther {quote : Char} {form triple : StringForm} {s rest : List Char}
    {token : Token} (read : readRawValue quote form triple s = .ok (token, rest)) :
    TakesOther s token rest := by
  unfold readRawValue at read
  split at read
  · split at read
    · exact takesOther_of_ofValue read
        (fun _ body => (readTripled_remains body).cons.cons) fun _ => rfl
    · split at read
      · cases read
        exact ⟨remains_cons List.suffix_rfl, rfl⟩
      · exact takesOther_of_ofValue read (fun _ => readQuoted_remains) fun _ => rfl
  · exact takesOther_of_ofValue read (fun _ => readQuoted_remains) fun _ => rfl

def readRaw : List Char → Option Outcome
  | letter :: quote :: rest =>
    (rawForms? letter quote).map fun (form, triple) => readRawValue quote form triple rest
  | _ => none

theorem readRaw_takesOther {s rest : List Char} {token : Token}
    (read : readRaw s = some (.ok (token, rest))) : TakesOther s token rest := by
  unfold readRaw at read
  split at read
  · obtain ⟨_, -, found⟩ := Option.map_eq_some_iff.1 read
    exact (readRawValue_takesOther found).cons.cons
  · cases read

def rawReader : Reader where
  read := readRaw
  shortens read := (readRaw_takesOther read).shorter

end TableQuery.Sql
