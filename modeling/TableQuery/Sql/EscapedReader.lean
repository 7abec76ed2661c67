import TableQuery.Except
import TableQuery.Sql.Reader

/-! Strings with escapes for characters by letter, by octal or hexadecimal byte and by code
point, and strings with escapes for code points alone. -/

namespace TableQuery.Sql

def isOctalDigit (c : Char) : Bool := '0' ≤ c && c ≤ '7'

/-- A code point in a fixed number of hexadecimal digits, of which the first may be a plus. -/
def readCodePoint (count : Nat) (s : List Char) : Option (Char × List Char) :=
  if s.length < count then none
  else
    let written := s.take count
    let figures := if written.head? = some '+' then written.tail else written
    ((Text.hexValue? figures).bind Text.charOfCode?).map (·, s.drop count)

/-- A byte is taken modulo 256 and has to be an ASCII character. -/
def asciiChar? (code : Nat) : Option Char :=
  if code % 256 ≤ 127 then some (Char.ofNat (code % 256)) else none

/-- Up to two hexadecimal digits; with none of them the letter `x` stands for itself. -/
def readHexByte (s : List Char) : Option (Char × List Char) :=
  match (s.take 2).takeWhile Text.isHexDigit with
  | [] => some ('x', s)
  | figures => ((Text.hexValue? figures).bind asciiChar?).map (·, s.drop figures.length)

def readOctalByte (first : Char) (s : List Char) : Option (Char × List Char) :=
  let more := (s.take 2).takeWhile isOctalDigit
  let code := (first :: more).foldl (fun code d => 8 * code + (d.toNat - '0'.toNat)) 0
  (asciiChar? code).map (·, s.drop more.length)

def readEscape : List Char → Option (Char × List Char)
  | [] => none
  | 'b' :: rest => some ('\x08', rest)
  | 'f' :: rest => some ('\x0c', rest)
  | 'n' :: rest => some ('\n', rest)
  | 'r' :: rest => some ('\r', rest)
  | 't' :: rest => some ('\t', rest)
  | 'u' :: rest => readCodePoint 4 rest
  | 'U' :: rest => readCodePoint 8 rest
  | 'x' :: rest => readHexByte rest
  | c :: rest => if isOctalDigit c then readOctalByte c rest else some (c, rest)

theorem readCodePoint_suffix {count : Nat} {s rest : List Char} {c : Char}
    (read : readCodePoint count s = some (c, rest)) : rest <:+ s := by
  unfold readCodePoint at read
  split at read
  · cases read
  · obtain ⟨_, -, same⟩ := Option.map_eq_some_iff.1 read
    cases same
    exact List.drop_suffix _ _

theorem readHexByte_suffix {s rest : List Char} {c : Char}
    (read : readHexByte s = some (c, rest)) : rest <:+ s := by
  unfold readHexByte at read
  split at read
  · cases read
    exact List.suffix_rfl
  · obtain ⟨_, -, same⟩ := Option.map_eq_some_iff.1 read
    cases same
    exact List.drop_suffix _ _

theorem readOctalByte_suffix {first c : Char} {s rest : List Char}
    (read : readOctalByte first s = some (c, rest)) : rest <:+ s := by
  obtain ⟨_, -, same⟩ := Option.map_eq_some_iff.1 read
  cases same
  exact List.drop_suffix _ _

theorem readEscape_remains {s rest : List Char} {c : Char}
    (read : readEscape s = some (c, rest)) : Remains rest s := by
  unfold readEscape at read
  split at read
  case h_1 => cases read
  case h_7 => exact remains_cons (readCodePoint_suffix read)
  case h_8 => exact remains_cons (readCodePoint_suffix read)
  case h_9 => exact remains_cons (readHexByte_suffix read)
  case h_10 =>
    split at read
    · exact remains_cons (readOctalByte_suffix read)
    · cases read
      exact remains_cons List.suffix_rfl
  all_goals
    cases read
    exact remains_cons List.suffix_rfl

/-- An escape never stands for the null character. -/
def readEscaped (s : List Char) : Option (List Char × List Char) :=
  match s with
  | [] => none
  | c :: rest =>
    if c = '\'' then
      match rest with
      | [] => some ([], [])
      | d :: after =>
        if d = '\'' then (readEscaped after).map (prepend '\'') else some ([], d :: after)
    else if c = '\\' then
      match _h : readEscape rest with
      | some (decoded, after) =>
        if decoded = '\x00' then none else (readEscaped after).map (prepend decoded)
      | none => none
    else (readEscaped rest).map (prepend c)
termination_by s.length
decreasing_by
  · simp only [List.length_cons]
    omega
  · exact (readEscape_remains _h).cons.shorter
  · simp

theorem readEscaped_remains {s value rest : List Char}
    (read : readEscaped s = some (value, rest)) : Remains rest s := by
  fun_induction readEscaped s generalizing value with
  | case1 => cases read
  | case2 =>
    cases read
    exact remains_cons List.suffix_rfl
  | case3 _ ih =>
    obtain ⟨tail, readTail, -⟩ := map_prepend_eq_some read
    exact (ih readTail).cons.cons
  | case4 =>
    cases read
    exact remains_cons List.suffix_rfl
  | case5 => cases read
  | case6 =>
    rename_i escape _ _ ih
    obtain ⟨tail, readTail, -⟩ := map_prepend_eq_some read
    exact ((readEscape_remains escape).of_suffix (ih readTail).ends).cons
  | case7 => cases read
  | case8 _ _ _ _ ih =>
    obtain ⟨tail, readTail, -⟩ := map_prepend_eq_some read
    exact (ih readTail).cons

def readEscapedString (s : List Char) : Option Outcome :=
  match s with
  | letter :: '\'' :: rest =>
    if letter = 'e' ∨ letter = 'E' then
      some (.ofValue (.string .escaped) ⟨.unclosedEscapedString, s⟩ (readEscaped rest))
    else none
  | _ => none

theorem readEscapedString_takesOther {s rest : List Char} {token : Token}
    (read : readEscapedString s = some (.ok (token, rest))) : TakesOther s token rest := by
  unfold readEscapedString at read
  split at read
  · split at read
    · exact takesOther_of_ofValue (Option.some.inj read)
        (fun _ body => (readEscaped_remains body).cons.cons) fun _ => rfl
    · cases read
  · cases read

def escapedStringReader : Reader where
  read := readEscapedString
  shortens read := (readEscapedString_takesOther read).shorter

def readHexDigits (code : Nat) : Nat → List Char → Except Fault (Nat × List Char)
  | 0, s => .ok (code, s)
  | _ + 1, [] => .error ⟨.missingHexDigit, []⟩
  | count + 1, c :: rest =>
    match Text.hexDigit? c with
    | some digit => readHexDigits (16 * code + digit) count rest
    | none => .error ⟨.invalidHexDigit c, rest⟩

theorem readHexDigits_suffix {code count found : Nat} {s rest : List Char}
    (read : readHexDigits code count s = .ok (found, rest)) : rest <:+ s := by
  induction count generalizing code s with
  | zero =>
    cases read
    exact List.suffix_rfl
  | succ count ih =>
    cases s with
    | nil => cases read
    | cons c s =>
      rw [readHexDigits] at read
      split at read
      · exact (remains_cons (ih read)).ends
      · cases read

def readHexChar (count : Nat) (s : List Char) : Except Fault (Char × List Char) :=
  match readHexDigits 0 count s with
  | .error fault => .error fault
  | .ok (code, rest) =>
    match Text.charOfCode? code with
    | some c => .ok (c, rest)
    | none => .error ⟨.invalidCharacter code, rest⟩

/-- The character that the text after a backslash stands for: a backslash, or a code point in
four digits or, after a plus, in six. -/
def readUnicodeEscape (s : List Char) : Except Fault (Char × List Char) :=
  match s with
  | '\\' :: rest => .ok ('\\', rest)
  | '+' :: rest => readHexChar 6 rest
  | s => readHexChar 4 s

theorem readHexChar_suffix {count : Nat} {s rest : List Char} {c : Char}
    (read : readHexChar count s = .ok (c, rest)) : rest <:+ s := by
  unfold readHexChar at read
  split at read
  · cases read
  next digits =>
    split at read
    · cases read
      exact readHexDigits_suffix digits
    · cases read

theorem readUnicodeEscape_suffix {s rest : List Char} {c : Char}
    (read : readUnicodeEscape s = .ok (c, rest)) : rest <:+ s := by
  unfold readUnicodeEscape at read
  split at read
  · cases read
    exact List.suffix_cons _ _
  · exact (remains_cons (readHexChar_suffix read)).ends
  · exact readHexChar_suffix read

def readUnicode (s : List Char) : Except Fault (List Char × List Char) :=
  match s with
  | [] => .error ⟨.unclosedUnicodeString, []⟩
  | c :: rest =>
    if c = '\'' then
      match rest with
      | [] => .ok ([], [])
      | d :: after =>
        if d = '\'' then (readUnicode after).map (prepend '\'') else .ok ([], d :: after)
    else if c = '\\' then
      match _h : readUnicodeEscape rest with
      | .ok (decoded, after) => (readUnicode after).map (prepend decoded)
      | .error fault => .error fault
    else (readUnicode rest).map (prepend c)
termination_by s.length
decreasing_by
  · simp only [List.length_cons]
    omega
  · exact (remains_cons (readUnicodeEscape_suffix _h)).shorter
  · simp

theorem ok_of_map_prepend {c : Char} {read : Except Fault (List Char × List Char)}
    {value rest : List Char} (h : read.map (prepend c) = .ok (value, rest)) :
    ∃ tail, read = .ok (tail, rest) := by
  obtain ⟨⟨tail, after⟩, found, same⟩ := map_eq_ok_iff.1 h
  cases same
  exact ⟨tail, found⟩

theorem readUnicode_remains {s value rest : List Char}
    (read : readUnicode s = .ok (value, rest)) : Remains rest s := by
  fun_induction readUnicode s generalizing value with
  | case1 => cases read
  | case2 =>
    cases read
    exact remains_cons List.suffix_rfl
  | case3 _ ih =>
    obtain ⟨tail, readTail⟩ := ok_of_map_prepend read
    exact (ih readTail).cons.cons
  | case4 =>
    cases read
    exact remains_cons List.suffix_rfl
  | case5 s decoded after escape _ ih =>
    obtain ⟨tail, readTail⟩ := ok_of_map_prepend read
    exact remains_cons ((ih readTail).ends.trans (readUnicodeEscape_suffix escape))
  | case6 => cases read
  | case7 _ _ _ _ ih =>
    obtain ⟨tail, readTail⟩ := ok_of_map_prepend read
    exact (ih readTail).cons

def readUnicodeString (s : List Char) : Option Outcome :=
  match s with
  | letter :: '&' :: '\'' :: rest =>
    if letter = 'u' ∨ letter = 'U' then
      some ((readUnicode rest).map fun (value, rest) =>
        (.string .unicode (String.ofList value), rest))
    else none
  | _ => none

theorem readUnicodeString_takesOther {s rest : List Char} {token : Token}
    (read : readUnicodeString s = some (.ok (token, rest))) : TakesOther s token rest := by
  unfold readUnicodeString at read
  split at read
  · split at read
    · obtain ⟨⟨value, left⟩, body, same⟩ := map_eq_ok_iff.1 (Option.some.inj read)
      cases same
      exact ⟨(readUnicode_remains body).cons.cons.cons, rfl⟩
    · cases read
  · cases read

def unicodeStringReader : Reader where
  read := readUnicodeString
  shortens read := (readUnicodeString_takesOther read).shorter

end TableQuery.Sql
