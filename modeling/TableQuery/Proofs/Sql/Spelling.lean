import TableQuery.Proofs.Sql.SourceText

/-! How given tokens are spelled. Between quotes any text can stand, when its own quotes are written
twice. -/

namespace TableQuery.Sql

def Spells (s : List Char) (tokens : List Token) : Prop :=
  ∃ found, lexemes s = .ok found ∧ found.map Lexeme.token = tokens

theorem Spells.nil : Spells [] [] := ⟨[], lexemes_of_none rfl, rfl⟩

theorem Spells.cons {s rest : List Char} {token : Token} {tokens : List Token}
    (first : readToken s = some (.ok (token, rest))) (others : Spells rest tokens) :
    Spells s (token :: tokens) := by
  obtain ⟨found, read, rfl⟩ := others
  refine ⟨⟨token, s⟩ :: found, ?_, rfl⟩
  rw [lexemes_of_ok first, read]
  rfl

theorem Spells.tokens_eq {text : String} {tokens : List Token} (spells : Spells text.toList tokens) :
    Sql.tokens text = .ok tokens := by
  obtain ⟨found, read, rfl⟩ := spells
  exact tokens_of_lexemes read

def doubled (quote : Char) (s : List Char) : List Char :=
  s.flatMap fun c => if c = quote then [quote, quote] else [c]

@[simp] theorem doubled_nil (quote : Char) : doubled quote [] = [] := rfl

@[simp] theorem doubled_cons_self (quote : Char) (s : List Char) :
    doubled quote (quote :: s) = quote :: quote :: doubled quote s := by
  simp [doubled]

theorem doubled_cons_of_ne {quote c : Char} (other : c ≠ quote) (s : List Char) :
    doubled quote (c :: s) = c :: doubled quote s := by
  simp [doubled, other]

theorem readQuoted_cons_of_ne {quote c : Char} (other : c ≠ quote) (s : List Char) :
    readQuoted quote false (c :: s) = (readQuoted quote false s).map (prepend c) := by
  cases s with
  | nil => simp [readQuoted, other]
  | cons d s => simp [readQuoted, other]

theorem readQuoted_doubled (quote : Char) (s : List Char) {rest : List Char}
    (ends : rest.head? ≠ some quote) :
    readQuoted quote false (doubled quote s ++ quote :: rest) = some (s, rest) := by
  induction s with
  | nil =>
    cases rest with
    | nil => simp [readQuoted]
    | cons c rest =>
      have other : c ≠ quote := by simpa using ends
      simp [readQuoted, other]
  | cons c s ih =>
    by_cases same : c = quote
    · subst same
      rw [doubled_cons_self, List.cons_append, List.cons_append, readQuoted, if_pos rfl, if_pos rfl, ih]
      rfl
    · rw [doubled_cons_of_ne same, List.cons_append, readQuoted_cons_of_ne same, ih]
      rfl

theorem readToken_space (rest : List Char) :
    readToken (' ' :: rest) = some (.ok (.blank .space, rest)) := rfl

theorem readToken_and (rest : List Char) :
    readToken ('A' :: 'N' :: 'D' :: ' ' :: rest) = some (.ok (.word "AND" none, ' ' :: rest)) := rfl

theorem readToken_string (value : List Char) {rest : List Char} (ends : rest.head? ≠ some '\'') :
    readToken ('\'' :: (doubled '\'' value ++ '\'' :: rest)) =
      some (.ok (.string .single (String.ofList value), rest)) := by
  have declined : blankReader.read ('\'' :: (doubled '\'' value ++ '\'' :: rest)) = none := rfl
  have found : stringReader.read ('\'' :: (doubled '\'' value ++ '\'' :: rest)) =
      some (.ok (.string .single (String.ofList value), rest)) := by
    change some (Outcome.ofValue _ _ (readQuoted _ _ _)) = _
    rw [readQuoted_doubled _ _ ends]
    rfl
  rw [readToken, readers, List.findSome?_cons, declined, List.findSome?_cons, found]

theorem lettered?_mark (quote : Char) : lettered? '"' quote = none := by
  unfold lettered?
  split <;> simp_all

theorem rawForms?_mark (quote : Char) : rawForms? '"' quote = none := by
  unfold rawForms?
  split <;> simp_all

/-- The readers before that of words in double quotes read blanks and strings, and no string has a
double quote for its letter. -/
theorem declined_mark (s : List Char) :
    (readers.take 5).findSome? (·.read ('"' :: s)) = none := by
  have string : readString ('"' :: s) = none := by
    cases s with
    | nil => rfl
    | cons quote s =>
      change (lettered? '"' quote).map _ = none
      rw [lettered?_mark, Option.map_none]
  have raw : readRaw ('"' :: s) = none := by
    cases s with
    | nil => rfl
    | cons quote s =>
      change (rawForms? '"' quote).map _ = none
      rw [rawForms?_mark, Option.map_none]
  have escaped : readEscapedString ('"' :: s) = none := by
    unfold readEscapedString
    split
    next same =>
      cases same
      rfl
    next => rfl
  have unicode : readUnicodeString ('"' :: s) = none := by
    unfold readUnicodeString
    split
    next same =>
      cases same
      rfl
    next => rfl
  rw [List.findSome?_eq_none_iff]
  simp only [readers, List.take_succ_cons, List.take_zero, List.forall_mem_cons]
  exact ⟨rfl, string, raw, escaped, unicode, by simp⟩

theorem readToken_quotedWord (value : List Char) {rest : List Char} (ends : rest.head? ≠ some '"') :
    readToken ('"' :: (doubled '"' value ++ '"' :: rest)) =
      some (.ok (.word (String.ofList value) (some .double), rest)) := by
  have found : (quotedWordReader .double).read ('"' :: (doubled '"' value ++ '"' :: rest)) =
      some (.ok (.word (String.ofList value) (some .double), rest)) := by
    change some (Outcome.ofValue _ _ (readQuoted _ _ _)) = _
    rw [Quote.mark, readQuoted_doubled _ _ ends]
    rfl
  rw [readToken, ← List.take_append_drop 5 readers, List.findSome?_append, declined_mark,
    Option.none_or]
  change List.findSome? _ (quotedWordReader .double :: readers.drop 6) = _
  rw [List.findSome?_cons, found]

end TableQuery.Sql
