import Mathlib.Data.List.TakeWhile
import TableQuery.Sql.Lexer

/-! The characters at the position of a token are those that the token was read from. Whatever ends
the lines before it, the line of the position has them at its column. -/

namespace TableQuery.Sql

/-! ### Lines and columns -/

def column (passed : List Char) : Nat := (passed.reverse.takeWhile (· != '\n')).length

theorem ne_newline_of_mem_reverse {passed : List Char} (unbroken : '\n' ∉ passed) :
    ∀ c ∈ passed.reverse, (c != '\n') = true := fun c member => by
  have other : c ≠ '\n' := fun same => unbroken (same ▸ List.mem_reverse.1 member)
  simpa using other

theorem column_of_not_mem {passed : List Char} (unbroken : '\n' ∉ passed) :
    column passed = passed.length := by
  rw [column, List.takeWhile_eq_self_iff.2 (ne_newline_of_mem_reverse unbroken),
    List.length_reverse]

theorem column_cons_of_mem {passed : List Char} (broken : '\n' ∈ passed) (c : Char) :
    column (c :: passed) = column passed := by
  have stops : (passed.reverse.takeWhile (· != '\n')).length ≠ passed.reverse.length := by
    intro whole
    have all := List.takeWhile_eq_self_iff.1 ((List.takeWhile_prefix _).eq_of_length whole)
    simpa using all '\n' (List.mem_reverse.2 broken)
  rw [column, column, List.reverse_cons, List.takeWhile_append, if_neg stops]

theorem column_newline (passed : List Char) : column ('\n' :: passed) = column passed := by
  by_cases broken : '\n' ∈ passed
  · exact column_cons_of_mem broken _
  · have all := ne_newline_of_mem_reverse broken
    rw [column_of_not_mem broken, column, List.reverse_cons, List.takeWhile_append_of_pos all]
    simp

theorem column_cons_of_not_mem {passed : List Char} (unbroken : '\n' ∉ passed) {c : Char}
    (other : c ≠ '\n') : column (c :: passed) = column passed + 1 := by
  have unbrokenToo : '\n' ∉ c :: passed := by simpa [unbroken] using other.symm
  rw [column_of_not_mem unbroken, column_of_not_mem unbrokenToo, List.length_cons]

theorem lines_cons {c : Char} {rest : List Char} (other : c ≠ '\n')
    (alone : c = '\r' → rest.head? ≠ some '\n') :
    lines (c :: rest) = (c :: (lines rest).headD []) :: (lines rest).tail := by
  rw [lines]
  · cases lines rest with
    | nil => rfl
    | cons line more => rfl
  · exact other
  · rintro after rfl rfl
    exact alone rfl rfl

theorem lines_append_of_plain {shown : List Char} (plain : ∀ c ∈ shown, c ≠ '\n' ∧ c ≠ '\r')
    (shows : shown ≠ []) (after : List Char) :
    lines (shown ++ after) =
      (shown ++ (lines after).headD []) :: (lines after).tail := by
  induction shown with
  | nil => exact absurd rfl shows
  | cons c shown ih =>
    obtain ⟨⟨other, alone⟩, plain⟩ := List.forall_mem_cons.1 plain
    rw [List.cons_append, lines_cons other fun same => absurd same alone]
    by_cases last : shown = []
    · rw [last]
      rfl
    · rw [ih plain last]
      rfl

theorem exists_line {shown : List Char} (plain : ∀ c ∈ shown, c ≠ '\n' ∧ c ≠ '\r')
    (shows : shown ≠ []) (passed after : List Char) :
    ∃ before behind, (lines (passed ++ (shown ++ after)))[passed.count '\n']? =
      some (before ++ (shown ++ behind)) ∧ before.length = column passed := by
  induction passed with
  | nil =>
    refine ⟨[], (lines after).headD [], ?_, rfl⟩
    rw [List.nil_append, lines_append_of_plain plain shows]
    rfl
  | cons c passed ih =>
    obtain ⟨before, behind, found, length⟩ := ih
    by_cases newline : c = '\n'
    · subst newline
      refine ⟨before, behind, ?_, length.trans (column_newline passed).symm⟩
      rw [List.count_cons_self]
      exact found
    · rw [List.count_cons_of_ne newline]
      by_cases joined : c = '\r' ∧ passed.head? = some '\n'
      · -- The two characters end one line, as the line feed does alone.
        obtain ⟨rfl, starts⟩ := joined
        obtain ⟨passed, rfl⟩ := List.head?_eq_some_iff.1 starts
        exact ⟨before, behind, found, length.trans (column_cons_of_mem (.head _) _).symm⟩
      · have alone : c = '\r' → (passed ++ (shown ++ after)).head? ≠ some '\n' := by
          intro same starts
          cases passed with
          | nil =>
            obtain ⟨first, shown, rfl⟩ := List.exists_cons_of_ne_nil shows
            exact (plain first (.head _)).1 (Option.some.inj starts)
          | cons => exact joined ⟨same, starts⟩
        rw [List.cons_append, lines_cons newline alone]
        by_cases broken : '\n' ∈ passed
        · obtain ⟨line, count⟩ := Nat.exists_eq_succ_of_ne_zero (List.count_pos_iff.2 broken).ne'
          refine ⟨before, behind, ?_, length.trans (column_cons_of_mem broken c).symm⟩
          rw [count] at found ⊢
          rw [List.getElem?_cons_succ, List.getElem?_tail, found]
        · refine ⟨c :: before, behind, ?_, ?_⟩
          · rw [List.count_eq_zero.2 broken] at found ⊢
            rw [List.getElem?_cons_zero, List.headD_eq_head?_getD, List.head?_eq_getElem?, found]
            rfl
          · rw [List.length_cons, length, column_cons_of_not_mem broken newline]

theorem sourceText?_after {shown : List Char} (plain : ∀ c ∈ shown, c ≠ '\n' ∧ c ≠ '\r')
    (shows : shown ≠ []) (passed after : List Char) :
    sourceText? (passed ++ (shown ++ after)) (Position.after passed) shown.length = some shown := by
  obtain ⟨before, behind, found, length⟩ := exists_line plain shows passed after
  have position : Position.after passed = ⟨passed.count '\n' + 1, column passed + 1⟩ := by
    rw [Position.after, Nat.add_comm 1, Nat.add_comm 1]
    rfl
  rw [position, sourceText?, found, Option.map_some, ← length, List.drop_left, List.take_left]

/-! ### Places of tokens -/

section

variable {s rest : List Char} {token : Token}

theorem readToken_takes (read : readToken s = some (.ok (token, rest))) : Takes s token rest := by
  obtain ⟨reader, member, read⟩ := List.exists_of_findSome?_eq_some read
  simp only [readers, List.mem_cons, List.not_mem_nil, or_false] at member
  -- Only the last reader takes symbols.
  rcases member with rfl | rfl | rfl | rfl | rfl | rfl | rfl | rfl | rfl | rfl | rfl | rfl | rfl | rfl
  · exact (readBlank_takesOther read).takes
  · exact (readString_takesOther read).takes
  · exact (readRaw_takesOther read).takes
  · exact (readEscapedString_takesOther read).takes
  · exact (readUnicodeString_takesOther read).takes
  · exact (readQuotedWord_takesOther read).takes
  · exact (readQuotedWord_takesOther read).takes
  · exact (readNumeral_takesOther read).takes
  · exact (readComment_takesOther read).takes
  · exact (readMarkedWord_takesOther read).takes
  · exact (readWord_takesOther read).takes
  · exact (readDollar_takesOther read).takes
  · exact (readQuestion_takesOther read).takes
  · exact readMark_takes read

theorem takes_of_mem_lexemes {found : List Lexeme} (read : lexemes s = .ok found) {lexeme : Lexeme}
    (member : lexeme ∈ found) :
    lexeme.source <:+ s ∧ ∃ rest, Takes lexeme.source lexeme.token rest := by
  fun_induction lexemes s generalizing found with
  | case1 =>
    cases read
    cases member
  | case2 => cases read
  | case3 s token rest first ih =>
    obtain ⟨later, readLater, rfl⟩ := map_eq_ok_iff.1 read
    have takes := readToken_takes first
    rcases List.mem_cons.1 member with rfl | member
    · exact ⟨List.suffix_rfl, rest, takes⟩
    · obtain ⟨ends, own⟩ := ih readLater member
      exact ⟨ends.trans takes.ends, own⟩

end

/-! ### Inequalities -/

/-- The token stands in the text with this spelling, and its position leads there. -/
def WrittenAs (text : List Char) (lexeme : Lexeme) (spelling : String) : Prop :=
  ∃ passed rest, text = passed ++ lexeme.source ∧ lexeme.source = spelling.toList ++ rest ∧
    sourceText? text (Position.after passed) 2 = some spelling.toList

theorem exists_symbol_of_isInequality {token : Token} (unequal : token.isInequality = true) :
    ∃ symbol, token = .symbol symbol ∧ (symbol = .notEqual ∨ symbol = .angleNotEqual) := by
  unfold Token.isInequality at unequal
  split at unequal
  · exact ⟨_, rfl, .inl rfl⟩
  · exact ⟨_, rfl, .inr rfl⟩
  · cases unequal

section

variable {text : List Char} {found : List Lexeme} {lexeme : Lexeme}

theorem writtenAs_of_isInequality (read : lexemes text = .ok found) (member : lexeme ∈ found)
    (unequal : lexeme.token.isInequality = true) :
    ∃ symbol, lexeme.token = .symbol symbol ∧ (symbol = .notEqual ∨ symbol = .angleNotEqual) ∧
      WrittenAs text lexeme symbol.spelling := by
  obtain ⟨⟨passed, whole⟩, rest, takes⟩ := takes_of_mem_lexemes read member
  obtain ⟨symbol, same, either⟩ := exists_symbol_of_isInequality unequal
  have source := takes.symbol symbol same
  refine ⟨symbol, same, either, passed, rest, whole.symm, source, ?_⟩
  rw [← whole, source]
  rcases either with rfl | rfl
  · exact sourceText?_after (by simp [Symbol.spelling]) (by decide) passed rest
  · exact sourceText?_after (by simp [Symbol.spelling]) (by decide) passed rest

theorem spelled_of_mem (read : lexemes text = .ok found) (member : lexeme ∈ found) :
    lexeme.spelled text = lexeme.token := by
  unfold Lexeme.spelled
  split
  next unequal =>
    obtain ⟨symbol, same, -, passed, rest, whole, -, shown⟩ :=
      writtenAs_of_isInequality read member unequal
    have position : Position.of text lexeme.source = Position.after passed := by
      rw [whole, Position.of_append]
    rw [position, shown, same, Option.getD_some, Token.ofSpelling, Symbol.ofSpelling?_spelling]
  next => rfl

theorem tokens_of_lexemes {text : String} (read : lexemes text.toList = .ok found) :
    tokens text = .ok (found.map Lexeme.token) := by
  rw [tokens, read]
  exact congrArg Except.ok (List.map_congr_left fun lexeme member => spelled_of_mem read member)

end

end TableQuery.Sql
