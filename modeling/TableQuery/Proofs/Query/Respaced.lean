import TableQuery.Proofs.List
import TableQuery.Query.Grammar

/-! Lists of tokens that differ in their white space only. The rules of the grammar pass over white
space: they take the same off the front of both lists, or refuse both for the same reason. -/

namespace TableQuery.Grammar

open Sql (Token)

/-- The white space that comes before a token may differ, as far as `varies` allows it. -/
inductive Respaced (varies : List Token → List Token → Prop) : List Token → List Token → Prop
  | nil : Respaced varies [] []
  | space {s t tokens others : List Token} (white : ∀ token ∈ s, token.isSpace = true)
      (whiteToo : ∀ token ∈ t, token.isSpace = true) (allowed : varies s t)
      (rest : Respaced varies tokens others) : Respaced varies (s ++ tokens) (t ++ others)
  | cons {token : Token} {tokens others : List Token} (solid : token.isSpace = false)
      (rest : Respaced varies tokens others) : Respaced varies (token :: tokens) (token :: others)

inductive ReadAlike (varies : List Token → List Token → Prop) {α : Type} :
    α × List Token → α × List Token → Prop
  | mk (value : α) {rest restToo : List Token} (left : Respaced varies rest restToo) :
    ReadAlike varies (value, rest) (value, restToo)

/-- Both outcomes are errors, and the same, or both are values, and related. -/
inductive Alike {ε α β : Type} (related : α → β → Prop) : Except ε α → Except ε β → Prop
  | ok {one : α} {other : β} (values : related one other) : Alike related (.ok one) (.ok other)
  | error (error : ε) : Alike related (.error error) (.error error)

section

variable {ε α β α' β' : Type} {related : α → β → Prop} {relatedToo : α' → β' → Prop}

theorem Alike.refl (outcome : Except ε α) : Alike Eq outcome outcome := by
  cases outcome with
  | ok value => exact .ok rfl
  | error error => exact .error error

theorem Alike.bind {one : Except ε α} {other : Except ε β} {next : α → Except ε α'}
    {nextToo : β → Except ε β'} (first : Alike related one other)
    (others : ∀ u v, related u v → Alike relatedToo (next u) (nextToo v)) :
    Alike relatedToo (one >>= next) (other >>= nextToo) := by
  cases first with
  | ok values => exact others _ _ values
  | error error => exact .error error

theorem Alike.map {one : Except ε α} {other : Except ε β} {f : α → α'} {g : β → β'}
    (alike : Alike related one other) (values : ∀ u v, related u v → relatedToo (f u) (g v)) :
    Alike relatedToo (one.map f) (other.map g) := by
  cases alike with
  | ok same => exact .ok (values _ _ same)
  | error error => exact .error error

theorem Alike.mapError {ε' : Type} {one : Except ε α} {other : Except ε β} (f : ε → ε')
    (alike : Alike related one other) : Alike related (one.mapError f) (other.mapError f) := by
  cases alike with
  | ok same => exact .ok same
  | error error => exact .error (f error)

theorem Alike.exists_of_ok {one : Except ε α} {other : Except ε β} {u : α}
    (alike : Alike related one other) (read : one = .ok u) : ∃ v, other = .ok v ∧ related u v := by
  cases alike with
  | ok values =>
    cases read
    exact ⟨_, rfl, values⟩
  | error error => cases read

theorem Alike.eq_error {one : Except ε α} {other : Except ε β} {error : ε}
    (alike : Alike related one other) (refused : one = .error error) : other = .error error := by
  cases alike with
  | ok values => cases refused
  | error _ => exact congrArg Except.error (Except.error.inj refused)

end

theorem next?_append_of_white {space : List Token} (white : ∀ token ∈ space, token.isSpace = true)
    (tokens : List Token) : next? (space ++ tokens) = next? tokens := by
  rw [next?, next?, skipSpace, skipSpace, List.dropWhile_append_of_pos white]

theorem splitEntry_append_of_white {space : List Token} (white : ∀ token ∈ space, token.isSpace = true)
    (depth : Nat) (tokens : List Token) :
    splitEntry depth (space ++ tokens) =
      (space ++ (splitEntry depth tokens).1, (splitEntry depth tokens).2) := by
  induction space with
  | nil => rfl
  | cons token space ih =>
    have inside : endsEntry token = false ∧ depthAfter depth token = depth := by
      have isSpace := white token (.head _)
      cases token with
      | blank | comment => exact ⟨rfl, rfl⟩
      | _ => cases isSpace
    rw [List.cons_append, splitEntry, if_neg (by simp [inside.1]), inside.2,
      ih fun token member => white token (.tail _ member)]
    rfl

namespace Respaced

variable {varies : List Token → List Token → Prop} {tokens others : List Token}

theorem symm (h : Respaced varies tokens others) : Respaced (flip varies) others tokens := by
  induction h with
  | nil => exact .nil
  | space white whiteToo allowed _ ih => exact .space whiteToo white allowed ih
  | cons solid _ ih => exact .cons solid ih

theorem next? (h : Respaced varies tokens others) :
    Option.Rel (ReadAlike varies) (Grammar.next? tokens) (Grammar.next? others) := by
  induction h with
  | nil => exact .none
  | space white whiteToo _ _ ih => rwa [next?_append_of_white white, next?_append_of_white whiteToo]
  | cons solid rest =>
    rw [next?_of_not_space solid, next?_of_not_space solid]
    exact .some (.mk _ rest)

theorem afterKeyword? (keyword : String) (h : Respaced varies tokens others) :
    Option.Rel (Respaced varies) (Grammar.afterKeyword? keyword tokens)
      (Grammar.afterKeyword? keyword others) := by
  unfold Grammar.afterKeyword?
  -- The relation of what both sides have read is taken apart with them, so that they stay in step.
  match Grammar.next? tokens, Grammar.next? others, h.next? with
  | _, _, .none => exact .none
  | some (token, _), some (_, _), .some (.mk _ rest) =>
    dsimp only
    split
    · exact .some rest
    · exact .none

theorem word? (h : Respaced varies tokens others) :
    Option.Rel (ReadAlike varies) (Grammar.word? tokens) (Grammar.word? others) := by
  unfold Grammar.word?
  match Grammar.next? tokens, Grammar.next? others, h.next? with
  | _, _, .none => exact .none
  | some (token, _), some (_, _), .some (.mk _ rest) =>
    cases token with
    | word => exact .some (.mk _ rest)
    | _ => exact .none

theorem column? (h : Respaced varies tokens others) :
    Option.Rel (ReadAlike varies) (Grammar.column? tokens) (Grammar.column? others) := by
  unfold Grammar.column?
  match Grammar.word? tokens, Grammar.word? others, h.word? with
  | _, _, .none => exact .none
  | some (first, rest), some (_, restToo), .some (.mk _ left) =>
    have alone : Option.Rel (ReadAlike varies) (some (first, rest)) (some (first, restToo)) :=
      .some (.mk _ left)
    dsimp only
    match Grammar.next? rest, Grammar.next? restToo, left.next? with
    | _, _, .none => exact alone
    | some (token, after), some (_, afterToo), .some (.mk _ left) =>
      cases token with
      | symbol symbol =>
        cases symbol with
        | period =>
          dsimp only
          match Grammar.word? after, Grammar.word? afterToo, left.word? with
          | _, _, .none => exact alone
          | some (second, _), some (_, _), .some (.mk _ rest) => exact .some (.mk _ rest)
        | _ => exact alone
      | _ => exact alone

theorem connective? (h : Respaced varies tokens others) :
    Option.Rel (ReadAlike varies) (Grammar.connective? tokens) (Grammar.connective? others) := by
  unfold Grammar.connective?
  match Grammar.next? tokens, Grammar.next? others, h.next? with
  | _, _, .none => exact .none
  | some (token, _), some (_, _), .some (.mk _ rest) =>
    dsimp only
    split
    · exact .some (.mk _ rest)
    · split
      · exact .some (.mk _ rest)
      · exact .none

theorem joinWords? (limit : Nat) (h : Respaced varies tokens others) :
    Option.Rel (ReadAlike varies) (Grammar.joinWords? limit tokens)
      (Grammar.joinWords? limit others) := by
  induction limit generalizing tokens others with
  | zero =>
    unfold Grammar.joinWords?
    match Grammar.next? tokens, Grammar.next? others, h.next? with
    | _, _, .none => exact .none
    | some (token, _), some (_, _), .some (.mk _ rest) =>
      dsimp only
      split
      · exact .some (.mk _ rest)
      · exact .none
  | succ limit ih =>
    unfold Grammar.joinWords?
    match Grammar.next? tokens, Grammar.next? others, h.next? with
    | _, _, .none => exact .none
    | some (token, rest), some (_, restToo), .some (.mk _ left) =>
      dsimp only
      split
      · exact .some (.mk _ left)
      · cases token with
        | word value quote =>
          dsimp only
          split
          · exact .none
          · match Grammar.joinWords? limit rest, Grammar.joinWords? limit restToo, ih left with
            | _, _, .none => exact .none
            | some (words, _), some (_, _), .some (.mk _ after) => exact .some (.mk _ after)
        | _ => exact .none

theorem joinColumn (h : Respaced varies tokens others) :
    Alike (ReadAlike varies) (Grammar.joinColumn tokens) (Grammar.joinColumn others) := by
  unfold Grammar.joinColumn
  match Grammar.column? tokens, Grammar.column? others, h.column? with
  | _, _, .none => exact .error _
  | some (column, _), some (_, _), .some (.mk _ rest) =>
    dsimp only
    split
    · exact .ok (.mk _ rest)
    · exact .error _

theorem joinCondition (h : Respaced varies tokens others) :
    Alike (ReadAlike varies) (Grammar.joinCondition tokens) (Grammar.joinCondition others) := by
  refine h.joinColumn.bind ?_
  rintro _ _ @⟨first, rest, restToo, left⟩
  dsimp only
  match Grammar.next? rest, Grammar.next? restToo, left.next? with
  | _, _, .none => exact .error _
  | some (token, _), some (_, _), .some (.mk _ after) =>
    cases token with
    | symbol symbol =>
      cases symbol with
      | equal =>
        refine after.joinColumn.bind ?_
        rintro _ _ ⟨second, rest⟩
        exact .ok (.mk _ rest)
      | _ => exact .error _
    | _ => exact .error _

theorem joinClause (h : Respaced varies tokens others) :
    Alike (ReadAlike varies) (Grammar.joinClause tokens) (Grammar.joinClause others) := by
  unfold Grammar.joinClause
  match Grammar.joinWords? 2 tokens, Grammar.joinWords? 2 others, h.joinWords? 2 with
  | _, _, .none => exact .ok (.mk _ h)
  | some (words, rest), some (_, restToo), .some (.mk _ left) =>
    dsimp only
    match Grammar.word? rest, Grammar.word? restToo, left.word? with
    | _, _, .none => exact .error _
    | some (table, named), some (_, namedToo), .some (.mk _ left) =>
      dsimp only
      match Grammar.afterKeyword? "ON" named, Grammar.afterKeyword? "ON" namedToo,
        left.afterKeyword? "ON" with
      | _, _, .none => exact .error _
      | some _, some _, .some left =>
        refine left.joinCondition.bind ?_
        rintro _ _ ⟨condition, rest⟩
        exact .ok (.mk _ rest)

theorem columnList (h : Respaced varies tokens others) :
    Alike (ReadAlike varies) (Grammar.columnList tokens) (Grammar.columnList others) := by
  -- The cases follow the calls on one list; each step is found again in the other by the relation.
  fun_induction Grammar.columnList tokens generalizing others with
  | case1 tokens none =>
    rw [columnList_of_none (eq_none_of_rel h.column? none)]
    exact .error _
  | case2 tokens column rest found after comma columns left read ih =>
    obtain ⟨_, foundToo, ⟨_, rest⟩⟩ := exists_of_rel h.column? found
    obtain ⟨_, commaToo, ⟨_, after⟩⟩ := exists_of_rel rest.next? comma
    obtain ⟨_, readToo, ⟨_, left⟩⟩ := (ih after).exists_of_ok read
    rw [columnList_of_more foundToo commaToo readToo]
    exact .ok (.mk _ left)
  | case3 tokens column rest found after comma error refused ih =>
    obtain ⟨_, foundToo, ⟨_, rest⟩⟩ := exists_of_rel h.column? found
    obtain ⟨_, commaToo, ⟨_, after⟩⟩ := exists_of_rel rest.next? comma
    rw [columnList_of_comma foundToo commaToo, (ih after).eq_error refused]
    exact .error _
  | case4 tokens column rest found last =>
    obtain ⟨_, foundToo, ⟨_, rest⟩⟩ := exists_of_rel h.column? found
    rw [columnList_of_last foundToo]
    · exact .ok (.mk _ rest)
    · intro after comma
      obtain ⟨_, comma, ⟨_, -⟩⟩ := exists_of_rel rest.symm.next? comma
      exact last _ comma

theorem groupClause (h : Respaced varies tokens others) :
    Alike (ReadAlike varies) (Grammar.groupClause tokens) (Grammar.groupClause others) := by
  unfold Grammar.groupClause
  match Grammar.afterKeyword? "GROUP" tokens, Grammar.afterKeyword? "GROUP" others,
    h.afterKeyword? "GROUP" with
  | _, _, .none => exact .ok (.mk _ h)
  | some rest, some restToo, .some left =>
    dsimp only
    match Grammar.afterKeyword? "BY" rest, Grammar.afterKeyword? "BY" restToo,
      left.afterKeyword? "BY" with
    | _, _, .none => exact .error _
    | some list, some listToo, .some left =>
      dsimp only
      match Grammar.columnList list, Grammar.columnList listToo, left.columnList with
      | _, _, .error error => exact .error error
      | _, _, .ok (.mk columns rest) => exact .ok (.mk _ rest)

theorem expectEnd (h : Respaced varies tokens others) :
    Grammar.expectEnd tokens = Grammar.expectEnd others := by
  unfold Grammar.expectEnd
  dsimp only
  match first : Grammar.next? tokens, second : Grammar.next? others, h.next? with
  | _, _, .none =>
    dsimp only
    rw [first, second]
  | some (token, rest), some (_, restToo), .some (.mk _ left) =>
    cases token with
    | symbol symbol =>
      cases symbol with
      | semicolon =>
        dsimp only
        match Grammar.next? rest, Grammar.next? restToo, left.next? with
        | _, _, .none => rfl
        | some (token, _), some (_, _), .some (.mk _ _) => rfl
      | _ =>
        dsimp only
        rw [first, second]
    | _ =>
      dsimp only
      rw [first, second]

theorem filter_not_space (h : Respaced varies tokens others) :
    tokens.filter (!·.isSpace) = others.filter (!·.isSpace) := by
  have nothing {space : List Token} (white : ∀ token ∈ space, token.isSpace = true) :
      space.filter (!·.isSpace) = [] :=
    List.filter_eq_nil_iff.2 fun token member => by simp [white token member]
  induction h with
  | nil => rfl
  | space white whiteToo _ _ ih =>
    rw [List.filter_append, List.filter_append, nothing white, nothing whiteToo, ih]
  | cons solid _ ih => rw [List.filter_cons, List.filter_cons, ih]

theorem takeWhile {p : Token → Bool} (passes : ∀ token, token.isSpace = true → p token = true)
    (h : Respaced varies tokens others) :
    Respaced varies (tokens.takeWhile p) (others.takeWhile p) := by
  induction h with
  | nil => exact .nil
  | space white whiteToo allowed _ ih =>
    rw [List.takeWhile_append_of_pos fun token member => passes token (white token member),
      List.takeWhile_append_of_pos fun token member => passes token (whiteToo token member)]
    exact .space white whiteToo allowed ih
  | cons solid _ ih =>
    rw [List.takeWhile_cons, List.takeWhile_cons]
    split
    · exact .cons solid ih
    · exact .nil

theorem dropWhile {p : Token → Bool} (passes : ∀ token, token.isSpace = true → p token = true)
    (h : Respaced varies tokens others) :
    Respaced varies (tokens.dropWhile p) (others.dropWhile p) := by
  induction h with
  | nil => exact .nil
  | space white whiteToo _ _ ih =>
    rwa [List.dropWhile_append_of_pos fun token member => passes token (white token member),
      List.dropWhile_append_of_pos fun token member => passes token (whiteToo token member)]
  | cons solid rest ih =>
    rw [List.dropWhile_cons, List.dropWhile_cons]
    split
    · exact ih
    · exact .cons solid rest

theorem splitEntry {depth : Nat} {entry rest : List Token} {separator : Token}
    (h : Respaced varies tokens others)
    (splits : Grammar.splitEntry depth tokens = (entry, separator :: rest)) :
    ∃ entryToo restToo, Grammar.splitEntry depth others = (entryToo, separator :: restToo) ∧
      Respaced varies entry entryToo ∧ Respaced varies rest restToo := by
  induction h generalizing depth entry with
  | nil => cases splits
  | @space s t tokens others white whiteToo allowed _ ih =>
    rw [splitEntry_append_of_white white] at splits
    obtain ⟨later, last⟩ := Prod.ext_iff.1 splits
    obtain ⟨entryToo, restToo, splitsToo, entries, left⟩ := ih (Prod.ext rfl last)
    refine ⟨t ++ entryToo, restToo, ?_, ?_, left⟩
    · rw [splitEntry_append_of_white whiteToo, splitsToo]
    · rw [← show s ++ _ = entry from later]
      exact .space white whiteToo allowed entries
  | @cons token tokens others solid left ih =>
    rw [Grammar.splitEntry] at splits ⊢
    split
    next ends =>
      rw [if_pos ends] at splits
      cases splits
      exact ⟨[], others, rfl, .nil, left⟩
    next goesOn =>
      rw [if_neg goesOn] at splits
      obtain ⟨later, last⟩ := Prod.ext_iff.1 splits
      obtain ⟨entryToo, restToo, splitsToo, entries, left⟩ := ih (Prod.ext rfl last)
      refine ⟨token :: entryToo, restToo, by rw [splitsToo], ?_, left⟩
      rw [← show token :: _ = entry from later]
      exact .cons solid entries

end Respaced

end TableQuery.Grammar
