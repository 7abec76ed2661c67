import TableQuery.Query.SelectList

/-! Where a select list is split. An entry goes on as long as the depth of its parentheses is kept
from zero, or no comma and no FROM comes, and the list is read entry by entry. -/

namespace TableQuery.Grammar

open Sql (Token)

/-- The depth after tokens that are all part of one entry. -/
def depthWithin (depth : Nat) : List Token → Option Nat
  | [] => some depth
  | token :: rest =>
    if depth = 0 ∧ endsEntry token then none else depthWithin (depthAfter depth token) rest

theorem depthWithin_append (depth : Nat) (tokens rest : List Token) :
    depthWithin depth (tokens ++ rest) =
      (depthWithin depth tokens).bind fun reached => depthWithin reached rest := by
  induction tokens generalizing depth with
  | nil => rfl
  | cons token tokens ih =>
    rw [List.cons_append, depthWithin, depthWithin]
    split
    · rfl
    · exact ih _

theorem splitEntry_eq_iff {depth : Nat} {tokens entry rest : List Token} {separator : Token} :
    splitEntry depth tokens = (entry, separator :: rest) ↔
      tokens = entry ++ separator :: rest ∧ depthWithin depth entry = some 0 ∧
        endsEntry separator = true := by
  induction tokens generalizing depth entry with
  | nil => simp [splitEntry]
  | cons token tokens ih =>
    rw [splitEntry]
    split
    next ends =>
      obtain ⟨rfl, ends⟩ := ends
      cases entry with
      | nil =>
        simp only [depthWithin, List.nil_append, Prod.mk.injEq, true_and, List.cons.injEq]
        constructor
        · rintro ⟨rfl, rfl⟩
          exact ⟨⟨rfl, rfl⟩, ends⟩
        · exact And.left
      | cons first entry =>
        simp only [Prod.mk.injEq, List.nil_eq, reduceCtorEq, false_and, List.cons_append,
          List.cons.injEq, false_iff]
        rintro ⟨⟨rfl, -⟩, within, -⟩
        simp [depthWithin, ends] at within
    next goesOn =>
      cases entry with
      | nil =>
        simp only [Prod.mk.injEq, reduceCtorEq, false_and, List.nil_append, List.cons.injEq,
          depthWithin, Option.some.injEq, false_iff]
        rintro ⟨⟨rfl, -⟩, rfl, ends⟩
        exact goesOn ⟨rfl, ends⟩
      | cons first entry =>
        simp only [Prod.mk.injEq, List.cons.injEq, List.cons_append, and_assoc]
        constructor
        · rintro ⟨rfl, same, after⟩
          obtain ⟨split, within, ends⟩ := ih.1 (Prod.ext same after)
          exact ⟨rfl, split, by rwa [depthWithin, if_neg goesOn], ends⟩
        · rintro ⟨rfl, split, within, ends⟩
          rw [depthWithin, if_neg goesOn] at within
          have found := ih.2 ⟨split, within, ends⟩
          exact ⟨rfl, congrArg Prod.fst found, congrArg Prod.snd found⟩

theorem selectList_of_split {tokens entry rest : List Token} {separator : Token}
    (splits : splitEntry 0 tokens = (entry, separator :: rest)) :
    selectList tokens = (entryField entry).bind fun field =>
      if separator = .symbol .comma then
        (selectList rest).map fun (fields, after) => (field :: fields, after)
      else .ok ([field], rest) := by
  rw [selectList]
  split
  next «open» => simp [«open»] at splits
  next same =>
    rw [same] at splits
    cases splits
    cases entryField entry with
    | error error => rfl
    | ok field =>
      dsimp only [Except.bind]
      split
      · cases selectList rest with
        | error error => rfl
        | ok read => rfl
      · rfl

theorem selectList_eq_ok_iff {tokens after : List Token} {fields : List Field} :
    selectList tokens = .ok (fields, after) ↔ ∃ entry separator rest field,
      splitEntry 0 tokens = (entry, separator :: rest) ∧ entryField entry = .ok field ∧
        ((separator = .symbol .comma ∧
            ∃ more, selectList rest = .ok (more, after) ∧ fields = field :: more) ∨
          (separator ≠ .symbol .comma ∧ fields = [field] ∧ after = rest)) := by
  rw [selectList]
  split
  next entry «open» => simp [«open»]
  next entry separator rest splits =>
    simp only [splits, Prod.mk.injEq, List.cons.injEq]
    constructor
    · intro read
      refine ⟨entry, separator, rest, ?_⟩
      split at read
      next => cases read
      next field understood =>
        refine ⟨field, ⟨rfl, rfl, rfl⟩, understood, ?_⟩
        split at read
        next comma =>
          refine .inl ⟨comma, ?_⟩
          split at read
          next more rest' readMore =>
            cases read
            exact ⟨more, readMore, rfl⟩
          next => cases read
        next other =>
          cases read
          exact .inr ⟨other, rfl, rfl⟩
    · rintro ⟨_, _, _, field, ⟨rfl, rfl, rfl⟩, understood, list | single⟩
      · obtain ⟨comma, more, readMore, rfl⟩ := list
        simp [understood, comma, readMore]
      · obtain ⟨other, rfl, rfl⟩ := single
        simp [understood, other]

/-- What holds of a list of one entry, and goes from what is left after a comma to the whole list, holds
of every list that is read. -/
@[elab_as_elim]
theorem selectList_induction {after : List Token} {motive : List Token → List Field → Prop}
    (last : ∀ {tokens entry : List Token} {separator : Token} {field : Field},
      splitEntry 0 tokens = (entry, separator :: after) → separator ≠ .symbol .comma →
      entryField entry = .ok field → motive tokens [field])
    (more : ∀ {tokens entry rest : List Token} {field : Field} {fields : List Field},
      splitEntry 0 tokens = (entry, .symbol .comma :: rest) → entryField entry = .ok field →
      motive rest fields → motive tokens (field :: fields))
    {tokens : List Token} {fields : List Field} (read : selectList tokens = .ok (fields, after)) :
    motive tokens fields := by
  induction fields generalizing tokens with
  | nil =>
    obtain ⟨_, _, _, _, -, -, ⟨_, _, _, lists⟩ | ⟨_, lists, -⟩⟩ := selectList_eq_ok_iff.1 read
    · cases lists
    · cases lists
  | cons field fields ih =>
    obtain ⟨entry, separator, rest, read, splits, understood, list | single⟩ :=
      selectList_eq_ok_iff.1 read
    · obtain ⟨rfl, others, readOthers, lists⟩ := list
      cases lists
      exact more splits understood (ih readOthers)
    · obtain ⟨other, lists, rfl⟩ := single
      cases lists
      exact last splits other understood

end TableQuery.Grammar
