import TableQuery.Coercion
import TableQuery.Proofs.List
import TableQuery.Query.Cursor

/-! The text of a run of tokens that has comments in it. Comments are part of the text, which stands for
another value than it does with a space in the place of each comment. -/

namespace TableQuery

open Sql (Comment Token)

namespace Sql

def Token.isComment : Token → Bool
  | comment _ => true
  | _ => false

def Token.uncommented : Token → Token
  | comment _ => blank .space
  | token => token

def uncomment (tokens : List Token) : List Token := tokens.map Token.uncommented

@[simp] theorem uncomment_nil : uncomment [] = [] := rfl

@[simp] theorem uncomment_cons (token : Token) (tokens : List Token) :
    uncomment (token :: tokens) = token.uncommented :: uncomment tokens := rfl

theorem Token.uncommented_of_not_comment {token : Token} (other : token.isComment = false) :
    token.uncommented = token := by
  cases token with
  | comment => cases other
  | _ => rfl

theorem Token.uncommented_of_solid {token : Token} (solid : token.isSpace = false) :
    token.uncommented = token := by
  cases token with
  | comment => cases solid
  | _ => rfl

@[simp] theorem Token.isSpace_uncommented (token : Token) :
    token.uncommented.isSpace = token.isSpace := by
  cases token <;> rfl

theorem uncomment_eq_self {tokens : List Token}
    (others : ∀ token ∈ tokens, token.isComment = false) : uncomment tokens = tokens := by
  rw [uncomment, List.map_congr_left fun token member =>
    Token.uncommented_of_not_comment (others token member), List.map_id']

inductive Opening : Char → Char → Prop
  | line : Opening '-' '-'
  | block : Opening '/' '*'

theorem Comment.exists_opening (comment : Comment) :
    ∃ a b rest, Opening a b ∧ comment.text.toList = a :: b :: rest := by
  cases comment with
  | line body => exact ⟨'-', '-', body.toList, .line, by simp [Comment.text]⟩
  | block body => exact ⟨'/', '*', body.toList ++ ['*', '/'], .block, by simp [Comment.text]⟩

end Sql

open Sql (Opening uncomment)

/-! ### Numbers -/

namespace Number

/-- The reader of a number has the opening of a comment before it, or its second character next. -/
def Blocked (a b : Char) (s : List Char) : Prop := [a, b] <:+: s ∨ [b] <+: s

theorem Blocked.dropDigits {a b : Char} {s : List Char} (opens : Opening a b)
    (blocked : Blocked a b s) : Blocked a b (s.dropWhile Char.isDigit) := by
  obtain inside | ⟨rest, rfl⟩ := blocked
  · exact .inl (infix_dropWhile (by cases opens <;> rfl) inside)
  · refine .inr ⟨rest, ?_⟩
    cases opens <;> rfl

theorem Blocked.tail {a b c : Char} {s : List Char} (inside : [a, b] <:+: c :: s) :
    Blocked a b s := by
  obtain first | later := List.infix_cons_iff.1 inside
  · exact .inr (List.cons_prefix_cons.1 first).2
  · exact .inl later

theorem blocked_splitSign {a b : Char} {s : List Char} (inside : [a, b] <:+: s) :
    Blocked a b (splitSign s).2 := by
  unfold splitSign
  split
  · exact .tail inside
  · exact .tail inside
  · exact .inl inside

theorem Blocked.splitFraction {a b : Char} {s : List Char} (opens : Opening a b)
    (blocked : Blocked a b s) : Blocked a b (splitFraction s).2 := by
  unfold Number.splitFraction
  split
  next rest =>
    refine .dropDigits opens (.tail (blocked.resolve_right fun first => ?_))
    have second := (List.cons_prefix_cons.1 first).1
    cases opens <;> cases second
  · exact blocked

theorem Blocked.not_digits {a b : Char} {s : List Char} (opens : Opening a b)
    (blocked : Blocked a b s) : s.all Char.isDigit = false := by
  have second : b ∈ s := by
    obtain inside | first := blocked
    · exact inside.subset (by simp)
    · exact first.subset (by simp)
  refine List.all_eq_false.2 ⟨b, second, ?_⟩
  cases opens <;> decide

theorem Blocked.readExponent {a b : Char} {s : List Char} (opens : Opening a b)
    (blocked : Blocked a b s) : readExponent s = none := by
  unfold Number.readExponent
  split
  next =>
    obtain inside | first := blocked
    · cases List.eq_nil_of_infix_nil inside
    · cases List.prefix_nil.1 first
  next c rest =>
    refine if_neg ?_
    rintro ⟨mark, -, digits⟩
    -- The mark of an exponent is neither character, so that both are still to come.
    obtain inside | first := blocked
    · obtain first | later := List.infix_cons_iff.1 inside
      · have same := (List.cons_prefix_cons.1 first).1
        cases opens <;> simp [← same] at mark
      · exact absurd digits (Bool.eq_false_iff.1 ((blocked_splitSign later).not_digits opens))
    · have same := (List.cons_prefix_cons.1 first).1
      cases opens <;> simp [← same] at mark

theorem Decimal.read?_eq_none {a b : Char} {s : List Char} (opens : Opening a b)
    (inside : [a, b] <:+: s) : Decimal.read? s = none := by
  have rest := ((blocked_splitSign inside).dropDigits opens).splitFraction opens
  simp only [Decimal.read?, rest.readExponent opens, Option.map_none, ite_self]

end Number

/-! ### Texts of runs -/

namespace Text

theorem infix_trim {a b : Char} {s : List Char} (first : isWhite a = false)
    (second : isWhite b = false) (inside : [a, b] <:+: s) : [a, b] <:+: trim s := by
  have started : [a, b] <:+: trimStart s := infix_dropWhile first inside
  have reversed : [b, a] <:+: (trimStart s).reverse := List.reverse_infix.2 started
  exact List.reverse_infix.1 (by simpa [trim, trimEnd] using infix_dropWhile second reversed)

theorem countP_trim {q : Char → Bool} (apart : ∀ c, isWhite c = true → q c = false)
    (s : List Char) : (trim s).countP q = s.countP q := by
  rw [trim, trimEnd, List.countP_reverse, countP_dropWhile apart, List.countP_reverse, trimStart,
    countP_dropWhile apart]

end Text

/-- Comments begin with these characters. A text with more of them stands for another value, whether or not
it loses its quotes. -/
def isMark (c : Char) : Bool := c = '-' || c = '/'

def marks (s : String) : Nat := s.toList.countP isMark

theorem isMark_of_white (c : Char) (white : Text.isWhite c = true) : isMark c = false := by
  refine Bool.eq_false_iff.2 fun mark => ?_
  obtain rfl | rfl : c = '-' ∨ c = '/' := by simpa [isMark] using mark
  · cases white
  · cases white

theorem marks_of_coerceText {s t : String} (means : coerceText s = .text t) : marks t = marks s := by
  unfold coerceText at means
  split at means
  next inner quoted =>
    cases means
    unfold stripQuotes? at quoted
    split at quoted
    · cases quoted
    next quote rest written =>
      split at quoted
      next quotes =>
        obtain ⟨isQuote, last⟩ := quotes
        cases quoted
        obtain ⟨inner, rfl⟩ := List.getLast?_eq_some_iff.1 last
        have noMark : isMark quote = false := by
          obtain rfl | rfl := isQuote <;> rfl
        simp [marks, written, noMark]
      next => cases quoted
  next =>
    split at means
    · cases means
    · cases means
      rfl

namespace Grammar

theorem marks_spanText (run : List Token) :
    marks (spanText run) = (run.flatMap (·.text.toList)).countP isMark := by
  rw [marks, spanText, String.toList_ofList, Text.countP_trim isMark_of_white]

theorem marks_space_lt (comment : Comment) :
    marks (Token.blank .space).text < marks (Token.comment comment).text := by
  obtain ⟨a, b, rest, opens, written⟩ := comment.exists_opening
  have space : marks (Token.blank .space).text = 0 := by decide
  rw [space, marks, Token.text, written]
  cases opens <;> simp [isMark]

theorem marks_uncommented_le (token : Token) : marks token.uncommented.text ≤ marks token.text := by
  cases token with
  | comment comment => exact (marks_space_lt comment).le
  | _ => exact le_rfl

theorem countP_uncomment_le (run : List Token) :
    ((uncomment run).flatMap (·.text.toList)).countP isMark ≤
      (run.flatMap (·.text.toList)).countP isMark := by
  induction run with
  | nil => exact le_rfl
  | cons token run ih =>
    rw [Sql.uncomment_cons, List.flatMap_cons, List.flatMap_cons, List.countP_append,
      List.countP_append]
    exact Nat.add_le_add (marks_uncommented_le token) ih

theorem marks_spanText_uncomment_lt {run : List Token} {comment : Comment}
    (member : .comment comment ∈ run) :
    marks (spanText (uncomment run)) < marks (spanText run) := by
  obtain ⟨before, after, rfl⟩ := List.append_of_mem member
  have first := countP_uncomment_le before
  have own : (Token.comment comment).uncommented.text.toList.countP isMark <
      (Token.comment comment).text.toList.countP isMark := marks_space_lt comment
  have last := countP_uncomment_le after
  rw [uncomment] at first last
  rw [marks_spanText, marks_spanText, uncomment, List.map_append, List.map_cons]
  simp only [List.flatMap_append, List.flatMap_cons, List.countP_append]
  omega

theorem spanText_uncomment_eq_iff {run : List Token} :
    spanText run = spanText (uncomment run) ↔ ∀ token ∈ run, token.isComment = false := by
  constructor
  · intro same token member
    cases token with
    | comment => exact absurd (congrArg marks same) (marks_spanText_uncomment_lt member).ne'
    | _ => rfl
  · intro others
    rw [Sql.uncomment_eq_self others]

theorem decimalNumber?_spanText {run : List Token} {comment : Comment}
    (member : .comment comment ∈ run) : decimalNumber? (spanText run).toList = none := by
  obtain ⟨a, b, rest, opens, written⟩ := comment.exists_opening
  have first : Text.isWhite a = false := by cases opens <;> rfl
  have second : Text.isWhite b = false := by cases opens <;> rfl
  have inside : [a, b] <:+: run.flatMap (·.text.toList) := by
    have own : [a, b] <:+: (Token.comment comment).text.toList :=
      ⟨[], rest, by simp [Token.text, written]⟩
    rw [List.flatMap_def]
    exact own.trans (List.infix_of_mem_flatten (List.mem_map.2 ⟨_, member, rfl⟩))
  have trimmed := Text.infix_trim first second (Text.infix_trim first second inside)
  rw [spanText, String.toList_ofList]
  exact decimalNumber?_eq_none (Number.Decimal.read?_eq_none opens trimmed)

theorem coerceText_uncomment_ne {run : List Token} {comment : Comment}
    (member : .comment comment ∈ run) :
    coerceText (spanText run) ≠ coerceText (spanText (uncomment run)) := by
  obtain ⟨t, means⟩ : ∃ t, coerceText (spanText run) = .text t := by
    unfold coerceText
    rw [decimalNumber?_spanText member]
    split
    · exact ⟨_, rfl⟩
    · exact ⟨_, rfl⟩
  intro same
  have fewer := marks_spanText_uncomment_lt member
  rw [← marks_of_coerceText means, ← marks_of_coerceText (same.symm.trans means)] at fewer
  exact lt_irrefl _ fewer

theorem coerceText_uncomment_eq_iff {run : List Token} :
    coerceText (spanText run) = coerceText (spanText (uncomment run)) ↔
      ∀ token ∈ run, token.isComment = false := by
  constructor
  · intro same token member
    cases token with
    | comment => exact absurd same (coerceText_uncomment_ne member)
    | _ => rfl
  · intro others
    rw [Sql.uncomment_eq_self others]

end Grammar

end TableQuery
