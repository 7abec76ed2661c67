import TableQuery.Proofs.Query.Respaced

/-! Lists of tokens that differ in their blanks only. The texts of two such lists differ in white
space only, so that a run of tokens with some text keeps some text. -/

namespace TableQuery

open Sql (Token)

namespace Sql

/-- Comments are white space to the grammar, but no blanks. -/
def Token.isBlank : Token → Bool
  | blank _ => true
  | _ => false

def withoutBlanks (tokens : List Token) : List Token := tokens.filter (!·.isBlank)

@[simp] theorem withoutBlanks_nil : withoutBlanks [] = [] := rfl

theorem withoutBlanks_append (tokens others : List Token) :
    withoutBlanks (tokens ++ others) = withoutBlanks tokens ++ withoutBlanks others :=
  List.filter_append ..

theorem withoutBlanks_cons_of_blank {token : Token} (blank : token.isBlank = true)
    (tokens : List Token) : withoutBlanks (token :: tokens) = withoutBlanks tokens :=
  List.filter_cons_of_neg (by simp [blank])

theorem withoutBlanks_cons_of_not_blank {token : Token} (other : token.isBlank = false)
    (tokens : List Token) : withoutBlanks (token :: tokens) = token :: withoutBlanks tokens :=
  List.filter_cons_of_pos (by simp [other])

theorem withoutBlanks_of_blanks {tokens : List Token}
    (blanks : ∀ token ∈ tokens, token.isBlank = true) : withoutBlanks tokens = [] :=
  List.filter_eq_nil_iff.2 fun token member => by simp [blanks token member]

theorem Token.isSpace_of_blank {token : Token} (blank : token.isBlank = true) :
    token.isSpace = true := by
  cases token with
  | blank => rfl
  | _ => cases blank

theorem Token.isBlank_of_solid {token : Token} (solid : token.isSpace = false) :
    token.isBlank = false := by
  cases token with
  | blank => cases solid
  | _ => rfl

theorem Token.white_of_blank {token : Token} (blank : token.isBlank = true) :
    ∀ c ∈ token.text.toList, Text.isWhite c = true := by
  cases token with
  | blank kind => exact List.all_eq_true.1 (by cases kind <;> decide)
  | _ => cases blank

end Sql

open Sql (withoutBlanks)

/-! ### Texts without white space -/

namespace Text

def solid (s : List Char) : List Char := s.filter (!isWhite ·)

theorem solid_dropWhile (s : List Char) : solid (s.dropWhile isWhite) = solid s := by
  induction s with
  | nil => rfl
  | cons c s ih =>
    rw [List.dropWhile_cons]
    split
    next white => rw [ih, solid, solid, List.filter_cons_of_neg (by simp [white])]
    next => rfl

theorem solid_trim (s : List Char) : solid (trim s) = solid s := by
  have reversed (s : List Char) : solid s.reverse = (solid s).reverse := List.filter_reverse ..
  rw [trim, trimEnd, reversed, solid_dropWhile, reversed, List.reverse_reverse, trimStart,
    solid_dropWhile]

theorem trim_eq_nil_iff {s : List Char} : trim s = [] ↔ solid s = [] := by
  constructor
  · intro blank
    rw [← solid_trim, blank]
    rfl
  · intro nothing
    have white : ∀ c ∈ s, isWhite c = true := by simpa [solid] using nothing
    have none : ∀ c ∈ ([] : List Char), isWhite c = true := nofun
    simpa using trim_append_of_white [] white none

end Text

def squeeze (text : String) : String := String.ofList (Text.solid text.toList)

namespace Grammar

theorem squeeze_spanText (run : List Token) :
    squeeze (spanText run) =
      String.ofList ((withoutBlanks run).flatMap fun token => Text.solid token.text.toList) := by
  rw [squeeze, spanText, String.toList_ofList, Text.solid_trim]
  congr 1
  induction run with
  | nil => rfl
  | cons token run ih =>
    rw [List.flatMap_cons, Text.solid, List.filter_append]
    cases blank : token.isBlank with
    | true =>
      have nothing : token.text.toList.filter (!Text.isWhite ·) = [] := by
        simpa using Sql.Token.white_of_blank blank
      rw [Sql.withoutBlanks_cons_of_blank blank, nothing, List.nil_append]
      exact ih
    | false =>
      rw [Sql.withoutBlanks_cons_of_not_blank blank, List.flatMap_cons]
      exact congrArg _ ih

theorem spanText_eq_empty_iff {run : List Token} :
    spanText run = "" ↔ squeeze (spanText run) = "" := by
  constructor
  · intro empty
    rw [empty]
    rfl
  · intro nothing
    have trimmed : Text.solid (spanText run).toList = [] := String.ofList_eq_empty_iff.1 nothing
    rw [spanText, String.toList_ofList, Text.solid_trim, ← Text.trim_eq_nil_iff] at trimmed
    rw [spanText, trimmed]

/-! ### Lists that differ in blanks -/

def SameButBlanks (tokens others : List Token) : Prop := withoutBlanks tokens = withoutBlanks others

theorem Respaced.sameButBlanks {tokens others : List Token}
    (h : Respaced SameButBlanks tokens others) : SameButBlanks tokens others := by
  unfold SameButBlanks
  induction h with
  | nil => rfl
  | space _ _ allowed _ ih => rw [Sql.withoutBlanks_append, Sql.withoutBlanks_append, allowed, ih]
  | cons solid _ ih =>
    have other := Sql.Token.isBlank_of_solid solid
    rw [Sql.withoutBlanks_cons_of_not_blank other, Sql.withoutBlanks_cons_of_not_blank other, ih]

theorem Respaced.cons_of_blanks {token : Token} {blanks tokens others : List Token}
    (white : ∀ token ∈ blanks, token.isBlank = true)
    (rest : Respaced SameButBlanks tokens others) :
    Respaced SameButBlanks (token :: tokens) (blanks ++ token :: others) := by
  have spaces : ∀ token ∈ blanks, token.isSpace = true := fun token member =>
    Sql.Token.isSpace_of_blank (white token member)
  cases space : token.isSpace with
  | true =>
    have same : SameButBlanks [token] (blanks ++ [token]) := by
      rw [SameButBlanks, Sql.withoutBlanks_append, Sql.withoutBlanks_of_blanks white,
        List.nil_append]
    have both : ∀ each ∈ blanks ++ [token], each.isSpace = true :=
      List.forall_mem_append.2 ⟨spaces, by simpa using space⟩
    simpa using Respaced.space (by simpa using space) both same rest
  | false =>
    have same : SameButBlanks [] blanks := (Sql.withoutBlanks_of_blanks white).symm
    exact .space (s := []) (by simp) spaces same (.cons space rest)

theorem SameButBlanks.respaced {tokens others : List Token} (same : SameButBlanks tokens others) :
    Respaced SameButBlanks tokens others := by
  -- The blanks of the other list go with the token after them, or with the end.
  induction tokens generalizing others with
  | nil =>
    have blanks : ∀ token ∈ others, token.isBlank = true := by
      simpa [withoutBlanks] using (show withoutBlanks others = [] from same.symm)
    have spaces : ∀ token ∈ others, token.isSpace = true := fun token member =>
      Sql.Token.isSpace_of_blank (blanks token member)
    simpa using Respaced.space (s := []) (by simp) spaces same .nil
  | cons token tokens ih =>
    cases blank : token.isBlank with
    | true =>
      have left : SameButBlanks tokens others :=
        (Sql.withoutBlanks_cons_of_blank blank _).symm.trans same
      have nothing : SameButBlanks [token] [] := Sql.withoutBlanks_cons_of_blank blank []
      have space := Sql.Token.isSpace_of_blank blank
      exact .space (s := [token]) (t := []) (by simpa using space) (by simp) nothing (ih left)
    | false =>
      obtain ⟨blanks, others, rfl, white, -, left⟩ :=
        List.filter_eq_cons_iff.1 (same.symm.trans (Sql.withoutBlanks_cons_of_not_blank blank _))
      exact .cons_of_blanks (fun each member => by simpa using white each member) (ih left.symm)

theorem SameButBlanks.squeeze_spanText {run other : List Token} (same : SameButBlanks run other) :
    squeeze (spanText run) = squeeze (spanText other) := by
  rw [Grammar.squeeze_spanText, Grammar.squeeze_spanText, same]

theorem SameButBlanks.spanText_eq_empty_iff {run other : List Token}
    (same : SameButBlanks run other) : spanText run = "" ↔ spanText other = "" := by
  rw [Grammar.spanText_eq_empty_iff, same.squeeze_spanText, ← Grammar.spanText_eq_empty_iff]

end Grammar

end TableQuery
