import TableQuery.Text.Ranges

/-! White space, with the characters of that property listed in full, and texts with the
white space at both ends removed. -/

namespace TableQuery.Text

def whiteSpaceRanges : Ranges := [
  (0x09, 0x0D), (0x20, 0x20), (0x85, 0x85), (0xA0, 0xA0), (0x1680, 0x1680), (0x2000, 0x200A),
  (0x2028, 0x2029), (0x202F, 0x202F), (0x205F, 0x205F), (0x3000, 0x3000)]

def isWhite (c : Char) : Bool := whiteSpaceRanges.contains c

def trimStart (s : List Char) : List Char := s.dropWhile isWhite

def trimEnd (s : List Char) : List Char := (s.reverse.dropWhile isWhite).reverse

def trim (s : List Char) : List Char := trimEnd (trimStart s)

@[simp] theorem trimStart_nil : trimStart [] = [] := rfl

@[simp] theorem trimEnd_nil : trimEnd [] = [] := rfl

@[simp] theorem trim_nil : trim [] = [] := rfl

theorem trimStart_cons_of_not_white {c : Char} (h : isWhite c = false) (s : List Char) :
    trimStart (c :: s) = c :: s := by
  simp [trimStart, h]

theorem trimEnd_concat_of_not_white {c : Char} (h : isWhite c = false) (s : List Char) :
    trimEnd (s ++ [c]) = s ++ [c] := by
  simp [trimEnd, h]

theorem trimStart_append_of_white {before : List Char} (white : ∀ c ∈ before, isWhite c = true)
    (s : List Char) : trimStart (before ++ s) = trimStart s :=
  List.dropWhile_append_of_pos white

theorem trimEnd_append_of_white {after : List Char} (white : ∀ c ∈ after, isWhite c = true)
    (s : List Char) : trimEnd (s ++ after) = trimEnd s := by
  have reversed : ∀ c ∈ after.reverse, isWhite c = true := by simpa using white
  rw [trimEnd, List.reverse_append, List.dropWhile_append_of_pos reversed, trimEnd]

theorem trim_append_of_white {before after : List Char} (s : List Char)
    (white : ∀ c ∈ before, isWhite c = true) (whiteToo : ∀ c ∈ after, isWhite c = true) :
    trim (before ++ s ++ after) = trim s := by
  rw [trim, List.append_assoc, trimStart_append_of_white white, trimStart, List.dropWhile_append]
  split
  next allWhite =>
    have nothing : after.dropWhile isWhite = [] := by
      simpa [trimStart] using trimStart_append_of_white whiteToo []
    have blank : trimStart s = [] := List.isEmpty_iff.1 allWhite
    rw [nothing, trim, blank]
  next => exact trimEnd_append_of_white whiteToo _

theorem trim_eq_self {c d : Char} {s : List Char} (hc : isWhite c = false)
    (hd : isWhite d = false) (hs : ∃ t, c :: s = t ++ [d]) : trim (c :: s) = c :: s := by
  obtain ⟨t, ht⟩ := hs
  rw [trim, trimStart_cons_of_not_white hc, ht, trimEnd_concat_of_not_white hd]

end TableQuery.Text
