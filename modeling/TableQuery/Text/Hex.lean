/-! Hexadecimal digits: reading takes either case, writing gives lower case. -/

namespace TableQuery.Text

def hexDigit? (c : Char) : Option Nat :=
  if '0' ≤ c ∧ c ≤ '9' then some (c.toNat - 48)
  else if 'a' ≤ c ∧ c ≤ 'f' then some (c.toNat - 87)
  else if 'A' ≤ c ∧ c ≤ 'F' then some (c.toNat - 55)
  else none

def isHexDigit (c : Char) : Bool := (hexDigit? c).isSome

def hexValue? (s : List Char) : Option Nat :=
  s.foldlM (fun value c => (hexDigit? c).map (16 * value + ·)) 0

def hexText (n : Nat) : List Char := Nat.toDigits 16 n

@[simp] theorem hexValue?_nil : hexValue? [] = some 0 := rfl

def charOfCode? (code : Nat) : Option Char :=
  if code < 0xD800 ∨ (0xDFFF < code ∧ code < 0x110000) then some (Char.ofNat code) else none

end TableQuery.Text
