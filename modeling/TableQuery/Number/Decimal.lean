import TableQuery.Number.Binary64

/-! Decimal numbers, the 64-bit number nearest to one, and the texts that spell one: digits with
an optional sign, an optional point and an optional exponent. -/

namespace TableQuery.Number

/-- The value `coefficient · 10 ^ exponent`, negated when `negative`. -/
structure Decimal where
  negative : Bool
  coefficient : Nat
  exponent : Int
  deriving DecidableEq

def digits (n : Nat) : List Char := Nat.toDigits 10 n

def ofDigits (s : List Char) : Nat := Nat.ofDigitChars 10 s 0

@[simp] theorem ofDigits_digits (n : Nat) : ofDigits (digits n) = n :=
  Nat.ofDigitChars_ten_toDigits

/-- Magnitudes from 10 ^ 310 up are nearest to infinity and those below 10 ^ -330 to zero, so
an exponent of any size costs no more than these. -/
def Decimal.index (d : Decimal) : Nat :=
  let size := (digits d.coefficient).length + d.exponent
  if d.coefficient = 0 then 0
  else if 310 < size then infinityIndex
  else if size < -330 then 0
  else
    nearestIndex (d.coefficient * Nat.pow 10 d.exponent.toNat) (Nat.pow 10 (-d.exponent).toNat)

def Decimal.toFloat (d : Decimal) : Float := ofIndex d.negative d.index

def ofNat (n : Nat) : Float := (Decimal.mk false n 0).toFloat

def splitSign : List Char → Bool × List Char
  | '-' :: rest => (true, rest)
  | '+' :: rest => (false, rest)
  | s => (false, s)

def splitFraction : List Char → List Char × List Char
  | '.' :: rest => (rest.takeWhile Char.isDigit, rest.dropWhile Char.isDigit)
  | s => ([], s)

def readExponent : List Char → Option Int
  | [] => some 0
  | c :: rest =>
    let (negative, power) := splitSign rest
    if (c = 'e' ∨ c = 'E') ∧ power ≠ [] ∧ power.all Char.isDigit then
      some (if negative then -(ofDigits power : Int) else ofDigits power)
    else none

def Decimal.read? (s : List Char) : Option Decimal :=
  let (negative, unsigned) := splitSign s
  let whole := unsigned.takeWhile Char.isDigit
  let (fraction, rest) := splitFraction (unsigned.dropWhile Char.isDigit)
  if whole = [] ∧ fraction = [] then none
  else (readExponent rest).map fun power =>
    ⟨negative, ofDigits (whole ++ fraction), power - fraction.length⟩

end TableQuery.Number
