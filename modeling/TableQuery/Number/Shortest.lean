import TableQuery.Number.Decimal

/-! The shortest decimal that reads back as a given number. Of two equally short ones the nearer
wins; when both are equally near, the tie rule of the output format decides. -/

namespace TableQuery.Number

inductive Tie where
  | up
  | even
  deriving DecidableEq

/-- Every magnitude is a decimal: a negative power of two is a power of five over one of ten. -/
def exactDecimal (negative : Bool) (index : Nat) : Decimal :=
  let value := magnitude index
  let twos := Nat.pow 2 value.exponent.toNat
  let fives := Nat.pow 5 (-value.exponent).toNat
  ⟨negative, value.significand * twos * fives, min value.exponent 0⟩

def Decimal.readsAs (d : Decimal) (index : Nat) : Bool := d.index == index

def Decimal.below (exact : Decimal) (dropped : Nat) : Decimal :=
  ⟨exact.negative, exact.coefficient / Nat.pow 10 dropped, exact.exponent + dropped⟩

def Decimal.above (exact : Decimal) (dropped : Nat) : Decimal :=
  ⟨exact.negative, exact.coefficient / Nat.pow 10 dropped + 1, exact.exponent + dropped⟩

def nearer (tie : Tie) (exact : Decimal) (dropped : Nat) : Decimal :=
  let rest := exact.coefficient % Nat.pow 10 dropped
  if 2 * rest < Nat.pow 10 dropped then exact.below dropped
  else if 2 * rest = Nat.pow 10 dropped ∧ tie = .even ∧
      (exact.below dropped).coefficient % 2 = 0 then
    exact.below dropped
  else exact.above dropped

def shortestFrom (tie : Tie) (index : Nat) (exact : Decimal) : Nat → Decimal
  | 0 => exact
  | dropped + 1 =>
    let below := exact.below (dropped + 1)
    let above := exact.above (dropped + 1)
    if below.readsAs index then
      if above.readsAs index then nearer tie exact (dropped + 1) else below
    else if above.readsAs index then above
    else shortestFrom tie index exact dropped

def stripZeros (coefficient : Nat) (exponent : Int) : Nat → Nat × Int
  | 0 => (coefficient, exponent)
  | limit + 1 =>
    if coefficient % 10 = 0 then stripZeros (coefficient / 10) (exponent + 1) limit
    else (coefficient, exponent)

def Decimal.normalize (d : Decimal) : Decimal :=
  let (coefficient, exponent) :=
    stripZeros d.coefficient d.exponent (digits d.coefficient).length
  ⟨d.negative, coefficient, exponent⟩

def shortest (tie : Tie) (n : Float) : Decimal :=
  let exact := exactDecimal (isNegative n) (magnitudeIndex n)
  (shortestFrom tie (magnitudeIndex n) exact ((digits exact.coefficient).length - 1)).normalize

end TableQuery.Number
