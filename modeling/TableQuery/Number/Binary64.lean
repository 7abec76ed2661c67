/-! Numbers of the 64-bit binary format, addressed by the index of their magnitude. Index 0 is
zero, each next index is the next larger magnitude, and the finite ones end before infinity. -/

namespace TableQuery.Number

structure Dyadic where
  significand : Nat
  exponent : Int

def infinityIndex : Nat := 0x7FF * Nat.pow 2 52

def magnitudeIndex (n : Float) : Nat := n.toBits.toNat % Nat.pow 2 63

def isNegative (n : Float) : Bool := n.toBits.toNat / Nat.pow 2 63 == 1

def isFinite (n : Float) : Bool := magnitudeIndex n < infinityIndex

def isNaN (n : Float) : Bool := infinityIndex < magnitudeIndex n

def ofIndex (negative : Bool) (index : Nat) : Float :=
  Float.ofBits (UInt64.ofNat (if negative then Nat.pow 2 63 + index else index))

/-- The first 2 ^ 52 indices are the subnormal magnitudes; after them every 2 ^ 52 indices share
an exponent. -/
def magnitude (index : Nat) : Dyadic :=
  if index / Nat.pow 2 52 = 0 then ⟨index, -1074⟩
  else ⟨Nat.pow 2 52 + index % Nat.pow 2 52, index / Nat.pow 2 52 - 1075⟩

theorem magnitude_zero : magnitude 0 = ⟨0, -1074⟩ := rfl

/-- The quotient as a whole number, to the nearest and from the middle to the even one. -/
def roundHalfEven (num den : Nat) : Nat :=
  let below := num / den
  let rest := num % den
  if 2 * rest < den ∨ (2 * rest = den ∧ below % 2 = 0) then below else below + 1

def floorLog2 (num den : Nat) : Int :=
  let guess : Int := (num.log2 : Int) - den.log2
  if num * Nat.pow 2 (-guess).toNat < den * Nat.pow 2 guess.toNat then guess - 1 else guess

/-- The index of the magnitude nearest to `num / den`. Quotients past the largest finite
magnitude by half a step or more are nearest to infinity. -/
def nearestIndex (num den : Nat) : Nat :=
  let exponent := max (-1074) (floorLog2 num den - 52)
  let significand :=
    roundHalfEven (num * Nat.pow 2 (-exponent).toNat) (den * Nat.pow 2 exponent.toNat)
  min ((exponent + 1074).toNat * Nat.pow 2 52 + significand) infinityIndex

def wholeMagnitude? (index : Nat) : Option Nat :=
  let value := magnitude index
  let scaled := value.significand * Nat.pow 2 value.exponent.toNat
  let unit := Nat.pow 2 (-value.exponent).toNat
  if scaled % unit = 0 ∧ scaled / unit < Nat.pow 10 15 then some (scaled / unit) else none

end TableQuery.Number
