import Mathlib
import TableQuery.Number.Binary64

/-! A number is its sign and the index of its magnitude, up to the index of infinity. The library's
model of the format keeps such bits as they are. Its lemmas on packing are in no part of Mathlib but
come with the whole of it, which this module imports for them. -/

namespace TableQuery.Number

open Float.Model UnpackedFloat

def bitsOf (negative : Bool) (index : Nat) : Nat := if negative then 2 ^ 63 + index else index

theorem toNat_bitsOf {index : Nat} (inside : index ≤ infinityIndex) (negative : Bool) :
    (UInt64.ofNat (bitsOf negative index)).toNat = bitsOf negative index := by
  have small : bitsOf negative index < 2 ^ 64 := by
    have bound : infinityIndex = 2047 * 2 ^ 52 := rfl
    rw [bitsOf]
    split <;> omega
  rw [UInt64.toNat_ofNat', Nat.mod_eq_of_lt small]

theorem toNat_unpackExponent (bits : UInt64) :
    (@unpackExponent Format.binary64 bits.toBitVec).toNat = bits.toNat / 2 ^ 52 % 2 ^ 11 := by
  rw [unpackExponent_def, BitVec.extractLsb'_toNat, Nat.shiftRight_eq_div_pow]
  rfl

theorem toNat_unpackMantissa (bits : UInt64) :
    (@unpackMantissa Format.binary64 bits.toBitVec).toNat = bits.toNat % 2 ^ 52 := by
  rw [unpackMantissa_def, BitVec.extractLsb'_toNat, Nat.shiftRight_zero]
  rfl

theorem isNaNBits_eq_false {bits : UInt64} (number : bits.toNat % 2 ^ 63 ≤ infinityIndex) :
    @isNaNBits Format.binary64 bits.toBitVec = false := by
  refine decide_eq_false ?_
  rintro ⟨exponent, mantissa⟩
  have high := congrArg BitVec.toNat exponent
  have low : (@unpackMantissa Format.binary64 bits.toBitVec).toNat ≠ 0 := fun zero =>
    mantissa (BitVec.eq_of_toNat_eq zero)
  have bound : infinityIndex = 2047 * 2 ^ 52 := rfl
  have ones : (-1#11 : BitVec 11).toNat = 2047 := rfl
  rw [toNat_unpackExponent] at high
  rw [toNat_unpackMantissa] at low
  change bits.toNat / 2 ^ 52 % 2 ^ 11 = 2047 at high
  omega

theorem toBits_ofBits {bits : UInt64} (number : bits.toNat % 2 ^ 63 ≤ infinityIndex) :
    (Float.ofBits bits).toBits = bits := by
  have kept := @pack_unpack Format.binary64 bits.toBitVec (by decide)
  rw [isNaNBits_eq_false number] at kept
  exact congrArg UInt64.ofBitVec kept

theorem bitsOf_mod {index : Nat} (inside : index ≤ infinityIndex) (negative : Bool) :
    bitsOf negative index % 2 ^ 63 = index ∧ (bitsOf negative index / 2 ^ 63 == 1) = negative := by
  have bound : infinityIndex = 2047 * 2 ^ 52 := rfl
  cases negative with
  | false =>
    have none : index / 2 ^ 63 = 0 := by omega
    simp only [bitsOf, Bool.false_eq_true, if_false, none]
    exact ⟨by omega, rfl⟩
  | true =>
    have one : (2 ^ 63 + index) / 2 ^ 63 = 1 := by omega
    simp only [bitsOf, if_true, one]
    exact ⟨by omega, rfl⟩

theorem toNat_toBits_ofIndex {index : Nat} (inside : index ≤ infinityIndex) (negative : Bool) :
    (ofIndex negative index).toBits.toNat = bitsOf negative index := by
  have bits := toNat_bitsOf inside negative
  have number : (UInt64.ofNat (bitsOf negative index)).toNat % 2 ^ 63 ≤ infinityIndex := by
    rw [bits, (bitsOf_mod inside negative).1]
    exact inside
  rw [← bits, ← toBits_ofBits number]
  rfl

theorem magnitudeIndex_ofIndex {index : Nat} (inside : index ≤ infinityIndex) (negative : Bool) :
    magnitudeIndex (ofIndex negative index) = index := by
  rw [magnitudeIndex, toNat_toBits_ofIndex inside]
  exact (bitsOf_mod inside negative).1

theorem isNegative_ofIndex {index : Nat} (inside : index ≤ infinityIndex) (negative : Bool) :
    isNegative (ofIndex negative index) = negative := by
  rw [isNegative, toNat_toBits_ofIndex inside]
  exact (bitsOf_mod inside negative).2

theorem ofIndex_magnitudeIndex (n : Float) : ofIndex (isNegative n) (magnitudeIndex n) = n := by
  have bits : UInt64.ofNat (bitsOf (isNegative n) (magnitudeIndex n)) = n.toBits := by
    have small := n.toBits.toNat_lt
    rw [← UInt64.toNat_inj, UInt64.toNat_ofNat', bitsOf, isNegative, magnitudeIndex, Nat.pow_eq]
    split
    next one =>
      have one := eq_of_beq one
      omega
    next none =>
      have none : n.toBits.toNat / 2 ^ 63 ≠ 1 := by simpa using none
      omega
  have whole : ofIndex (isNegative n) (magnitudeIndex n) =
      Float.ofBits (UInt64.ofNat (bitsOf (isNegative n) (magnitudeIndex n))) := rfl
  rw [whole, bits, Float.ofBits_toBits]

end TableQuery.Number
