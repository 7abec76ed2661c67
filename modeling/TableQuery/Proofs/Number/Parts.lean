/-! What is done with two numbers, seen on their parts in the library's model of the format. A sum is
the same with its terms exchanged, and a comparison is turned. -/

namespace TableQuery.Number

open Float.Model UnpackedFloat

def unpacked (n : Float) : UnpackedFloat := n.toModel.unpack

def packed (parts : UnpackedFloat) : Float := .ofModel (pack parts)

theorem add_eq (m n : Float) :
    m + n = packed (UnpackedFloat.add .binary64 (unpacked m) (unpacked n)) := rfl

theorem div_eq (m n : Float) :
    m / n = packed (UnpackedFloat.div .binary64 (unpacked m) (unpacked n)) := rfl

theorem lt_iff {m n : Float} : m < n ↔ ((unpacked m).compare (unpacked n) == some .lt) = true :=
  decide_eq_true_iff

theorem beq_eq (m n : Float) : (m == n) = ((unpacked m).compare (unpacked n) == some .eq) := rfl

theorem add_finite (s t : Sign) {m n : Nat} (e f : Int) (hm : 0 < m) (hn : 0 < n) :
    UnpackedFloat.add .binary64 (.finite s m e hm) (.finite t n f hn) =
      normalize .binary64 (s.apply (decreaseExponent m e (min e f)).1 +
        t.apply (decreaseExponent n f (min e f)).1) (min e f) .positive := rfl

theorem add_parts_comm (a b : UnpackedFloat) :
    UnpackedFloat.add .binary64 a b = UnpackedFloat.add .binary64 b a := by
  cases a with
  | notANumber => cases b <;> rfl
  | infinity s =>
    cases b with
    | infinity t => cases s <;> cases t <;> rfl
    | notANumber | zero t | finite t => rfl
  | zero s =>
    cases b with
    | zero t => cases s <;> cases t <;> rfl
    | notANumber | infinity t | finite t => rfl
  | finite s m e =>
    cases b with
    | finite t n f => rw [add_finite, add_finite, Int.min_comm f e, Int.add_comm]
    | notANumber | infinity t | zero t => rfl

theorem compare_magnitudes_swap (e f : Int) (m n : Nat) :
    (compare e f).then (compare m n) = ((compare f e).then (compare n m)).swap := by
  rw [Ordering.swap_then, ← Std.OrientedCmp.eq_swap, ← Std.OrientedCmp.eq_swap]

theorem compare_parts_swap (a b : UnpackedFloat) :
    a.compare b = (b.compare a).map Ordering.swap := by
  cases a with
  | notANumber => cases b <;> rfl
  | infinity s =>
    cases b with
    | infinity t | finite t => cases s <;> cases t <;> rfl
    | notANumber | zero t => cases s <;> rfl
  | zero s =>
    cases b with
    | infinity t | finite t => cases t <;> rfl
    | notANumber | zero t => rfl
  | finite s m e =>
    cases b with
    | infinity t => cases s <;> cases t <;> rfl
    | notANumber | zero t => cases s <;> rfl
    | finite t n f =>
      have turned := compare_magnitudes_swap e f m n
      cases s with
      | positive =>
        cases t with
        | positive => exact congrArg some turned
        | negative => rfl
      | negative =>
        cases t with
        | positive => rfl
        | negative => exact congrArg (fun order => some order.swap) turned

theorem float_add_comm (m n : Float) : m + n = n + m := by
  rw [add_eq, add_eq, add_parts_comm]

theorem float_beq_comm (m n : Float) : (m == n) = (n == m) := by
  rw [beq_eq, beq_eq, compare_parts_swap]
  cases (unpacked n).compare (unpacked m) with
  | none => rfl
  | some order => cases order <;> rfl

end TableQuery.Number
