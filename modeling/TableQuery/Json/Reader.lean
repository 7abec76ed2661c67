import TableQuery.Text.Hex
import TableQuery.Value

/-! JSON text read as a value: null, a number or a string. Other JSON values are refused. Each
reader takes its part off the front of the text and returns the rest. What was read is then tried
as each kind of value in turn. -/

namespace TableQuery.Json

def skipBlanks (s : List Char) : List Char :=
  s.dropWhile fun c => c == ' ' || c == '\n' || c == '\t' || c == '\r'

def readUnit? : List Char → Option (Nat × List Char)
  | a :: b :: c :: d :: rest => (Text.hexValue? [a, b, c, d]).map (·, rest)
  | _ => none

theorem readUnit?_length {s rest : List Char} {unit : Nat} (h : readUnit? s = some (unit, rest)) :
    rest.length < s.length := by
  unfold readUnit? at h
  split at h
  next a b c d tail =>
    obtain ⟨value, -, heq⟩ := Option.map_eq_some_iff.1 h
    simp only [Prod.mk.injEq] at heq
    simp only [← heq.2, List.length_cons]
    omega
  next => contradiction

/-- A code unit from 0xD800 to 0xDBFF is completed by one from 0xDC00 to 0xDFFF, and neither
stands alone. -/
def readCode? (s : List Char) : Option (Char × List Char) :=
  match readUnit? s with
  | none => none
  | some (unit, rest) =>
    if 0xD800 ≤ unit ∧ unit ≤ 0xDBFF then
      match rest with
      | '\\' :: 'u' :: rest =>
        match readUnit? rest with
        | some (low, rest) =>
          if 0xDC00 ≤ low ∧ low ≤ 0xDFFF then
            some (Char.ofNat (0x10000 + (unit - 0xD800) * 0x400 + (low - 0xDC00)), rest)
          else none
        | none => none
      | _ => none
    else (Text.charOfCode? unit).map (·, rest)

theorem readCode?_length {s rest : List Char} {c : Char} (h : readCode? s = some (c, rest)) :
    rest.length < s.length := by
  unfold readCode? at h
  split at h
  next => contradiction
  next unit tail hunit =>
    have hlt := readUnit?_length hunit
    split at h
    · split at h
      · split at h
        · split at h
          · next low after hlow _ =>
            have := readUnit?_length hlow
            simp only [Option.some.injEq, Prod.mk.injEq] at h
            simp only [List.length_cons] at hlt
            rw [← h.2]
            omega
          · contradiction
        · contradiction
      · contradiction
    · obtain ⟨value, -, heq⟩ := Option.map_eq_some_iff.1 h
      simp only [Prod.mk.injEq] at heq
      rw [← heq.2]
      exact hlt

def readEscape? : List Char → Option (Char × List Char)
  | '"' :: rest => some ('"', rest)
  | '\\' :: rest => some ('\\', rest)
  | '/' :: rest => some ('/', rest)
  | 'b' :: rest => some ('\x08', rest)
  | 'f' :: rest => some ('\x0c', rest)
  | 'n' :: rest => some ('\n', rest)
  | 'r' :: rest => some ('\r', rest)
  | 't' :: rest => some ('\t', rest)
  | 'u' :: rest => readCode? rest
  | _ => none

theorem readEscape?_length {s rest : List Char} {c : Char} (h : readEscape? s = some (c, rest)) :
    rest.length < s.length := by
  unfold readEscape? at h
  split at h
  case h_9 =>
    have := readCode?_length h
    simp only [List.length_cons]
    omega
  case h_10 => contradiction
  all_goals
    simp only [Option.some.injEq, Prod.mk.injEq] at h
    simp [← h.2]

def readString? (s : List Char) : Option (List Char × List Char) :=
  match s with
  | [] => none
  | c :: rest =>
    if c = '"' then some ([], rest)
    else if c = '\\' then
      match _h : readEscape? rest with
      | some (decoded, after) => (readString? after).map fun (text, tail) => (decoded :: text, tail)
      | none => none
    else if c.toNat < 0x20 then none
    else (readString? rest).map fun (text, tail) => (c :: text, tail)
termination_by s.length
decreasing_by
  · have := readEscape?_length _h
    simp only [List.length_cons]
    omega
  · simp

structure Numeral where
  negative : Bool
  whole : List Char
  fraction : List Char
  power : Option Int

def readWhole? (s : List Char) : Option (List Char × List Char) :=
  match s.takeWhile Char.isDigit, s.dropWhile Char.isDigit with
  | [], _ => none
  | '0' :: _ :: _, _ => none
  | whole, rest => some (whole, rest)

def readFraction? : List Char → Option (List Char × List Char)
  | '.' :: s =>
    match s.takeWhile Char.isDigit, s.dropWhile Char.isDigit with
    | [], _ => none
    | fraction, rest => some (fraction, rest)
  | s => some ([], s)

def readPower? (s : List Char) : Option (Option Int × List Char) :=
  match s with
  | c :: rest =>
    if c = 'e' ∨ c = 'E' then
      let (negative, s) := Number.splitSign rest
      match s.takeWhile Char.isDigit, s.dropWhile Char.isDigit with
      | [], _ => none
      | power, rest =>
        let size : Int := Number.ofDigits power
        some (some (if negative then -size else size), rest)
    else some (none, s)
  | [] => some (none, s)

def readNumeral? (s : List Char) : Option (Numeral × List Char) := do
  let (negative, s) := match s with
    | '-' :: rest => (true, rest)
    | s => (false, s)
  let (whole, s) ← readWhole? s
  let (fraction, s) ← readFraction? s
  let (power, s) ← readPower? s
  pure (⟨negative, whole, fraction, power⟩, s)

/-- Extends the significand by digits for as long as it stays below 2 ^ 64, and returns the
digits that no longer fit. -/
def absorb (significand : Nat) : List Char → Nat × List Char
  | [] => (significand, [])
  | d :: rest =>
    let next := 10 * significand + (d.toNat - '0'.toNat)
    if next < Nat.pow 2 64 then absorb next rest else (significand, d :: rest)

def powerOfTen (k : Nat) : Float := (Number.Decimal.mk false 1 k).toFloat

/-- Division by a power of ten, in steps of at most 10 ^ 308. -/
def scaleDown (n : Float) (k : Nat) : Float :=
  if k ≤ 308 then n / powerOfTen k
  else if n == 0 then n
  else scaleDown (n / powerOfTen 308) (k - 308)
termination_by k

def scale? (n : Float) (power : Int) : Option Float :=
  if power < 0 then some (scaleDown n (-power).toNat)
  else if power ≤ 308 then (some (n * powerOfTen power.toNat)).filter Number.isFinite
  else if n == 0 then some n
  else none

/-- A number without a point and an exponent stays whole if it fits in 64 bits. -/
inductive Scalar where
  | null
  | whole (negative : Bool) (size : Nat)
  | float (n : Float)
  | text (s : String)

/-- Digits past the 64-bit significand count as places: those of the whole part raise the power
of ten and those of the fraction are dropped. -/
def Numeral.scalar? (numeral : Numeral) : Option Scalar :=
  let (significand, excess) := absorb 0 numeral.whole
  if numeral.fraction = [] ∧ numeral.power = none ∧ excess = [] then
    some (.whole numeral.negative significand)
  else
    let (scaled, dropped) := absorb significand numeral.fraction
    let power : Int := excess.length - (numeral.fraction.length - dropped.length : Nat) +
      numeral.power.getD 0
    let magnitude := (Number.Decimal.mk false scaled 0).toFloat
    let signed (n : Float) : Float := if numeral.negative then -n else n
    (scale? magnitude power).map fun n => .float (signed n)

def readNumber? (s : List Char) : Option (Scalar × List Char) := do
  let (numeral, rest) ← readNumeral? s
  let scalar ← numeral.scalar?
  pure (scalar, rest)

def readScalar? : List Char → Option (Scalar × List Char)
  | 'n' :: 'u' :: 'l' :: 'l' :: rest => some (.null, rest)
  | '"' :: rest => (readString? rest).map fun (text, tail) => (.text (String.ofList text), tail)
  | s => readNumber? s

namespace Scalar

def asNull? : Scalar → Option Value
  | null => some .null
  | _ => none

def asNumber? : Scalar → Option Value
  | whole negative size => some (.number (Number.Decimal.mk negative size 0).toFloat)
  | float n => some (.number n)
  | _ => none

def asText? : Scalar → Option Value
  | text s => some (.text s)
  | _ => none

def value? (scalar : Scalar) : Option Value :=
  scalar.asNull?.or (scalar.asNumber?.or scalar.asText?)

end Scalar

def readValue? (s : List Char) : Option Value :=
  match readScalar? (skipBlanks s) with
  | some (scalar, rest) => if skipBlanks rest = [] then scalar.value? else none
  | none => none

end TableQuery.Json
