import TableQuery.Json.Printer
import TableQuery.Json.Reader
import TableQuery.Proofs.Number.Printed
import TableQuery.Proofs.Number.Zeros
import TableQuery.Proofs.Value.Equality

/-! Values that are written as JSON and read again. -/

namespace TableQuery.Json

open Number

/-! ### Texts -/

theorem readString?_plain {c : Char} (notQuote : c ≠ '"') (notBackslash : c ≠ '\\')
    (notControl : 0x20 ≤ c.toNat) (rest : List Char) :
    readString? (c :: rest) = (readString? rest).map fun (text, tail) => (c :: text, tail) := by
  rw [readString?, if_neg notQuote, if_neg notBackslash, if_neg (not_lt.2 notControl)]

theorem readString?_escaped {c : Char} {s rest : List Char} (escaped : readEscape? s = some (c, rest)) :
    readString? ('\\' :: s) = (readString? rest).map fun (text, tail) => (c :: text, tail) := by
  rw [readString?, if_neg (by decide), if_pos rfl]
  split
  next decoded after own =>
    obtain ⟨rfl, rfl⟩ := Prod.mk.inj (Option.some.inj (own.symm.trans escaped))
    rfl
  next own => rw [own] at escaped; contradiction

theorem readUnit?_hexText {code : Nat} (small : code < 0x10) (rest : List Char) :
    readUnit? ("000".toList ++ Text.hexText code ++ rest) = some (code, rest) := by
  have single : Text.hexText code = [Nat.digitChar code] := Nat.toDigits_of_lt_base small
  have value : Text.hexValue? ['0', '0', '0', Nat.digitChar code] = some code :=
    (by decide : ∀ code < 0x10, Text.hexValue? ['0', '0', '0', Nat.digitChar code] = some code)
      code small
  rw [single]
  change (Text.hexValue? ['0', '0', '0', Nat.digitChar code]).map (·, rest) = some (code, rest)
  rw [value]
  rfl

theorem readUnit?_hexText_two {code : Nat} (large : 0x10 ≤ code) (small : code < 0x20)
    (rest : List Char) : readUnit? ("00".toList ++ Text.hexText code ++ rest) = some (code, rest) := by
  obtain ⟨double, value⟩ : Text.hexText code = ['1', Nat.digitChar (code - 0x10)] ∧
      Text.hexValue? ['0', '0', '1', Nat.digitChar (code - 0x10)] = some code :=
    (by decide : ∀ code < 0x20, 0x10 ≤ code →
      Text.hexText code = ['1', Nat.digitChar (code - 0x10)] ∧
      Text.hexValue? ['0', '0', '1', Nat.digitChar (code - 0x10)] = some code) code small large
  rw [double]
  change (Text.hexValue? ['0', '0', '1', Nat.digitChar (code - 0x10)]).map (·, rest) =
    some (code, rest)
  rw [value]
  rfl

theorem readCode?_control {c : Char} {s rest : List Char} (small : c.toNat < 0x20)
    (unit : readUnit? s = some (c.toNat, rest)) : readCode? s = some (c, rest) := by
  have code : Text.charOfCode? c.toNat = some c := by
    rw [Text.charOfCode?, if_pos (.inl (by omega)), Char.ofNat_toNat]
  rw [readCode?, unit]
  dsimp only
  rw [if_neg (by omega), code]
  rfl

/-- A character is written as itself or as an escape that is read as the character. -/
theorem escape_cases (c : Char) :
    (∃ s, escape c = '\\' :: s ∧ ∀ rest, readEscape? (s ++ rest) = some (c, rest)) ∨
      (escape c = [c] ∧ c ≠ '"' ∧ c ≠ '\\' ∧ 0x20 ≤ c.toNat) := by
  rw [escape.eq_def]
  split
  · exact .inl ⟨_, rfl, fun _ => rfl⟩
  · exact .inl ⟨_, rfl, fun _ => rfl⟩
  · exact .inl ⟨_, rfl, fun _ => rfl⟩
  · exact .inl ⟨_, rfl, fun _ => rfl⟩
  · exact .inl ⟨_, rfl, fun _ => rfl⟩
  · exact .inl ⟨_, rfl, fun _ => rfl⟩
  · exact .inl ⟨_, rfl, fun _ => rfl⟩
  next notQuote notBackslash _ _ _ _ _ =>
    split
    next small =>
      exact .inl ⟨_, rfl, fun rest => readCode?_control (by omega) (readUnit?_hexText small rest)⟩
    next =>
      split
      next large small =>
        exact .inl ⟨_, rfl, fun rest =>
          readCode?_control small (readUnit?_hexText_two (by omega) small rest)⟩
      next => exact .inr ⟨rfl, notQuote, notBackslash, by omega⟩

theorem readString?_escape (c : Char) (rest : List Char) :
    readString? (escape c ++ rest) =
      (readString? rest).map fun (text, tail) => (c :: text, tail) := by
  rcases escape_cases c with ⟨s, written, reads⟩ | ⟨written, notQuote, notBackslash, notControl⟩
  · rw [written]
    exact readString?_escaped (reads rest)
  · rw [written]
    exact readString?_plain notQuote notBackslash notControl rest

theorem readString?_flatMap_escape (s rest : List Char) :
    readString? (s.flatMap escape ++ '"' :: rest) = some (s, rest) := by
  induction s with
  | nil => rw [List.flatMap_nil, List.nil_append, readString?, if_pos rfl]
  | cons c s ih => rw [List.flatMap_cons, List.append_assoc, readString?_escape, ih]; rfl

theorem readValue?_of_readScalar? {s : List Char} {scalar : Scalar}
    (solid : skipBlanks s = s) (read : readScalar? s = some (scalar, [])) :
    readValue? s = scalar.value? := by
  rw [readValue?, solid, read]
  rfl

theorem readValue?_text (s : String) : readValue? (valueText (.text s)) = some (.text s) := by
  have read : readScalar? (valueText (.text s)) = some (.text s, []) := by
    rw [valueText, quoted, List.cons_append, readScalar?, readString?_flatMap_escape,
      Option.map_some]
    exact congrArg (fun t => some (Scalar.text t, [])) String.ofList_toList
  exact readValue?_of_readScalar? rfl read

theorem readValue?_null : readValue? (valueText .null) = some .null := rfl

/-! ### Numbers -/

theorem digits_head?_ne_zero {n : Nat} (positive : 0 < n) : (digits n).head? ≠ some '0' := by
  induction n using Nat.strongRecOn with
  | ind n ih =>
    by_cases small : n < 10
    · rw [digits, Nat.toDigits_of_lt_base small]
      exact (by decide : ∀ n < 10, 0 < n → [Nat.digitChar n].head? ≠ some '0') n small positive
    · rw [digits, Nat.toDigits_of_base_le (by decide) (not_lt.1 small), List.head?_append_of_ne_nil]
      · exact ih (n / 10) (by omega) (by omega)
      · exact digits_ne_nil (n / 10)

theorem absorb_digits {significand : Nat} {s : List Char}
    (fits : Nat.ofDigitChars 10 s significand < 2 ^ 64) :
    absorb significand s = (Nat.ofDigitChars 10 s significand, []) := by
  induction s generalizing significand with
  | nil => rfl
  | cons d rest ih =>
    have least : 10 * significand + (d.toNat - '0'.toNat) ≤
        Nat.ofDigitChars 10 rest (10 * significand + (d.toNat - '0'.toNat)) := by
      rw [Nat.ofDigitChars_eq_ofDigitChars_zero]
      have power : 0 < 10 ^ rest.length := Nat.pow_pos (by decide)
      exact (Nat.le_mul_of_pos_left _ power).trans (Nat.le_add_right _ _)
    rw [Nat.ofDigitChars_cons] at fits ⊢
    simp only [absorb, Nat.pow_eq]
    rw [if_pos (least.trans_lt fits), ih fits]

theorem readWhole?_digits (n : Nat) : readWhole? (digits n) = some (digits n, []) := by
  obtain ⟨taken, left⟩ := @takeWhile_isDigit (digits n) [] isDigit_of_mem_digits (by simp)
  rw [List.append_nil] at taken left
  rw [readWhole?, taken, left]
  split
  next empty => exact absurd empty (digits_ne_nil n)
  next first second more zero =>
    rcases Nat.eq_zero_or_pos n with rfl | positive
    · have single : digits 0 = ['0'] := rfl
      cases single.symm.trans zero
    · exact absurd (by rw [zero]; rfl) (digits_head?_ne_zero positive)
  next => rfl

theorem readNumeral?_digits (negative : Bool) (n : Nat) :
    readNumeral? (signText negative ++ digits n) = some (⟨negative, digits n, [], none⟩, []) := by
  have whole := readWhole?_digits n
  cases negative with
  | true =>
    rw [signText, if_pos rfl, List.cons_append, List.nil_append, readNumeral?]
    simp only [whole, Option.bind_eq_bind, Option.bind_some]
    rfl
  | false =>
    rw [signText, if_neg Bool.false_ne_true, List.nil_append, readNumeral?]
    · simp only [whole, Option.bind_eq_bind, Option.bind_some]
      rfl
    · intro rest written
      have digit := isDigit_of_mem_digits '-' (written ▸ List.mem_cons_self)
      contradiction

theorem exists_signed_digits (negative : Bool) (n : Nat) :
    ∃ c rest, signText negative ++ digits n = c :: rest ∧ (c = '-' ∨ c.isDigit) := by
  cases negative with
  | true => exact ⟨'-', digits n, rfl, .inl rfl⟩
  | false =>
    obtain ⟨c, rest, written⟩ := List.exists_cons_of_ne_nil (digits_ne_nil n)
    exact ⟨c, rest, written, .inr (isDigit_of_mem_digits c (written ▸ List.mem_cons_self))⟩

theorem skipBlanks_digits (negative : Bool) (n : Nat) :
    skipBlanks (signText negative ++ digits n) = signText negative ++ digits n := by
  obtain ⟨c, rest, written, first⟩ := exists_signed_digits negative n
  rw [written, skipBlanks, List.dropWhile_cons_of_neg]
  simp only [Bool.or_eq_true, beq_iff_eq]
  rintro (((rfl | rfl) | rfl) | rfl) <;> simp at first

def IsWhole (n : Float) : Prop := ∃ whole : Nat, whole < 10 ^ 15 ∧ valueAt (magnitudeIndex n) = whole

theorem IsWhole.isFinite {n : Float} (isWhole : IsWhole n) : isFinite n := by
  obtain ⟨whole, small, exact⟩ := isWhole
  refine decide_eq_true (strictMono_valueAt.lt_iff_lt.1 ?_)
  rw [exact, valueAt_infinity]
  exact_mod_cast small.trans (by decide +kernel : 10 ^ 15 < 2 ^ 1024)

theorem scalar?_digits (negative : Bool) {whole : Nat} (small : whole < 10 ^ 15) :
    Numeral.scalar? ⟨negative, digits whole, [], none⟩ = some (.whole negative whole) := by
  have written : Nat.ofDigitChars 10 (digits whole) 0 = whole := ofDigits_digits whole
  have absorbed := absorb_digits (written.trans_lt (small.trans (by norm_num)))
  rw [written] at absorbed
  simp [Numeral.scalar?, absorbed]

theorem readScalar?_digits (negative : Bool) {whole : Nat} (small : whole < 10 ^ 15) :
    readScalar? (signText negative ++ digits whole) = some (.whole negative whole, []) := by
  obtain ⟨c, rest, written, first⟩ := exists_signed_digits negative whole
  have other (d : Char) (rest : List Char) (letter : d ≠ '-' ∧ d.isDigit = false) :
      signText negative ++ digits whole ≠ d :: rest := by
    intro same
    obtain rfl : c = d := (List.cons.inj (written.symm.trans same)).1
    rcases first with minus | digit
    · exact letter.1 minus
    · exact Bool.eq_false_iff.1 letter.2 digit
  rw [readScalar?, readNumber?, readNumeral?_digits]
  · simp only [Option.bind_eq_bind, Option.bind_some, scalar?_digits negative small]
    rfl
  · exact fun rest => other 'n' _ (by decide)
  · exact fun rest => other '"' _ (by decide)

theorem readValue?_number {n : Float} (isWhole : IsWhole n) :
    ∃ m, readValue? (valueText (.number n)) = some (.number m) ∧ m == n := by
  have finite := isWhole.isFinite
  obtain ⟨whole, small, exact⟩ := isWhole
  have text : jsonText n = signText (isNegative n && whole != 0) ++ digits whole := by
    rw [jsonText, if_pos finite, wholeText?, wholeMagnitude?_eq_some_iff.2 ⟨exact, small⟩]
    rfl
  rw [valueText, text]
  refine ⟨_, readValue?_of_readScalar? (skipBlanks_digits _ whole) (readScalar?_digits _ small),
    beq_of_same ?_ finite⟩
  have index : (Decimal.mk (isNegative n && whole != 0) whole 0).index = magnitudeIndex n := by
    refine Decimal.index_eq_of_value (index_lt_infinity finite).le ?_
    rw [Decimal.value, zpow_zero, mul_one, exact]
  rw [Decimal.toFloat, index]
  exact same_ofIndex (sign_or_zero exact)

theorem valueText_of_not_isFinite {n : Float} (infinite : ¬ isFinite n) :
    valueText (.number n) = "null".toList := if_neg infinite

/-! ### Values -/

def Restored : Value → Prop
  | .null | .text _ => True
  | .number n => IsWhole n

theorem exists_readValue? {v : Value} (restored : Restored v) :
    ∃ w, readValue? (valueText v) = some w ∧ w.equals v := by
  cases v with
  | null => exact ⟨.null, readValue?_null, rfl⟩
  | text s => exact ⟨.text s, readValue?_text s, beq_self_eq_true s⟩
  | number n =>
    obtain ⟨m, read, equal⟩ := readValue?_number restored
    exact ⟨.number m, read, equal⟩

theorem equals_of_equals {u v w : Value} (first : u.equals v) (second : u.equals w) :
    v.equals w := by
  rw [Value.equals_comm] at first
  cases u with
  | null =>
    cases v <;> cases w <;> first | rfl | contradiction
  | text s =>
    cases v with
    | null | number n => contradiction
    | text t =>
      cases w with
      | null | number n => contradiction
      | text r => exact PartialEquivBEq.trans first second
  | number n =>
    cases v with
    | null | text t => contradiction
    | number m =>
      cases w with
      | null | text t => contradiction
      | number k => exact PartialEquivBEq.trans first second

theorem equals_of_valueText {v w : Value} (restored : Restored v) (also : Restored w)
    (same : valueText v = valueText w) : v.equals w := by
  obtain ⟨u, read, equal⟩ := exists_readValue? restored
  obtain ⟨u', read', equal'⟩ := exists_readValue? also
  rw [same, read'] at read
  obtain rfl := Option.some.inj read
  exact equals_of_equals equal equal'

/-- Null, every text and the whole numbers of less than sixteen digits are read from their JSON as
the values they are, a text always as that text, so that no two of them share their JSON. The
numbers that are not finite are written, and read, as null. -/
theorem values_read_back :
    readValue? (valueText .null) = some .null ∧
    (∀ s, readValue? (valueText (.text s)) = some (.text s)) ∧
    (∀ n, IsWhole n → ∃ m, readValue? (valueText (.number n)) = some (.number m) ∧ m == n) ∧
    (∀ v w, Restored v → Restored w → valueText v = valueText w → v.equals w) ∧
    ∀ n, ¬ isFinite n → valueText (.number n) = "null".toList ∧
      readValue? (valueText (.number n)) = some .null := by
  refine ⟨readValue?_null, readValue?_text, fun n => readValue?_number,
    fun v w => equals_of_valueText, fun n infinite => ?_⟩
  have written := valueText_of_not_isFinite infinite
  rw [written]
  exact ⟨rfl, rfl⟩

theorem isWhole_zeros : IsWhole 0 ∧ IsWhole (-0) := by
  have whole {n : Float} (found : wholeMagnitude? (magnitudeIndex n) = some 0) : IsWhole n :=
    let ⟨exact, small⟩ := wholeMagnitude?_eq_some_iff.1 found
    ⟨0, small, exact⟩
  exact ⟨whole (by decide +kernel), whole (by decide +kernel)⟩

theorem values_read_back_zeros :
    IsWhole (-0) ∧ (∃ m, readValue? (valueText (.number (-0))) = some (.number m) ∧ m == -0) ∧
      Restored (.number 0) ∧ Restored (.number (-0)) ∧
      valueText (.number 0) = valueText (.number (-0)) ∧ Value.equals (.number 0) (.number (-0)) ∧
      ¬ isFinite Float.nan ∧ readValue? (valueText (.number Float.nan)) = some .null := by
  obtain ⟨zero, negativeZero⟩ := isWhole_zeros
  have same : valueText (.number 0) = valueText (.number (-0)) := by decide +kernel
  have infinite : ¬ isFinite Float.nan := by decide +kernel
  obtain ⟨-, -, numbers, injective, others⟩ := values_read_back
  exact ⟨negativeZero, numbers _ negativeZero, zero, negativeZero, same,
    injective _ _ zero negativeZero same, infinite, (others _ infinite).2⟩

end TableQuery.Json
