import Mathlib.Algebra.Order.Group.Nat
import TableQuery.Except
import TableQuery.Text.Utf8

/-! Decoding is the inverse of the encoding of the library: bytes are read as the characters that
they are the encoding of, and bytes that encode no characters are not read. -/

namespace TableQuery.Text

def continuationBytes : Nat → Nat → List UInt8
  | 0, _ => []
  | count + 1, code =>
    UInt8.ofNat (0x80 + code / 64 ^ count % 64) :: continuationBytes count code

theorem continuation?_eq_some_iff {b : UInt8} {low : Nat} :
    continuation? b = some low ↔ low < 64 ∧ b = UInt8.ofNat (0x80 + low) := by
  rw [continuation?, ← UInt8.toNat_inj, UInt8.toNat_ofNat']
  have := b.toNat_lt
  split
  · rw [Option.some_inj]
    omega
  · simp only [reduceCtorEq, false_iff]
    omega

theorem continuations_eq_some_iff {high count code : Nat} {bytes rest : List UInt8} :
    continuations high count bytes = some (code, rest) ↔
      code / 64 ^ count = high ∧ bytes = continuationBytes count code ++ rest := by
  induction count generalizing high bytes with
  | zero => simp [continuations, continuationBytes, eq_comm]
  | succ count ih =>
    cases bytes with
    | nil => simp [continuations, continuationBytes]
    | cons b bytes =>
      have shorter : code / 64 ^ (count + 1) = code / 64 ^ count / 64 := by
        rw [pow_succ, Nat.div_div_eq_div_mul]
      rw [continuations, Option.bind_eq_some_iff, shorter, continuationBytes, List.cons_append,
        List.cons.injEq]
      constructor
      · rintro ⟨low, continued, later⟩
        obtain ⟨small, rfl⟩ := continuation?_eq_some_iff.1 continued
        obtain ⟨parts, rfl⟩ := ih.1 later
        rw [parts]
        exact ⟨by omega, by congr 2; omega, rfl⟩
      · rintro ⟨rfl, rfl, rfl⟩
        exact ⟨_, continuation?_eq_some_iff.2 ⟨Nat.mod_lt _ (by decide), rfl⟩,
          ih.2 ⟨by omega, rfl⟩⟩

theorem toNat_lt_0x110000 (c : Char) : c.val.toNat < 0x110000 := by
  have valid : c.val.toNat.isValidChar := c.valid
  rw [Nat.isValidChar] at valid
  omega

/-- The encoding of a character begins with a byte that tells how many follow it, no more of them
than the code needs, and what the code begins with. -/
theorem exists_firstByte (c : Char) : ∃ b count least,
    firstByte? b.toNat = some (count, c.toNat / 64 ^ count, least) ∧ least ≤ c.toNat ∧
      String.utf8EncodeChar c = b :: continuationBytes count c.toNat := by
  have valid := toNat_lt_0x110000 c
  simp only [String.utf8EncodeChar, Char.toNat]
  generalize c.val.toNat = code at valid
  split_ifs with one two three
  · refine ⟨UInt8.ofNat code, 0, 0, ?_, Nat.zero_le code, rfl⟩
    rw [UInt8.toNat_ofNat', Nat.mod_eq_of_lt (by omega), firstByte?, if_pos (by omega),
      Nat.pow_zero, Nat.div_one]
  · refine ⟨UInt8.ofNat (0xC0 + code / 64 ^ 1), 1, 0x80, ?_, by omega, ?_⟩
    · rw [UInt8.toNat_ofNat', Nat.mod_eq_of_lt (by omega), firstByte?, if_neg (by omega),
        if_neg (by omega), if_pos (by omega), Nat.add_sub_cancel_left]
    · simp only [continuationBytes, List.cons.injEq, and_true, ← UInt8.toNat_inj,
        UInt8.toNat_ofNat']
      omega
  · refine ⟨UInt8.ofNat (0xE0 + code / 64 ^ 2), 2, 0x800, ?_, by omega, ?_⟩
    · rw [UInt8.toNat_ofNat', Nat.mod_eq_of_lt (by omega), firstByte?, if_neg (by omega),
        if_neg (by omega), if_neg (by omega), if_pos (by omega), Nat.add_sub_cancel_left]
    · simp only [continuationBytes, List.cons.injEq, and_true, ← UInt8.toNat_inj,
        UInt8.toNat_ofNat']
      omega
  · refine ⟨UInt8.ofNat (0xF0 + code / 64 ^ 3), 3, 0x10000, ?_, by omega, ?_⟩
    · rw [UInt8.toNat_ofNat', Nat.mod_eq_of_lt (by omega), firstByte?, if_neg (by omega),
        if_neg (by omega), if_neg (by omega), if_neg (by omega), if_pos (by omega),
        Nat.add_sub_cancel_left]
    · simp only [continuationBytes, List.cons.injEq, and_true, ← UInt8.toNat_inj,
        UInt8.toNat_ofNat']
      omega

theorem firstByte?_unique {b other : UInt8} {count counted least leastOther code : Nat}
    (first : firstByte? b.toNat = some (count, code / 64 ^ count, least)) (enough : least ≤ code)
    (second : firstByte? other.toNat = some (counted, code / 64 ^ counted, leastOther))
    (enoughOther : leastOther ≤ code) : b = other ∧ count = counted := by
  have := b.toNat_lt
  have := other.toNat_lt
  rw [← UInt8.toNat_inj]
  simp only [firstByte?] at first second
  -- Four ranges of first bytes for each. Codes that need different numbers of bytes do not meet.
  split_ifs at first <;> split_ifs at second <;>
    simp only [Option.some.injEq, Prod.mk.injEq] at first second <;>
    obtain ⟨rfl, high, rfl⟩ := first <;> obtain ⟨rfl, highOther, rfl⟩ := second <;> omega

theorem utf8EncodeChar_of_firstByte {b : UInt8} {count least : Nat} {c : Char}
    (first : firstByte? b.toNat = some (count, c.toNat / 64 ^ count, least))
    (enough : least ≤ c.toNat) :
    String.utf8EncodeChar c = b :: continuationBytes count c.toNat := by
  obtain ⟨_, _, _, own, ownEnough, encoded⟩ := exists_firstByte c
  obtain ⟨rfl, rfl⟩ := firstByte?_unique own ownEnough first enough
  exact encoded

theorem splitChar?_eq_some_iff {bytes rest : List UInt8} {c : Char} :
    splitChar? bytes = some (c, rest) ↔ bytes = String.utf8EncodeChar c ++ rest := by
  constructor
  · intro read
    cases bytes with
    | nil => cases read
    | cons b bytes =>
      rw [splitChar?] at read
      split at read
      next => cases read
      next count high least first =>
        split at read
        next => cases read
        next code left continued =>
          by_cases valid : least ≤ code ∧ code.isValidChar
          · rw [dif_pos valid] at read
            obtain ⟨rfl, rfl⟩ := Prod.mk.inj (Option.some.inj read)
            obtain ⟨rfl, rfl⟩ := continuations_eq_some_iff.1 continued
            have encoded : String.utf8EncodeChar (Char.ofNatAux code valid.2) =
                b :: continuationBytes count code := utf8EncodeChar_of_firstByte first valid.1
            rw [encoded, List.cons_append]
          · rw [dif_neg valid] at read
            cases read
  · rintro rfl
    obtain ⟨b, count, least, first, enough, encoded⟩ := exists_firstByte c
    rw [encoded, List.cons_append, splitChar?, first]
    dsimp only
    rw [continuations_eq_some_iff.2 ⟨rfl, rfl⟩]
    exact dif_pos ⟨enough, c.valid⟩

theorem decodeFrom_eq_ok_iff {passed : Nat} {bytes : List UInt8} {chars : List Char} :
    decodeFrom passed bytes = .ok chars ↔ bytes = chars.flatMap String.utf8EncodeChar := by
  fun_induction decodeFrom passed bytes generalizing chars with
  | case1 passed bytes _ empty =>
    rw [List.isEmpty_iff.1 empty, Except.ok.injEq]
    cases chars <;> simp
  | case2 passed bytes unread filled =>
    constructor
    · intro read
      cases read
    · intro encoded
      cases chars with
      | nil => exact absurd (by rw [encoded]; rfl) filled
      | cons c chars =>
        rw [splitChar?_eq_some_iff.2 (encoded.trans List.flatMap_cons)] at unread
        cases unread
  | case3 passed bytes c rest read ih =>
    rw [map_eq_ok_iff]
    constructor
    · rintro ⟨others, later, rfl⟩
      rw [splitChar?_eq_some_iff.1 read, ih.1 later, List.flatMap_cons]
    · intro encoded
      cases chars with
      | nil =>
        rw [encoded] at read
        cases read
      | cons d chars =>
        rw [splitChar?_eq_some_iff.2 (encoded.trans List.flatMap_cons)] at read
        obtain ⟨rfl, rfl⟩ := Prod.mk.inj (Option.some.inj read)
        exact ⟨chars, ih.2 rfl, rfl⟩

theorem decode_eq_ok_iff {bytes : List UInt8} {chars : List Char} :
    decode bytes = .ok chars ↔ bytes = chars.flatMap String.utf8EncodeChar :=
  decodeFrom_eq_ok_iff

end TableQuery.Text
