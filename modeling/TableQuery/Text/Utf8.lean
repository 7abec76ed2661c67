/-! UTF-8 bytes as characters. A character has one to four bytes, never more than it needs, and
no half of a surrogate pair is one. Bad text is located by the byte at which its first bad
sequence begins. -/

namespace TableQuery.Text

def continuation? (b : UInt8) : Option Nat :=
  if b.toNat / 64 = 2 then some (b.toNat % 64) else none

def continuations (high : Nat) : Nat → List UInt8 → Option (Nat × List UInt8)
  | 0, bytes => some (high, bytes)
  | _ + 1, [] => none
  | count + 1, b :: bytes =>
    (continuation? b).bind fun low => continuations (64 * high + low) count bytes

theorem continuations_length {high count code : Nat} {bytes rest : List UInt8}
    (h : continuations high count bytes = some (code, rest)) :
    rest.length + count = bytes.length := by
  induction count generalizing high bytes with
  | zero => simp_all [continuations]
  | succ count ih =>
    cases bytes with
    | nil => contradiction
    | cons b bytes =>
      obtain ⟨low, -, hlow⟩ := Option.bind_eq_some_iff.1 h
      have := ih hlow
      simp only [List.length_cons]
      omega

/-- How many bytes follow the first byte, the high part of the code in it, and the least code
that needs so many. -/
def firstByte? (b : Nat) : Option (Nat × Nat × Nat) :=
  if b < 0x80 then some (0, b, 0)
  else if b < 0xC0 then none
  else if b < 0xE0 then some (1, b - 0xC0, 0x80)
  else if b < 0xF0 then some (2, b - 0xE0, 0x800)
  else if b < 0xF8 then some (3, b - 0xF0, 0x10000)
  else none

def splitChar? : List UInt8 → Option (Char × List UInt8)
  | [] => none
  | b :: bytes =>
    match firstByte? b.toNat with
    | none => none
    | some (count, high, least) =>
      match continuations high count bytes with
      | none => none
      | some (code, rest) =>
        if h : least ≤ code ∧ code.isValidChar then some (Char.ofNatAux code h.2, rest) else none

theorem splitChar?_length {bytes rest : List UInt8} {c : Char}
    (h : splitChar? bytes = some (c, rest)) : rest.length < bytes.length := by
  cases bytes with
  | nil => contradiction
  | cons b bytes =>
    rw [splitChar?] at h
    cases first : firstByte? b.toNat with
    | none =>
      rw [first] at h
      contradiction
    | some parts =>
      obtain ⟨count, high, least⟩ := parts
      rw [first] at h
      dsimp only at h
      cases code : continuations high count bytes with
      | none =>
        rw [code] at h
        contradiction
      | some found =>
        obtain ⟨value, left⟩ := found
        rw [code] at h
        dsimp only at h
        have shorter := continuations_length code
        by_cases valid : least ≤ value ∧ value.isValidChar
        · rw [dif_pos valid] at h
          obtain ⟨-, rfl⟩ := Prod.mk.inj (Option.some.inj h)
          rw [List.length_cons]
          omega
        · rw [dif_neg valid] at h
          contradiction

/-- The characters of the bytes, or how many bytes come before the first bad sequence. -/
def decodeFrom (passed : Nat) (bytes : List UInt8) : Except Nat (List Char) :=
  match _h : splitChar? bytes with
  | none => if bytes.isEmpty then .ok [] else .error passed
  | some (c, rest) =>
    (decodeFrom (passed + (bytes.length - rest.length)) rest).map (c :: ·)
termination_by bytes.length
decreasing_by exact splitChar?_length _h

def decode (bytes : List UInt8) : Except Nat (List Char) := decodeFrom 0 bytes

end TableQuery.Text
