import TableQuery.Csv.Fault

/-! Bytes as records of fields. A comma ends a field and a line break ends a record. A quote
counts only at the start of a field: up to the next quote everything belongs to the field, two
quotes in a row stand for one, and what follows the closing quote is part of the field too. -/

namespace TableQuery.Csv

def comma : UInt8 := 0x2C

def quote : UInt8 := 0x22

def lineFeed : UInt8 := 0x0A

def carriageReturn : UInt8 := 0x0D

def isLineBreak (b : UInt8) : Bool := b == lineFeed || b == carriageReturn

def endsField (b : UInt8) : Bool := b == comma || isLineBreak b

def prepend (b : UInt8) (read : List UInt8 × List UInt8) : List UInt8 × List UInt8 :=
  (b :: read.1, read.2)

def plainField (bytes : List UInt8) : List UInt8 × List UInt8 :=
  (bytes.takeWhile (!endsField ·), bytes.dropWhile (!endsField ·))

/-- A field from after its opening quote on. One that is not closed reaches to the end. -/
def quotedField : List UInt8 → List UInt8 × List UInt8
  | [] => ([], [])
  | [b] => if b = quote then ([], []) else ([b], [])
  | b :: c :: rest =>
    if b = quote then
      if c = quote then prepend quote (quotedField rest) else plainField (c :: rest)
    else prepend b (quotedField (c :: rest))

def field : List UInt8 → List UInt8 × List UInt8
  | [] => ([], [])
  | b :: rest => if b = quote then quotedField rest else plainField (b :: rest)

theorem plainField_length (bytes : List UInt8) : (plainField bytes).2.length ≤ bytes.length :=
  (List.dropWhile_sublist _).length_le

theorem quotedField_length (bytes : List UInt8) :
    (quotedField bytes).2.length ≤ bytes.length := by
  fun_induction quotedField bytes with
  | case1 => simp
  | case2 => simp
  | case3 => simp
  | case4 _ ih =>
    simp only [prepend, List.length_cons]
    omega
  | case5 c rest _ =>
    have := plainField_length (c :: rest)
    simp only [List.length_cons] at this ⊢
    omega
  | case6 _ _ _ _ ih =>
    simp only [prepend, List.length_cons] at ih ⊢
    omega

theorem field_length (bytes : List UInt8) : (field bytes).2.length ≤ bytes.length := by
  unfold field
  split
  · simp
  next rest =>
    split
    · exact Nat.le_succ_of_le (quotedField_length rest)
    · exact plainField_length _

def fields (bytes : List UInt8) : List (List UInt8) × List UInt8 :=
  match _h : field bytes with
  | (first, []) => ([first], [])
  | (first, b :: rest) =>
    if b = comma then
      let (more, rest) := fields rest
      (first :: more, rest)
    else ([first], rest)
termination_by bytes.length
decreasing_by
  have := field_length bytes
  rw [_h, List.length_cons] at this
  exact this

theorem fields_length (bytes : List UInt8) : (fields bytes).2.length ≤ bytes.length - 1 := by
  fun_induction fields bytes with
  | case1 => simp
  | case2 bytes first after more rest hmore hfield ih =>
    have hle := field_length bytes
    rw [hfield, List.length_cons] at hle
    rw [hmore] at ih
    simp only at ih ⊢
    omega
  | case3 bytes first b rest hfield _ =>
    have hle := field_length bytes
    rw [hfield, List.length_cons] at hle
    simp only at hle ⊢
    omega

structure Record where
  fields : List (List UInt8)
  source : List UInt8

def skipLineBreaks (bytes : List UInt8) : List UInt8 := bytes.dropWhile isLineBreak

/-- The records from a place on. Line breaks before a record are no part of it. -/
def records (bytes : List UInt8) : List Record :=
  match _h : skipLineBreaks bytes with
  | [] => []
  | b :: rest =>
    let read := fields (b :: rest)
    ⟨read.1, bytes⟩ :: records read.2
termination_by bytes.length
decreasing_by
  have hlt := fields_length (b :: rest)
  have hle : (skipLineBreaks bytes).length ≤ bytes.length :=
    (List.dropWhile_sublist isLineBreak).length_le
  rw [_h, List.length_cons] at hle
  rw [List.length_cons] at hlt
  omega

def afterMark : List UInt8 → List UInt8
  | 0xEF :: 0xBB :: 0xBF :: rest => rest
  | bytes => bytes

/-- The records of a file. A byte order mark at its start is passed over, but belongs to the
bytes from which the first record is read. -/
def fileRecords (bytes : List UInt8) : List Record :=
  match records (afterMark bytes) with
  | [] => []
  | first :: rest => ⟨first.fields, bytes⟩ :: rest

def Record.position (record : Record) (file : List UInt8) (index : Nat) : RecordPosition :=
  let passed := file.take (file.length - record.source.length)
  ⟨index, 1 + passed.count lineFeed, passed.length⟩

end TableQuery.Csv
