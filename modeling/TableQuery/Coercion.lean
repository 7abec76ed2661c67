import TableQuery.Number.Reading
import TableQuery.Text.WhiteSpace
import TableQuery.Value

/-! What a value means in a comparison. A text wrapped in a pair of equal quotes is the text
between them, another text that spells a finite number is that number, and all else stands for
itself. -/

namespace TableQuery

def stripQuotes? : List Char → Option (List Char)
  | [] => none
  | quote :: rest =>
    if (quote = '\'' ∨ quote = '"') ∧ rest.getLast? = some quote then some rest.dropLast else none

/-- The characters keep the names of infinity and of what is not a number out. -/
def decimalNumber? (s : List Char) : Option Float :=
  let trimmed := Text.trim s
  if trimmed ≠ [] ∧ trimmed.all Number.isDecimalChar then
    (Number.read? trimmed).filter Number.isFinite
  else none

theorem decimalNumber?_eq_none {s : List Char}
    (unread : Number.Decimal.read? (Text.trim s) = none) : decimalNumber? s = none := by
  rw [decimalNumber?]
  split
  next shape => rw [Number.read?, unread, Number.readName?_eq_none shape.2]; rfl
  next => rfl

def coerceText (s : String) : Value :=
  match stripQuotes? s.toList with
  | some inner => .text (String.ofList inner)
  | none =>
    match decimalNumber? s.toList with
    | some n => .number n
    | none => .text s

namespace Value

def coerce : Value → Value
  | text s => coerceText s
  | v => v

def numeric? (v : Value) : Option Float :=
  match v.coerce with
  | number n => some n
  | _ => none

@[simp] theorem coerce_null : coerce null = null := rfl

@[simp] theorem coerce_number (n : Float) : coerce (number n) = number n := rfl

@[simp] theorem coerce_text (s : String) : coerce (text s) = coerceText s := rfl

@[simp] theorem numeric?_null : numeric? null = none := rfl

@[simp] theorem numeric?_number (n : Float) : numeric? (number n) = some n := rfl

end Value

theorem coerceText_quoted (inner : List Char) :
    coerceText (String.ofList ('\'' :: inner ++ ['\''])) = .text (String.ofList inner) := by
  simp [coerceText, stripQuotes?]

end TableQuery
