import TableQuery.Number.Notation

/-! A cell of a table: missing, a number or a text. Values of different kinds, and null beside
anything, have no order. -/

namespace TableQuery

inductive Value where
  | null
  | number (n : Float)
  | text (s : String)
  deriving DecidableEq

namespace Value

def isNull : Value → Bool
  | null => true
  | _ => false

/-- Equality as the join condition takes it: a number that is not a number equals nothing. -/
def equals : Value → Value → Bool
  | null, null => true
  | number a, number b => a == b
  | text s, text t => s == t
  | _, _ => false

def compareNumbers (a b : Float) : Option Ordering :=
  if a < b then some .lt else if a == b then some .eq else if b < a then some .gt else none

/-- Texts are ordered by code point. -/
def compare : Value → Value → Option Ordering
  | number a, number b => compareNumbers a b
  | text s, text t => some (Ord.compare s t)
  | _, _ => none

@[simp] theorem compare_null_left (v : Value) : compare null v = none := rfl

@[simp] theorem compare_null_right (v : Value) : compare v null = none := by
  cases v <;> rfl

@[simp] theorem compare_number_text (n : Float) (s : String) :
    compare (number n) (text s) = none := rfl

@[simp] theorem compare_text_number (s : String) (n : Float) :
    compare (text s) (number n) = none := rfl

def toText : Value → String
  | null => "NULL"
  | number n => String.ofList (Number.plainText n)
  | text s => s

def keyText : Value → String
  | null => ""
  | v => v.toText

@[simp] theorem keyText_null : keyText null = "" := rfl

@[simp] theorem keyText_text (s : String) : keyText (text s) = s := rfl

end Value

end TableQuery
