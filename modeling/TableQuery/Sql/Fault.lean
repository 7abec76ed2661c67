import TableQuery.Text.Hex

/-! What can be wrong in the spelling of a token, and where. A fault keeps the part of the text
that begins at its place; line and column are counted from that part when they are wanted. -/

namespace TableQuery.Sql

inductive FaultCause where
  | unclosedComment
  | unclosedWord (mark : Char)
  | unclosedString
  | unclosedEscapedString
  | unclosedUnicodeString
  | unclosedDollarString
  | unclosedTaggedString
  | missingHexDigit
  | invalidHexDigit (found : Char)
  | invalidCharacter (code : Nat)
  deriving DecidableEq

def FaultCause.message : FaultCause → String
  | unclosedComment => "Unexpected EOF while in a multi-line comment"
  | unclosedWord mark => "Expected close delimiter '" ++ mark.toString ++ "' before EOF."
  | unclosedString => "Unterminated string literal"
  | unclosedEscapedString => "Unterminated encoded string literal"
  | unclosedUnicodeString => "Unterminated unicode encoded string literal"
  | unclosedDollarString => "Unterminated dollar-quoted string"
  | unclosedTaggedString => "Unterminated dollar-quoted, expected $"
  | missingHexDigit => "Unexpected EOF while parsing hex digit in escaped unicode string."
  | invalidHexDigit found =>
    "Invalid hex digit in escaped unicode string: " ++ found.toString
  | invalidCharacter code =>
    "Invalid unicode character: " ++ String.ofList (Text.hexText code)

structure Fault where
  cause : FaultCause
  source : List Char

/-- Lines and columns are counted from 1, and only a line feed starts a line. -/
structure Position where
  line : Nat
  column : Nat
  deriving DecidableEq

def Position.after (consumed : List Char) : Position where
  line := 1 + consumed.count '\n'
  column := 1 + (consumed.reverse.takeWhile (· != '\n')).length

def Position.of (text part : List Char) : Position :=
  Position.after (text.take (text.length - part.length))

@[simp] theorem Position.of_append (consumed part : List Char) :
    Position.of (consumed ++ part) part = Position.after consumed := by
  simp [Position.of]

structure LocatedFault where
  cause : FaultCause
  position : Position
  deriving DecidableEq

def Fault.locate (fault : Fault) (text : List Char) : LocatedFault :=
  ⟨fault.cause, Position.of text fault.source⟩

def LocatedFault.message (fault : LocatedFault) : String :=
  fault.cause.message ++ " at Line: " ++ toString fault.position.line ++ ", Column: " ++
    toString fault.position.column

end TableQuery.Sql
