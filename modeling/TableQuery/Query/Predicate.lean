import TableQuery.Value

/-! Comparisons of a column with a literal. The literal is kept as written and takes its value
when the comparison is made. -/

namespace TableQuery

inductive Operator where
  | equal
  | notEqual
  | greater
  | less
  | greaterEqual
  | lessEqual
  deriving DecidableEq

namespace Operator

def spelling : Operator → String
  | equal => "="
  | notEqual => "!="
  | greater => ">"
  | less => "<"
  | greaterEqual => ">="
  | lessEqual => "<="

/-- Of two values without an order only inequality holds. -/
def holds : Operator → Option Ordering → Bool
  | notEqual, none => true
  | _, none => false
  | equal, some order => order.isEq
  | notEqual, some order => order.isNe
  | greater, some order => order.isGT
  | less, some order => order.isLT
  | greaterEqual, some order => order.isGE
  | lessEqual, some order => order.isLE

end Operator

structure Predicate where
  field : String
  operator : Operator
  literal : String
  deriving DecidableEq

end TableQuery
