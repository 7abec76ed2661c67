import TableQuery.Traced

/-! The reading of a text. It leaves a warning where the text may mean something else to its
writer. -/

namespace TableQuery

/-- The words AND and OR between conditions mean the same. -/
inductive Warning where
  | orReadAsAnd
  deriving DecidableEq

abbrev Reading (α : Type) : Type := Traced Warning α

end TableQuery
