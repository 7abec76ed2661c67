import TableQuery.Error
import TableQuery.Row

/-! Where tables come from: any function from names to rows, and the tables kept in memory. -/

namespace TableQuery

abbrev Source : Type := String → Except SourceError (List Row)

/-- Named tables; storing a table under a name replaces the table of that name. -/
structure Tables where
  entries : List (String × List Row)

namespace Tables

def empty : Tables := ⟨[]⟩

def store (tables : Tables) (name : String) (rows : List Row) : Tables :=
  ⟨(name, rows) :: tables.entries.filter (·.1 != name)⟩

def find? (tables : Tables) (name : String) : Option (List Row) := tables.entries.lookup name

def source (tables : Tables) : Source := fun name =>
  match tables.find? name with
  | some rows => .ok rows
  | none => .error (.notFound name)

@[simp] theorem find?_empty (name : String) : empty.find? name = none := rfl

@[simp] theorem find?_store_self (tables : Tables) (name : String) (rows : List Row) :
    (tables.store name rows).find? name = some rows := by
  simp [store, find?]

end Tables

end TableQuery
