import TableQuery.Query.JoinClause
import TableQuery.Source

/-! Two tables of a school, on which the results about executions are tried. -/

namespace TableQuery

def students : List Row :=
  [.ofColumns [(.plain "id", .text "1"), (.plain "name", .text "John"), (.plain "age", .text "30")],
    .ofColumns [(.plain "id", .text "2"), (.plain "name", .text "Jane"), (.plain "age", .text "25")]]

def enrollments : List Row :=
  [.ofColumns [(.plain "student_id", .text "2"), (.plain "course", .text "Physics")],
    .ofColumns [(.plain "student_id", .text "1"), (.plain "course", .text "Biology")],
    .ofColumns [(.plain "student_id", .text "1"), (.plain "course", .text "Physics")],
    .ofColumns [(.plain "student_id", .text "5"), (.plain "course", .text "Art")]]

def school : Source :=
  ((Tables.empty.store "student" students).store "enrollment" enrollments).source

def studentEnrollments : JoinClause where
  kind := .inner
  table := "enrollment"
  condition := ⟨"student.id", "enrollment.student_id"⟩

end TableQuery
