import Mathlib.Algebra.BigOperators.Group.List.Basic
import Mathlib.Algebra.Ring.Nat
import Mathlib.Order.Bounds.Basic
import Mathlib.Order.MinMax
import TableQuery.ResultSet

/-! The lines of a drawing. Borders and lines of text are the same figure: a separator, and then for
each column something as wide as the column, with a separator after it. So all lines have their
separators at the same offsets. -/

namespace TableQuery.ResultSet

def ruled (first : Char) : List (List Char) → List Char → List Char
  | fill :: fills, next :: separators => first :: fill ++ ruled next fills separators
  | _, _ => [first]

/-- The offset of the separator before a column. Past the last column it is that of the separator
at the end. -/
def offset (widths : List Nat) (place : Nat) : Nat := ((widths.take place).map (· + 3)).sum

/-- A line with these separators at the offsets. Between them stand these fills, each of them two
characters wider than its column. -/
structure Aligned (widths : List Nat) (separators : List Char) (fills : List (List Char))
    (drawn : List Char) : Prop where
  length : drawn.length = 1 + (widths.map (· + 3)).sum
  separator : ∀ place ≤ widths.length, drawn[offset widths place]? = separators[place]?
  fill : ∀ place, (_ : place < widths.length) →
    fills[place]? = some ((drawn.drop (offset widths place + 1)).take (widths[place] + 2))

@[simp] theorem offset_zero (widths : List Nat) : offset widths 0 = 0 := rfl

@[simp] theorem offset_succ (width : Nat) (widths : List Nat) (place : Nat) :
    offset (width :: widths) (place + 1) = width + 3 + offset widths place := by
  simp [offset]

theorem aligned_ruled {widths : List Nat} {fills : List (List Char)} {separators : List Char}
    (first : Char) (wide : fills.map List.length = widths.map (· + 2))
    (closed : separators.length = fills.length) :
    Aligned widths (first :: separators) fills (ruled first fills separators) := by
  induction fills generalizing widths separators first with
  | nil =>
    obtain rfl : widths = [] := by simpa using wide.symm
    constructor <;> simp [ruled]
  | cons fill fills ih =>
    obtain ⟨next, separators, rfl⟩ := List.exists_cons_of_length_eq_add_one closed
    obtain ⟨width, widths, rfl⟩ : ∃ width others, widths = width :: others := by
      refine List.exists_cons_of_length_eq_add_one (n := fills.length) ?_
      simpa using (congrArg List.length wide).symm
    simp only [List.map_cons, List.cons.injEq] at wide
    obtain ⟨own, others⟩ := wide
    obtain ⟨length, separator, later⟩ := ih next others (Nat.succ.inj closed)
    constructor
    · simp [ruled, length, own]
      omega
    · intro place bound
      cases place with
      | zero => simp [ruled]
      | succ place =>
        have inside : place ≤ widths.length := by simpa using bound
        rw [offset_succ, ruled, List.getElem?_append_right (by simp [own])]
        simpa [own] using separator place inside
    · intro place bound
      cases place with
      | zero => simp [ruled, ← own]
      | succ place =>
        have inside : place < widths.length := by simpa using bound
        have past : width + 3 + offset widths place + 1 =
            (first :: fill).length + (offset widths place + 1) := by
          rw [List.length_cons, own]
          omega
        rw [offset_succ, ruled, past, List.drop_length_add_append]
        exact later place inside

/-! ### Borders and lines of text -/

def dashes (width : Nat) : List Char := List.replicate (width + 2) '─'

def filled (text : List Char) (width : Nat) : List Char := ' ' :: text.rightpad width ' ' ++ [' ']

def Bordered (left middle right : Char) (widths : List Nat) (line : List Char) : Prop :=
  Aligned widths (left :: (List.replicate (widths.length - 1) middle ++ [right]))
    (widths.map dashes) line

def Shows (texts : List (List Char)) (widths : List Nat) (line : List Char) : Prop :=
  Aligned widths (List.replicate (widths.length + 1) '│') (List.zipWith filled texts widths) line

theorem border_eq_ruled (left middle right : Char) {widths : List Nat} (several : widths ≠ []) :
    border left middle right widths = ruled left (widths.map dashes)
      (List.replicate (widths.length - 1) middle ++ [right]) := by
  induction widths generalizing left with
  | nil => contradiction
  | cons width widths ih =>
    cases widths with
    | nil => simp [border, ruled, dashes, List.intercalate]
    | cons next widths =>
      have rest := ih middle (List.cons_ne_nil next widths)
      simp only [List.length_cons, Nat.add_sub_cancel, List.map_cons] at rest ⊢
      rw [List.replicate_succ, List.cons_append, ruled, ← rest]
      simp [border, dashes, List.intercalate]

theorem bordered_border (left middle right : Char) {widths : List Nat} (several : widths ≠ []) :
    Bordered left middle right widths (border left middle right widths) := by
  have positive : 0 < widths.length := List.length_pos_iff.2 several
  rw [border_eq_ruled left middle right several]
  refine aligned_ruled left ?_ ?_
  · simp [dashes, Function.comp_def]
  · simp
    omega

theorem line_eq_ruled (texts : List (List Char)) (widths : List Nat) :
    line texts widths = ruled '│' (List.zipWith filled texts widths)
      (List.replicate (List.zipWith filled texts widths).length '│') := by
  rw [line]
  induction texts generalizing widths with
  | nil => simp [ruled]
  | cons text texts ih =>
    cases widths with
    | nil => simp [ruled]
    | cons width widths =>
      simp only [List.zipWith_cons_cons, List.flatten_cons, List.length_cons, List.replicate_succ,
        ruled]
      rw [← ih]
      simp [paddedCell, filled, List.rightpad]

theorem shows_line {texts : List (List Char)} {widths : List Nat}
    (fit : List.Forall₂ (fun text width => text.length ≤ width) texts widths) :
    Shows texts widths (line texts widths) := by
  have count : (List.zipWith filled texts widths).length = widths.length := by
    simp [fit.length_eq]
  rw [line_eq_ruled, count]
  refine aligned_ruled '│' ?_ (by simp [fit.length_eq])
  induction fit with
  | nil => rfl
  | cons short fit ih =>
    rw [List.zipWith_cons_cons, List.map_cons, List.map_cons, ih (by simp [fit.length_eq])]
    simp [filled, List.rightpad]
    omega

/-! ### Widths -/

def lengthsIn (rows : List Row) (key : ColumnKey) : Set Nat :=
  insert key.text.length {length | ∃ row ∈ rows, (cell row key).length = length}

theorem isGreatest_width (rows : List Row) (key : ColumnKey) :
    IsGreatest (lengthsIn rows key) (width rows key) := by
  rw [lengthsIn, width]
  generalize key.text.length = start
  induction rows generalizing start with
  | nil => simp [isGreatest_singleton]
  | cons row rows ih =>
    obtain ⟨member, bound⟩ := ih (max start (cell row key).length)
    rw [List.foldl_cons]
    constructor
    · rcases member with same | ⟨other, later, same⟩
      · rw [same]
        rcases max_choice start (cell row key).length with first | first
        · exact .inl first
        · exact .inr ⟨row, List.mem_cons_self, first.symm⟩
      · exact .inr ⟨other, List.mem_cons_of_mem row later, same⟩
    · rintro length (rfl | ⟨other, present, rfl⟩)
      · exact (le_max_left _ _).trans (bound (.inl rfl))
      · rcases List.mem_cons.1 present with rfl | later
        · exact (le_max_right _ _).trans (bound (.inl rfl))
        · exact bound (.inr ⟨other, later, rfl⟩)

/-- The texts of a row taken into the widths one after another. A text has the index of its width,
and there is no result when an index is past the last width. -/
def widen? (widths : List Nat) (texts : List (List Char)) : Option (List Nat) :=
  texts.zipIdx.foldlM (fun widths (text, place) =>
    (widths[place]?).map fun width => widths.set place (max width text.length)) widths

theorem foldlM_widen (before : List Nat) {widths : List Nat} {texts : List (List Char)}
    (sameLength : texts.length = widths.length) :
    (texts.zipIdx before.length).foldlM (fun (widths : List Nat) (text, place) =>
        (widths[place]?).map fun width => widths.set place (max width text.length))
      (before ++ widths) =
    some (before ++ List.zipWith max widths (texts.map List.length)) := by
  induction texts generalizing before widths with
  | nil => simp [List.length_eq_zero_iff.1 sameLength.symm]
  | cons text texts ih =>
    obtain ⟨width, widths, rfl⟩ := List.exists_cons_of_length_eq_add_one sameLength.symm
    have rest := ih (before ++ [max width text.length]) (Nat.succ.inj sameLength)
    rw [List.length_append, List.length_singleton] at rest
    simpa [List.zipIdx_cons] using rest

theorem widen?_map {columns : List ColumnKey} (width : ColumnKey → Nat)
    (text : ColumnKey → List Char) :
    widen? (columns.map width) (columns.map text) =
      some (columns.map fun key => max (width key) (text key).length) := by
  have sameLength : (columns.map text).length = (columns.map width).length := by simp
  have run := foldlM_widen [] sameLength
  simpa [widen?, List.zipWith_map] using run

theorem foldlM_widen? (columns : List ColumnKey) (rows : List Row) :
    (rows.map (cells columns)).foldlM widen? ((header columns).map List.length) =
      some (columns.map (width rows)) := by
  have start : (header columns).map List.length = columns.map fun key => key.text.length := by
    simp [header, String.length_toList]
  have run (first : ColumnKey → Nat) :
      (rows.map (cells columns)).foldlM widen? (columns.map first) =
        some (columns.map fun key =>
          rows.foldl (fun width row => max width (cell row key).length) (first key)) := by
    induction rows generalizing first with
    | nil => rfl
    | cons row rows ih =>
      rw [List.map_cons, List.foldlM_cons, cells, widen?_map]
      exact ih _
  rw [start]
  exact run fun key => key.text.length

/-! ### The drawing of rows -/

theorem forall₂_length_le_width {rows : List Row} {columns : List ColumnKey}
    {text : ColumnKey → List Char} (listed : ∀ key ∈ columns, (text key).length ∈ lengthsIn rows key) :
    List.Forall₂ (fun text width => text.length ≤ width) (columns.map text)
      (columns.map (width rows)) := by
  rw [List.forall₂_map_left_iff, List.forall₂_map_right_iff, List.forall₂_same]
  exact fun key member => (isGreatest_width rows key).2 (listed key member)

theorem shows_header (rows : List Row) (columns : List ColumnKey) :
    Shows (header columns) (columns.map (width rows))
      (line (header columns) (columns.map (width rows))) :=
  shows_line (forall₂_length_le_width fun _ _ => .inl String.length_toList)

theorem shows_cells {rows : List Row} {row : Row} (member : row ∈ rows)
    (columns : List ColumnKey) :
    Shows (cells columns row) (columns.map (width rows))
      (line (cells columns row) (columns.map (width rows))) :=
  shows_line (forall₂_length_le_width fun _ _ => .inr ⟨row, member, rfl⟩)

theorem cells_eq_map (columns : List ColumnKey) (row : Row) :
    cells columns row = columns.map fun key =>
      ((row.find? key).map fun value => value.toText.toList).getD [] := by
  refine List.map_congr_left fun key _ => ?_
  rw [cell]
  cases row.find? key <;> rfl

/-- Rows with some column are drawn as three borders, a line of the names of the columns, and a line
for each row, all of them with their separators at the same offsets. A column is as wide as the
longest text in it, and every text has a width at its index. -/
theorem drawing_ofRows {rows : List Row} (shown : ∃ row ∈ rows, row.keys ≠ []) :
    (ofRows rows).columns = (rows.flatMap Row.keys).eraseDups ∧
    List.Forall₂ (fun key width => IsGreatest (lengthsIn rows key) width)
      (ofRows rows).columns (ofRows rows).widths ∧
    (rows.map (cells (ofRows rows).columns)).foldlM widen?
      ((header (ofRows rows).columns).map List.length) = some (ofRows rows).widths ∧
    ∃ top names middle bottom data,
      (ofRows rows).drawing =
        String.ofList ((top :: names :: middle :: data ++ [bottom]).flatMap (· ++ ['\n'])) ++ "\n" ++
          toString rows.length ++ " row(s) returned" ∧
      Bordered '┌' '┬' '┐' (ofRows rows).widths top ∧
      Shows ((ofRows rows).columns.map (·.text.toList)) (ofRows rows).widths names ∧
      Bordered '├' '┼' '┤' (ofRows rows).widths middle ∧
      List.Forall₂ (fun row line => Shows ((ofRows rows).columns.map fun key =>
          ((row.find? key).map fun value => value.toText.toList).getD [])
        (ofRows rows).widths line) rows data ∧
      Bordered '└' '┴' '┘' (ofRows rows).widths bottom := by
  obtain ⟨first, present, nonempty⟩ := shown
  have several : (ofRows rows).widths ≠ [] := by
    obtain ⟨key, member⟩ := List.exists_mem_of_ne_nil _ nonempty
    have column : key ∈ (ofRows rows).columns :=
      mem_firstSeen.2 (List.mem_flatMap.2 ⟨first, present, member⟩)
    rw [widths]
    exact List.ne_nil_of_mem (List.mem_map_of_mem column)
  refine ⟨firstSeen_eq_eraseDups _, ?_, foldlM_widen? _ rows, _, _, _, _,
    rows.map fun row => line (cells (ofRows rows).columns row) (ofRows rows).widths, ?_,
    bordered_border _ _ _ several, shows_header rows _, bordered_border _ _ _ several, ?_,
    bordered_border _ _ _ several⟩
  · rw [widths, List.forall₂_map_right_iff, List.forall₂_same]
    exact fun key _ => isGreatest_width rows key
  · exact if_neg (by simpa [ofRows] using List.ne_nil_of_mem present)
  · rw [List.forall₂_map_right_iff, List.forall₂_same]
    intro row member
    rw [← cells_eq_map]
    exact shows_cells member _

def raggedPupils : List Row :=
  [.ofColumns [(.plain "id", .number 1), (.plain "name", .text "Zoë")],
    .ofColumns [(.qualified "student" "id", .text "12"), (.plain "name", .null)], .empty]

theorem drawing_ofRows_raggedPupils :
    (∃ row ∈ raggedPupils, row.keys ≠ []) ∧
    (ofRows raggedPupils).columns = [.plain "id", .plain "name", .qualified "student" "id"] ∧
    (ofRows raggedPupils).widths = [2, 4, 10] ∧
    ∃ names second, Shows ["id".toList, "name".toList, "student.id".toList] [2, 4, 10] names ∧
      Shows [[], "NULL".toList, "12".toList] [2, 4, 10] second ∧ names.length = second.length := by
  have shown : ∃ row ∈ raggedPupils, row.keys ≠ [] := ⟨_, List.mem_cons_self, by decide⟩
  have columns : (ofRows raggedPupils).columns =
      [.plain "id", .plain "name", .qualified "student" "id"] := by decide
  have widths : (ofRows raggedPupils).widths = [2, 4, 10] := by decide +kernel
  obtain ⟨-, -, -, top, names, middle, bottom, data, -, -, named, -, shows, -⟩ :=
    drawing_ofRows shown
  rw [columns, widths] at named shows
  cases shows with
  | cons first rest =>
    cases rest with
    | cons second rest =>
      exact ⟨shown, columns, widths, names, _, named, second,
        named.length.trans second.length.symm⟩

end TableQuery.ResultSet
