/-! What a reader leaves of a list: an end of it, without the part that it took. -/

namespace TableQuery

variable {α : Type} {a b : α} {rest s t : List α}

/-- An end of the list, and not the whole of it. -/
structure Remains (rest s : List α) : Prop where
  ends : rest <:+ s
  shorter : rest.length < s.length

theorem remains_cons (ends : rest <:+ s) : Remains rest (a :: s) :=
  ⟨ends.trans (List.suffix_cons a s), Nat.lt_succ_of_le ends.length_le⟩

theorem remains_of_cons_suffix (ends : a :: rest <:+ s) : Remains rest s :=
  ⟨(List.suffix_cons a rest).trans ends, ends.length_le⟩

namespace Remains

theorem cons (remains : Remains rest s) : Remains rest (a :: s) := remains_cons remains.ends

theorem of_suffix (remains : Remains s t) (ends : rest <:+ s) : Remains rest t :=
  ⟨ends.trans remains.ends, Nat.lt_of_le_of_lt ends.length_le remains.shorter⟩

end Remains

theorem remains_cons_cons (ends : rest <:+ s) : Remains rest (a :: b :: s) :=
  (remains_cons ends).cons

end TableQuery
