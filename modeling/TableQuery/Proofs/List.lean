import Mathlib.Data.List.Forall2
import Mathlib.Data.List.Infix
import Mathlib.Data.Multiset.Bind

/-! Lists and options, whatever is in them: filters of a list that was put together from others, the
front of a list left out, and related options. -/

namespace TableQuery

section

variable {α β : Type}

theorem filter_flatMap_of_forall {keeps : α → Bool} {holds : β → Bool} {f : α → List β}
    {xs : List α} (same : ∀ x ∈ xs, ∀ y ∈ f x, holds y = keeps x) :
    (xs.flatMap f).filter holds = (xs.filter keeps).flatMap f := by
  induction xs with
  | nil => rfl
  | cons x xs ih =>
    rw [List.forall_mem_cons] at same
    rw [List.flatMap_cons, List.filter_append, ih same.2]
    by_cases kept : keeps x
    · have all : (f x).filter holds = f x :=
        List.filter_eq_self.2 fun y member => (same.1 y member).trans kept
      rw [all, List.filter_cons_of_pos kept, List.flatMap_cons]
    · have none : (f x).filter holds = [] := by
        refine List.filter_eq_nil_iff.2 fun y member => ?_
        rwa [same.1 y member]
      rw [none, List.filter_cons_of_neg kept, List.nil_append]

theorem filter_product (holds : α × β → Bool) (xs : List α) (ys : List β) :
    (xs ×ˢ ys).filter holds =
      xs.flatMap fun x => (ys.filter fun y => holds (x, y)).map fun y => (x, y) := by
  induction xs with
  | nil => rfl
  | cons x xs ih =>
    rw [List.product_cons, List.filter_append, ih, List.filter_map]
    rfl

theorem map_swap_product_perm (xs : List α) (ys : List β) :
    ((xs ×ˢ ys).map Prod.swap).Perm (ys ×ˢ xs) := by
  rw [← Multiset.coe_eq_coe, ← Multiset.map_coe, ← Multiset.coe_product, ← Multiset.coe_product]
  exact Multiset.map_swap_product _ _

theorem eq_map_of_forall₂ {f : α → β} {related : α → β → Prop} {xs : List α} {ys : List β}
    (same : ∀ x y, related x y → y = f x) (all : List.Forall₂ related xs ys) : ys = xs.map f := by
  have equal : List.Forall₂ (· = ·) (xs.map f) ys :=
    List.forall₂_map_left_iff.2 (all.imp fun x y own => (same x y own).symm)
  rw [List.forall₂_eq_eq_eq] at equal
  exact equal.symm

theorem infix_dropWhile {a b : α} {p : α → Bool} {s : List α} (stops : p a = false)
    (inside : [a, b] <:+: s) : [a, b] <:+: s.dropWhile p := by
  induction s with
  | nil => exact inside
  | cons c s ih =>
    rw [List.dropWhile_cons]
    split
    next passes =>
      refine ih ((List.infix_cons_iff.1 inside).resolve_left fun first => ?_)
      obtain ⟨rfl, -⟩ := List.cons_prefix_cons.1 first
      rw [stops] at passes
      cases passes
    next => exact inside

theorem countP_dropWhile {p q : α → Bool} (apart : ∀ c, p c = true → q c = false)
    (s : List α) : (s.dropWhile p).countP q = s.countP q := by
  induction s with
  | nil => rfl
  | cons c s ih =>
    rw [List.dropWhile_cons]
    split
    next passes => rw [ih, List.countP_cons_of_neg (by simp [apart c passes])]
    next => rfl

end

/-! ### Options -/

section

variable {α β γ δ : Type} {related : α → β → Prop} {relatedToo : γ → δ → Prop} {one : Option α}
  {other : Option β}

theorem rel_bind {next : α → Option γ} {nextToo : β → Option δ}
    (alike : Option.Rel related one other)
    (steps : ∀ u v, related u v → Option.Rel relatedToo (next u) (nextToo v)) :
    Option.Rel relatedToo (one.bind next) (other.bind nextToo) := by
  cases alike with
  | some values => exact steps _ _ values
  | none => exact .none

theorem exists_of_rel {u : α} (alike : Option.Rel related one other) (read : one = some u) :
    ∃ v, other = some v ∧ related u v := by
  cases alike with
  | some values =>
    cases read
    exact ⟨_, rfl, values⟩
  | none => cases read

theorem eq_none_of_rel (alike : Option.Rel related one other) (refused : one = none) :
    other = none := by
  cases alike with
  | some values => cases refused
  | none => rfl

end

end TableQuery
