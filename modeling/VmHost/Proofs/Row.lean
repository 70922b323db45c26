import Mathlib.Algebra.BigOperators.Group.List.Basic
import Mathlib.Algebra.Ring.Nat
import VmHost.Row

/-!
# Sums over a row

Where a value is zero in the cells that are not stored, its sum over all cells is a finite one.
`total_set` says how a sum changes when a cell is written.
-/
namespace VmHost

namespace Row

variable {α M : Type} [Inhabited α] [AddCommMonoid M] {f : α → M} {r : Row α} {k : Nat} {a : α}
  {b c : M}

/-- The sum of a value over all cells. It has to be zero in the cells that are not stored. -/
def total (f : α → M) (r : Row α) : M := (r.cells.map f).sum

theorem sum_put (hf : f default = 0) (xs : List α) (k : Nat) (a : α) :
    ((put xs k a).map f).sum + f (xs.getD k default) = (xs.map f).sum + f a := by
  fun_induction put xs k a with
  | case1 a => simp [hf]
  | case2 k a ih => simpa [hf] using ih
  | case3 x xs a =>
    simp only [List.map_cons, List.sum_cons, List.getD_cons_zero]
    ac_rfl
  | case4 x xs k a ih => simp only [List.map_cons, List.sum_cons, List.getD_cons_succ, add_assoc, ih]

/-- A sum changes by as much as the cell that is written. -/
theorem total_set [IsCancelAdd M] (hf : f default = 0) (h : f (r.get k) + c = f a + b) :
    total f (r.set k a) + b = total f r + c := by
  refine add_right_cancel (b := f a) ?_
  calc total f (r.set k a) + b + f a
    _ = total f (r.set k a) + (f a + b) := by ac_rfl
    _ = total f (r.set k a) + f (r.get k) + c := by rw [← h, add_assoc]
    _ = total f r + f a + c := by rw [total, set, get, sum_put hf, total]
    _ = total f r + c + f a := by ac_rfl

theorem total_set_same [IsCancelAdd M] (hf : f default = 0) (h : f a = f (r.get k)) :
    total f (r.set k a) = total f r := by
  simpa using total_set (b := 0) (c := 0) hf (by rw [h])

theorem total_eq_zero (h : ∀ k, f (r.get k) = 0) : total f r = 0 := by
  refine List.sum_eq_zero fun x hx => ?_
  obtain ⟨y, hy, rfl⟩ := List.mem_map.mp hx
  obtain ⟨k, hk, rfl⟩ := List.mem_iff_getElem.mp hy
  have := h k
  rwa [get, List.getD_eq_getElem?_getD, List.getElem?_eq_getElem hk] at this

theorem le_total {f : α → Nat} (hf : f default = 0) (r : Row α) (k : Nat) :
    f (r.get k) ≤ total f r := by
  have := total_set (r := r) (k := k) (a := default) (b := f (r.get k)) (c := 0) hf (by omega)
  omega

end Row

end VmHost
