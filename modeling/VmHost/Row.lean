/-!
# Rows of cells

A row has a cell at every natural number. All but finitely many cells hold the default value, and
only a finite initial part is stored. `get_set` says that writing a cell changes that cell and no
other, which is all that the rest of the library needs to know.
-/
namespace VmHost

/-- The stored cells of a row; the cells after them hold the default value. -/
structure Row (α : Type) where
  cells : List α
  deriving Repr

namespace Row

variable {α : Type} [Inhabited α]

def empty : Row α := ⟨[]⟩

def ofList (cells : List α) : Row α := ⟨cells⟩

def get (r : Row α) (k : Nat) : α := r.cells.getD k default

/-- Writes one cell of a list, after default values if the list is too short. -/
def put : List α → Nat → α → List α
  | [], 0, a => [a]
  | [], k + 1, a => default :: put [] k a
  | _ :: xs, 0, a => a :: xs
  | x :: xs, k + 1, a => x :: put xs k a

def set (r : Row α) (k : Nat) (a : α) : Row α := ⟨put r.cells k a⟩

/-- Replaces the value of a cell by a function of it. -/
def modify (r : Row α) (k : Nat) (f : α → α) : Row α := r.set k (f (r.get k))

/-- Applies a function to every cell. It has to keep the default value, which the cells that are not
stored hold. -/
def map (r : Row α) (f : α → α) : Row α := ⟨r.cells.map f⟩

theorem get_empty (k : Nat) : (empty : Row α).get k = default := by simp [get, empty]

/-- What holds of the default value and of the stored cells holds of every cell. -/
theorem forall_get {p : α → Prop} {r : Row α} (hd : p default) (h : ∀ a ∈ r.cells, p a) (k : Nat) :
    p (r.get k) := by
  rw [get, List.getD_eq_getElem?_getD]
  cases hk : r.cells[k]? with
  | none => exact hd
  | some a => exact h a (List.mem_of_getElem? hk)

theorem getD_put (xs : List α) (k j : Nat) (a : α) :
    (put xs k a).getD j default = if j = k then a else xs.getD j default := by
  fun_induction put xs k a generalizing j with
  | case1 a => cases j <;> simp
  | case2 k a ih => cases j <;> simp_all
  | case3 x xs a => cases j <;> simp
  | case4 x xs k a ih => cases j <;> simp_all

theorem put_put (xs : List α) (k : Nat) (a b : α) : put (put xs k a) k b = put xs k b := by
  fun_induction put xs k a with
  | case1 a => rfl
  | case2 k a ih => simp [put, ih]
  | case3 x xs a => rfl
  | case4 x xs k a ih => simp [put, ih]

theorem put_comm (xs : List α) {k j : Nat} (h : k ≠ j) (a b : α) :
    put (put xs k a) j b = put (put xs j b) k a := by
  fun_induction put xs k a generalizing j with
  | case1 a => cases j <;> simp_all [put]
  | case2 k a ih => cases j <;> simp_all [put]
  | case3 x xs a => cases j <;> simp_all [put]
  | case4 x xs k a ih => cases j <;> simp_all [put]

theorem get_set (r : Row α) (k j : Nat) (a : α) :
    (r.set k a).get j = if j = k then a else r.get j := getD_put r.cells k j a

theorem get_modify (r : Row α) (k j : Nat) (f : α → α) :
    (r.modify k f).get j = if j = k then f (r.get k) else r.get j := get_set ..

/-- The last value written to a cell is the one that counts. -/
theorem set_set (r : Row α) (k : Nat) (a b : α) : (r.set k a).set k b = r.set k b := by
  simp only [set, put_put]

/-- Two cells may be written in either order. -/
theorem set_comm (r : Row α) {k j : Nat} (h : k ≠ j) (a b : α) :
    (r.set k a).set j b = (r.set j b).set k a := by
  simp only [set, put_comm r.cells h]

theorem get_map (r : Row α) (f : α → α) (h : f default = default) (k : Nat) :
    (r.map f).get k = f (r.get k) := by
  simp only [get, map, List.getD_eq_getElem?_getD, List.getElem?_map]
  cases r.cells[k]? <;> simp [h]

theorem map_put (xs : List α) (f : α → α) (h : f default = default) (k : Nat) (a : α) :
    (put xs k a).map f = put (xs.map f) k (f a) := by
  fun_induction put xs k a with
  | case1 a => rfl
  | case2 k a ih => rw [List.map_cons, ih, h]; rfl
  | case3 x xs a => rfl
  | case4 x xs k a ih => rw [List.map_cons, ih]; rfl

theorem map_set (r : Row α) (f : α → α) (h : f default = default) (k : Nat) (a : α) :
    (r.set k a).map f = (r.map f).set k (f a) := by
  simp only [map, set, map_put r.cells f h]

theorem map_modify (r : Row α) (f : α → α) (h : f default = default) (k : Nat) {g g' : α → α}
    (hg : f (g (r.get k)) = g' (f (r.get k))) :
    (r.modify k g).map f = (r.map f).modify k g' := by
  rw [modify, map_set r f h, hg, modify, get_map r f h]

end Row
end VmHost
