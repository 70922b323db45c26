import Mathlib.Algebra.Order.Group.Multiset
import VmHost.Proofs.Monitor.Staff
import VmHost.Proofs.Row

/-!
# What has been handed over

`Stocked` keeps the books of a hand-over: which items the producers started with, have put and still
have, and how many the consumers started to ask for, have taken and still want. Only two steps touch
the books. A put moves an item from a producer to the table, a take moves it from there to a consumer;
since `Staffed` says that the slot is empty before a put, nothing is lost on the table.
-/
namespace VmHost

namespace Monitor.Handoff

/-! ## The books -/

/-- The items that are still to be put. -/
def Role.items : Role → Multiset Nat
  | .producer items => items
  | .consumer _ => 0

/-- How many items are still to be taken. -/
def Role.quota : Role → Nat
  | .producer _ => 0
  | .consumer quota => quota

/-- All items that workers with these roles put. -/
def stock (roles : List Role) : Multiset Nat := (roles.map Role.items).sum

/-- How many items workers with these roles take. -/
def demand (roles : List Role) : Nat := (roles.map Role.quota).sum

/-- The items that a worker still has to put. -/
def Worker.items (x : Worker) : Multiset Nat := x.role.items

/-- How many items a worker still has to take. -/
def Worker.quota (x : Worker) : Nat := x.role.quota

/-- The items that a worker has taken. -/
def Worker.share (x : Worker) : Multiset Nat := x.taken

/-- The books of a hand-over between workers with these roles are right. -/
structure Stocked (roles : List Role) (w : World Table Worker) : Prop where
  /-- What was put has been taken in the same order, but for what is in the slot. -/
  flow : w.shared.put = w.shared.slot.toList ++ w.shared.taken
  /-- What was put comes from the producers, who still have the rest. -/
  items : w.shared.put + w.own.total Worker.items = stock roles
  /-- What was taken is with the consumers. -/
  shares : w.own.total Worker.share = w.shared.taken
  /-- Altogether, the consumers have taken or still want what they were to take. -/
  quotas : w.shared.taken.length + w.own.total Worker.quota = demand roles
  /-- So it is for every single worker. -/
  quota : ∀ o, (w.own.get o).taken.length + (w.own.get o).quota = (roles.map Role.quota).getD o 0
  /-- No full slot has been filled. -/
  overwritten : w.shared.overwritten = 0
  /-- No worker has seen an interrupted wait. -/
  interrupted : w.shared.interrupted = 0

variable {roles : List Role} {w v : World Table Worker} {o : OsThread} {m : State} {x : Worker}

theorem total_start {M : Type} [AddCommMonoid M] (f : Worker → M) (roles : List Role) :
    (start roles).own.total f = (roles.map fun r => f ⟨r, .outside, []⟩).sum := by
  simp only [start, World.start, Row.ofList, Row.total, List.map_map]
  rfl

theorem stocked_start (roles : List Role) : Stocked roles (start roles) where
  flow := rfl
  items := by
    rw [total_start]
    exact zero_add _
  shares := Row.total_eq_zero fun o => by
    rw [get_start]
    cases roles[o]? <;> rfl
  quotas := by
    rw [total_start]
    exact zero_add _
  quota o := by
    rw [get_start, List.getD_eq_getElem?_getD, List.getElem?_map]
    cases roles[o]? with
    | none => rfl
    | some r => exact Nat.zero_add _
  overwritten := rfl
  interrupted := rfl

namespace Stocked

/-- Whoever puts or takes does not change what the others still have to take. -/
theorem set_quota (h : Stocked roles w)
    (hx : x.taken.length + x.quota = (w.own.get o).taken.length + (w.own.get o).quota)
    (o' : OsThread) : ((w.own.set o x).get o').taken.length + ((w.own.set o x).get o').quota =
      (roles.map Role.quota).getD o' 0 := by
  rw [Row.get_set]
  split
  · rename_i e
    rw [hx, e]
    exact h.quota o
  · exact h.quota o'

/-- A worker that keeps its role and what it has taken leaves the books alone. -/
theorem keep (h : Stocked roles w) (hr : x.role = (w.own.get o).role)
    (ht : x.taken = (w.own.get o).taken) : Stocked roles ⟨m, w.shared, w.own.set o x⟩ where
  flow := h.flow
  items := by
    rw [Row.total_set_same rfl (by rw [Worker.items, hr, Worker.items])]
    exact h.items
  shares := by
    rw [Row.total_set_same rfl (by rw [Worker.share, ht, Worker.share])]
    exact h.shares
  quotas := by
    rw [Row.total_set_same rfl (by rw [Worker.quota, hr, Worker.quota])]
    exact h.quotas
  quota := h.set_quota (by rw [Worker.quota, hr, ht, Worker.quota])
  overwritten := h.overwritten
  interrupted := h.interrupted

/-- A producer fills the slot, which is empty. -/
theorem puts (h : Stocked roles w) {item : Nat} {items : List Nat}
    (hr : (w.own.get o).role = .producer (item :: items)) (hs : w.shared.slot = none)
    (hx : x.role = .producer items) (ht : x.taken = (w.own.get o).taken) :
    Stocked roles ⟨m, w.shared.fill item, w.own.set o x⟩ where
  flow := by
    simp only [Table.fill, h.flow, hs]
    rfl
  items := by
    have hi : (w.own.get o).items + 0 = x.items + {item} := by
      rw [Worker.items, Worker.items, hr, hx, add_zero, add_comm]
      rfl
    rw [← h.items, ← add_zero (Row.total _ w.own), ← Row.total_set rfl hi, Table.fill,
      ← Multiset.cons_coe, ← Multiset.singleton_add]
    ac_rfl
  shares := by
    rw [Row.total_set_same rfl (by rw [Worker.share, ht, Worker.share])]
    exact h.shares
  quotas := by
    rw [Row.total_set_same rfl (by rw [Worker.quota, Worker.quota, hr, hx]; rfl)]
    exact h.quotas
  quota := h.set_quota (by rw [Worker.quota, Worker.quota, hr, hx, ht]; rfl)
  overwritten := by
    rw [Table.fill, hs]
    exact h.overwritten
  interrupted := h.interrupted

/-- A consumer empties the slot. -/
theorem takes (h : Stocked roles w) {item quota : Nat}
    (hr : (w.own.get o).role = .consumer (quota + 1)) (hs : w.shared.slot = some item)
    (hx : x.role = .consumer quota) (ht : x.taken = item :: (w.own.get o).taken) :
    Stocked roles ⟨m, w.shared.clear item, w.own.set o x⟩ where
  flow := by
    simp only [Table.clear, h.flow, hs]
    rfl
  items := by
    rw [Row.total_set_same rfl (by rw [Worker.items, Worker.items, hr, hx]; rfl)]
    exact h.items
  shares := by
    have hi : (w.own.get o).share + {item} = x.share + 0 := by
      rw [Worker.share, Worker.share, ht, add_zero, add_comm]
      rfl
    rw [← add_zero (Row.total _ _), Row.total_set rfl hi, h.shares, Table.clear,
      ← Multiset.cons_coe, ← Multiset.singleton_add, add_comm]
  quotas := by
    have hi : (w.own.get o).quota + 0 = x.quota + 1 := by
      rw [Worker.quota, Worker.quota, hr, hx]
      rfl
    have := Row.total_set rfl hi
    have := h.quotas
    simp only [Table.clear, List.length_cons]
    omega
  quota := h.set_quota <| by
    rw [Worker.quota, Worker.quota, hr, hx, ht]
    exact Nat.succ_add_eq_add_succ _ _
  overwritten := h.overwritten
  interrupted := h.interrupted

theorem step (h : Stocked roles w) (ha : Act w o v) : Stocked roles v := by
  cases ha with
  | advances => exact ⟨h.flow, h.items, h.shares, h.quotas, h.quota, h.overwritten, h.interrupted⟩
  | arrives | quits | waits | prepares => exact h.keep rfl rfl
  | puts _ hr hs => exact h.puts hr hs rfl rfl
  | takes _ _ hr hs => exact h.takes hr hs rfl rfl

end Stocked

theorem stocked_of_history {past : List Moment}
    (h : World.History client (start roles) past w) : Stocked roles w := by
  induction h with
  | start => exact stocked_start roles
  | step o hw hs ih => exact ih.step ((staffed_of_history hw).act hs)

end Monitor.Handoff
end VmHost
