/-!
# Mutexes

A mutex of the operating system belongs to at most one OS thread. It checks for errors: taking it
again on the OS thread that holds it fails at once, and so does releasing it on any other thread.
-/
namespace VmHost

/-- An OS thread, by its place among all of them. -/
abbrev OsThread := Nat

/-- A mutex and the OS thread that holds it. -/
structure Mutex where
  holder : Option OsThread
  deriving DecidableEq, Repr, Inhabited

namespace Mutex

def free : Mutex := ⟨none⟩

def isHeld (m : Mutex) : Bool := m.holder.isSome

inductive Attempt
  | taken (m : Mutex)
  /-- Another OS thread holds it. -/
  | busy
  /-- The same OS thread holds it already. -/
  | deadlock
  deriving DecidableEq, Repr

/-- An OS thread tries to take the mutex.
mirrors `Lock.acquire` and `try_acquire` -/
def take (m : Mutex) (o : OsThread) : Attempt :=
  match m.holder with
  | none => .taken ⟨some o⟩
  | some h => if h = o then .deadlock else .busy

/-- The mutex after its release, if the OS thread holds it.
mirrors `Lock.release` -/
def release? (m : Mutex) (o : OsThread) : Option Mutex :=
  if m.holder = some o then some free else none

/-- The error number of taking a mutex twice. -/
def deadlockCode : Int := 35

theorem take_eq_taken_iff (m m' : Mutex) (o : OsThread) :
    m.take o = .taken m' ↔ m.holder = none ∧ m' = ⟨some o⟩ := by
  rcases m with ⟨_ | h⟩
  · simp [take, eq_comm]
  · simp only [take]; split <;> simp

theorem take_eq_busy_iff (m : Mutex) (o : OsThread) :
    m.take o = .busy ↔ ∃ h, m.holder = some h ∧ h ≠ o := by
  rcases m with ⟨_ | h⟩
  · simp [take]
  · simp only [take]; split <;> simp_all

theorem take_eq_deadlock_iff (m : Mutex) (o : OsThread) :
    m.take o = .deadlock ↔ m.holder = some o := by
  rcases m with ⟨_ | h⟩
  · simp [take]
  · simp only [take]; split <;> simp_all

theorem release?_eq_some_iff (m m' : Mutex) (o : OsThread) :
    m.release? o = some m' ↔ m.holder = some o ∧ m' = free := by
  simp only [release?]; split <;> simp_all [eq_comm]

end Mutex
end VmHost
