import VmHost.Proofs.Monitor.Transition

/-!
# Disciplined runs

Every identity has an OS thread, its home. A run is disciplined if an identity is passed to an
operation on its own OS thread only. An interruption or a question names just its target, so it may
come from any OS thread. A `Trace` is a run without any discipline.

Statements about all disciplined runs are proved by induction on `Run`; `exists_run` finds a run with
a given end by taking the steps of a list.
-/
namespace VmHost.Monitor

/-- The caller passes its identity to the operation. -/
def Call.isNamed : Call → Bool
  | .dispose _ | .interrupt _ | .query .. => false
  | _ => true

namespace Label

/-- The OS thread that takes the step. -/
def actor : Label → Option OsThread
  | .call o .. | .advance o | .giveUp o => some o
  | .pass _ => none

/-- An identity is passed on its own OS thread only. -/
def Fits (home : Identity → OsThread) : Label → Prop
  | .call o i c => c.isNamed → home i = o
  | _ => True

instance (home : Identity → OsThread) (l : Label) : Decidable (l.Fits home) :=
  match l with
  | .call o i c => inferInstanceAs (Decidable (c.isNamed = true → home i = o))
  | .advance _ | .giveUp _ | .pass _ => inferInstanceAs (Decidable True)

/-! ### Steps of a thread on the OS thread of the same number -/

/-- A thread enters a monitor that is free. -/
def enter (i : Identity) (m : MonitorId) : List Label := [.call i i (.acquire m), .advance i]

/-- A thread waits, up to its sleep. -/
def doze (i : Identity) (m : MonitorId) : List Label :=
  .call i i (.wait m 0) :: List.replicate 4 (.advance i)

/-- A thread notifies the first thread of a queue. -/
def notifyFirst (i : Identity) (m : MonitorId) : List Label :=
  .call i i (.notify m) :: List.replicate 3 (.advance i)

/-- A thread interrupts another one, which is inside a wait. -/
def disturb (i j : Identity) : List Label :=
  .call i i (.interrupt j) :: List.replicate 3 (.advance i)

end Label

/-- A step that was taken, with the states before and after it. -/
structure Moment where
  before : State
  label : Label
  after : State

/-- All runs from the start: the steps, the last one first, and the state reached. -/
inductive Trace : List Moment → State → Prop
  | start : Trace [] .start
  | step {past : List Moment} {s t : State} (l : Label) : Trace past s → s.step l = some t →
      Trace (⟨s, l, t⟩ :: past) t

/-- The disciplined runs from the start: the steps, the last one first, and the state reached. -/
inductive Run (home : Identity → OsThread) : List Moment → State → Prop
  | start : Run home [] .start
  | step {past : List Moment} {s t : State} (l : Label) : Run home past s → l.Fits home →
      s.step l = some t → Run home (⟨s, l, t⟩ :: past) t

theorem Run.trace {home : Identity → OsThread} {past : List Moment} {s : State}
    (h : Run home past s) : Trace past s := by
  induction h with
  | start => exact .start
  | step l _ _ hs ih => exact ih.step l hs

/-- A disciplined run reaches only reachable states. -/
theorem Run.reachable {home : Identity → OsThread} {past : List Moment} {s : State}
    (h : Run home past s) : State.Reachable .start s := by
  induction h with
  | start => exact .refl
  | step l _ _ hs ih => exact .step l ih hs

/-- The disciplined run that goes on with these labels, if there is one. -/
def replay (home : Identity → OsThread) :
    List Label → List Moment → State → Option (List Moment × State)
  | [], past, s => some (past, s)
  | l :: ls, past, s =>
    if l.Fits home then (s.step l).bind fun t => replay home ls (⟨s, l, t⟩ :: past) t else none

theorem Run.replay {home : Identity → OsThread} {ls : List Label} {past past' : List Moment}
    {s t : State} (h : Run home past s) (hr : replay home ls past s = some (past', t)) :
    Run home past' t := by
  induction ls generalizing past s with
  | nil =>
    cases hr
    exact h
  | cons l ls ih =>
    unfold Monitor.replay at hr
    split at hr
    · rename_i hf
      cases hs : s.step l with
      | none => simp [hs] at hr
      | some u =>
        rw [hs] at hr
        exact ih (h.step l hf hs) hr
    · cases hr

/-- A list of labels that leads to the end that is asked for. -/
theorem exists_run (home : Identity → OsThread) (p : List Moment → State → Bool) (ls : List Label)
    (h : (replay home ls [] .start).any (fun r => p r.1 r.2)) :
    ∃ past s, Run home past s ∧ p past s = true := by
  cases hr : replay home ls [] .start with
  | none => simp [hr] at h
  | some r =>
    rw [hr] at h
    exact ⟨r.1, r.2, Run.start.replay hr, h⟩

end VmHost.Monitor
