import VmHost.Proofs.Monitor.Room

/-!
# Who stands in line

A thread that a notification takes out of the queue still has to be told. The *line* of a monitor is
its queue with the threads before it that are to be told next. A thread stands in line from the
moment that it queues itself up to the moment that its flags say NOTIFIED or that it comes back by
itself, and it stands there once (`Room.Orderly`, `Run.orderly`).
-/
namespace VmHost.Monitor

namespace Room

variable {r r' : Room} {e : Event} {m m' : MonitorId} {i : Identity} {taken rest : List Identity}

/-- The threads that are to be told next, and those in the queue. -/
def line (r : Room) (m : MonitorId) : List Identity := r.owed m ++ r.queue m

/-- A thread waits for a monitor and does not know yet that it was notified. -/
def Expects (r : Room) (i : Identity) (m : MonitorId) : Prop :=
  r.phase i = .asleep m ∨ r.phase i = .decided m false

/-- The flags of a thread say that it was notified. -/
def notified (r : Room) (i : Identity) : Bool := (r.flags i).contains .notified

/-- Those stand in line who expect a notification and have none. -/
structure Orderly (r : Room) : Prop where
  mem_line : ∀ m i, i ∈ r.line m ↔ r.Expects i m ∧ r.notified i = false
  nodup : ∀ m, (r.line m).Nodup
  /-- A thread whose event is to be signaled is not back yet. -/
  telling : ∀ m i, r.telling m = some i → i ∉ r.line m ∧ ∃ b, (r.phase i).wait? = some (m, b)

theorem Expects.unique (h : r.Expects i m) (h' : r.Expects i m') : m = m' := by
  unfold Expects at h h'
  rcases h with h | h <;> rcases h' with h' | h' <;> rw [h] at h' <;> cases h' <;> rfl

theorem Expects.wait? (h : r.Expects i m) : ∃ b, (r.phase i).wait? = some (m, b) := by
  rcases h with h | h <;> rw [h] <;> exact ⟨_, rfl⟩

theorem Orderly.line_unique (h : r.Orderly) (hm : i ∈ r.line m) (hm' : i ∈ r.line m') : m = m' :=
  ((h.mem_line m i).mp hm).1.unique ((h.mem_line m' i).mp hm').1

theorem line_dequeue (hq : r.queue m = taken ++ rest) (m' : MonitorId) :
    (r.dequeue m taken rest).line m' = r.line m' := by
  unfold line dequeue
  by_cases e : m' = m
  · subst e
    simp [hq]
  · simp [e]

theorem Orderly.dequeue (h : r.Orderly) (hq : r.queue m = taken ++ rest) :
    (r.dequeue m taken rest).Orderly where
  mem_line m' j := by rw [line_dequeue hq]; exact h.mem_line m' j
  nodup m' := by rw [line_dequeue hq]; exact h.nodup m'
  telling m' j hj := by rw [line_dequeue hq]; exact h.telling m' j hj

theorem Orderly.step_nodup (h : r.Orderly) (hs : r.Step e r') (m : MonitorId) :
    (r'.line m).Nodup := by
  have hn := h.nodup m
  cases hs with
  | queued i m' hp =>
    have hi : i ∉ r.line m := fun hi => by
      rcases ((h.mem_line m i).mp hi).1 with he | he <;> rw [hp] at he <;> cases he
    unfold line at *
    by_cases e : m = m'
    · subst e
      simp only [if_true]
      rw [← List.append_assoc]
      exact List.nodup_append.mpr ⟨hn, by simp, by grind⟩
    · simpa only [if_neg e] using hn
  | dequeued m' taken rest ho ht hq => exact (h.dequeue hq).nodup m
  | flagged m' i others ho ht =>
    unfold line at *
    by_cases e : m = m'
    · subst e
      rw [ho] at hn
      simpa using (List.nodup_cons.mp hn).2
    · simpa only [if_neg e] using hn
  | signalled | read => exact hn
  | returned i m' notified hp ho ht =>
    unfold line at *
    by_cases e : m = m'
    · subst e
      cases notified
      · simp only [if_true, ho, List.nil_append] at hn ⊢
        exact hn.erase i
      · simpa using hn
    · simpa only [if_neg e] using hn

theorem Orderly.step_mem_line (h : r.Orderly) (hs : r.Step e r') (m : MonitorId) (i : Identity) :
    i ∈ r'.line m ↔ r'.Expects i m ∧ r'.notified i = false := by
  have hw : Flags.waiting.contains .notified = false := by decide
  have hz : Flags.none.contains .notified = false := by decide
  have hu : ∀ a, (Flags.union a .notified).contains .notified = true := fun a =>
    Flags.contains_union ..
  have hm := h.mem_line
  have hn := h.nodup
  unfold line Expects notified at *
  cases hs with
  | queued => grind
  | dequeued m' taken rest ho ht hq => exact (h.dequeue hq).mem_line m i
  | flagged m' j others ho ht =>
    -- The thread that is told stood in this line only, and once.
    have hj := (hm m' j).mp (by simp [ho])
    have := hn m'
    rw [ho, List.cons_append, List.nodup_cons, List.mem_append] at this
    grind
  | signalled => exact hm m i
  | read => grind
  | returned j m' n hp ho ht =>
    have := hn m'
    grind [List.Nodup.mem_erase_iff]

theorem Orderly.step_telling (h : r.Orderly) (hs : r.Step e r') (m : MonitorId) (i : Identity)
    (hi : r'.telling m = some i) :
    i ∉ r'.line m ∧ ∃ b, (r'.phase i).wait? = some (m, b) := by
  have ht := h.telling m i
  unfold line at *
  cases hs with
  | queued j m' hp =>
    obtain ⟨hn, b, hb⟩ := ht hi
    have : i ≠ j := by rintro rfl; rw [hp] at hb; cases hb
    grind
  | dequeued m' taken rest ho hn hq => exact (h.dequeue hq).telling m i hi
  | flagged m' j others ho hn =>
    have hj := ((h.mem_line m' j).mp (by simp [line, ho])).1.wait?
    have := h.nodup m'
    rw [line, ho, List.cons_append, List.nodup_cons, List.mem_append] at this
    grind
  | signalled m' j => grind
  | read j m' hp => grind [Phase.wait?]
  | returned j m' n hp => grind [Phase.wait?, List.mem_of_mem_erase]

theorem Orderly.step (h : r.Orderly) (hs : r.Step e r') : r'.Orderly :=
  ⟨h.step_mem_line hs, h.step_nodup hs, h.step_telling hs⟩

end Room

open State Point

variable {home : Identity → OsThread} {s : State} {past : List Moment}

theorem orderly_start : (State.start.room home).Orderly := by
  constructor <;> intros <;>
    simp_all [Room.line, Room.Expects, server, phaseOf, Monitor.free, Mutex.free, owed, Point.telling,
      phase]

/-- In every state of a disciplined run those stand in line who expect a notification. -/
theorem Run.orderly (h : Run home past s) : (s.room home).Orderly := by
  induction h with
  | start => exact orderly_start
  | @step past s t l hr hf hs ih =>
    rcases (hr.held.simulates hf (step_transition hs)).event_or with ⟨e, -, hx⟩ | ⟨-, hx⟩
    · exact ih.step hx
    · rw [show t.room home = s.room home from hx]
      exact ih

end VmHost.Monitor
