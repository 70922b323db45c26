import VmHost.Monitor.Machine

/-!
# What one step of the monitors can do

`State.step` goes through many small functions. Here its outcomes are listed once: `Transition s l t`
has one constructor for each kind of step, with everything that the step needed and the whole state
after it. Each invariant of the monitors is proved by cases on it.

* `step_transition`: a step that can be taken is one of the list.
* `step_violation`: no step is taken after a violation.

The points of an OS thread are sorted by what it holds and what it asks for: the park cell that it
holds (`Point.cell`), the park cell that it is about to take (`Point.reach`), the monitor whose mutex
it is about to take (`Point.seek`), and how it stands to the monitor of its operation (`Point.tie`).
-/
namespace VmHost.Monitor

/-! ## Reading a changed state -/

namespace State

/-- An OS thread now stands at this point, in this name. -/
def place (s : State) (o : OsThread) (i : Identity) (p : Point) : State :=
  { s with threads := s.threads.set o ⟨i, p⟩ }

/-- Time passes. -/
def elapse (s : State) (ms : Nat) : State := { s with now := s.now + ms }

variable (s : State)

@[simp, grind =] theorem monitors_elapse (ms) : (s.elapse ms).monitors = s.monitors := rfl
@[simp, grind =] theorem parks_elapse (ms) : (s.elapse ms).parks = s.parks := rfl
@[simp, grind =] theorem point_elapse (ms o) : (s.elapse ms).point o = s.point o := rfl
@[simp, grind =] theorem who_elapse (ms o) : (s.elapse ms).who o = s.who o := rfl

@[simp, grind =] theorem monitors_place (o i p) : (s.place o i p).monitors = s.monitors := rfl
@[simp, grind =] theorem parks_place (o i p) : (s.place o i p).parks = s.parks := rfl
@[simp, grind =] theorem violation_place (o i p) : (s.place o i p).violation = s.violation := rfl
@[simp] theorem now_place (o i p) : (s.place o i p).now = s.now := rfl

@[simp, grind =] theorem point_place (o i p o') :
    (s.place o i p).point o' = if o' = o then p else s.point o' := by
  simp only [place, point, Row.get_set]; split <;> rfl

@[simp, grind =] theorem who_place (o i p o') :
    (s.place o i p).who o' = if o' = o then i else s.who o' := by
  simp only [place, who, Row.get_set]; split <;> rfl

@[simp, grind =] theorem parks_onMonitor (m f) : (s.onMonitor m f).parks = s.parks := rfl
@[simp, grind =] theorem violation_onMonitor (m f) : (s.onMonitor m f).violation = s.violation := rfl
@[simp] theorem now_onMonitor (m f) : (s.onMonitor m f).now = s.now := rfl
@[simp, grind =] theorem point_onMonitor (m f o) : (s.onMonitor m f).point o = s.point o := rfl
@[simp, grind =] theorem who_onMonitor (m f o) : (s.onMonitor m f).who o = s.who o := rfl

@[simp, grind =] theorem get_onMonitor (m f m') :
    (s.onMonitor m f).monitors.get m' =
      if m' = m then f (s.monitors.get m) else s.monitors.get m' :=
  Row.get_modify ..

@[simp, grind =] theorem monitors_onPark (j f) : (s.onPark j f).monitors = s.monitors := rfl
@[simp, grind =] theorem violation_onPark (j f) : (s.onPark j f).violation = s.violation := rfl
@[simp] theorem now_onPark (j f) : (s.onPark j f).now = s.now := rfl
@[simp, grind =] theorem point_onPark (j f o) : (s.onPark j f).point o = s.point o := rfl
@[simp, grind =] theorem who_onPark (j f o) : (s.onPark j f).who o = s.who o := rfl

@[simp, grind =] theorem get_onPark (j f j') :
    (s.onPark j f).parks.get j' = if j' = j then f (s.parks.get j) else s.parks.get j' :=
  Row.get_modify ..

/-- What the change of a monitor leaves alone. -/
theorem onMonitor_same {α : Type} (g : Monitor → α) {m m' : MonitorId} {f : Monitor → Monitor}
    (hf : ∀ x, g (f x) = g x) :
    g ((s.onMonitor m f).monitors.get m') = g (s.monitors.get m') := by
  rw [get_onMonitor]
  split
  · rename_i e
    rw [hf, e]
  · rfl

/-- What the change of a park cell leaves alone. -/
theorem onPark_same {α : Type} (g : Park → α) {j j' : Identity} {f : Park → Park}
    (hf : ∀ p, g (f p) = g p) :
    g ((s.onPark j f).parks.get j') = g (s.parks.get j') := by
  rw [get_onPark]
  split
  · rename_i e
    rw [hf, e]
  · rfl

@[simp, grind =] theorem monitors_violate (o v) : (s.violate o v).monitors = s.monitors := rfl
@[simp, grind =] theorem parks_violate (o v) : (s.violate o v).parks = s.parks := rfl
@[simp, grind =] theorem point_violate (o v o') : (s.violate o v).point o' = s.point o' := rfl
@[simp, grind =] theorem who_violate (o v o') : (s.violate o v).who o' = s.who o' := rfl
@[simp, grind =] theorem violation_violate (o v) : (s.violate o v).violation = some (o, v) := rfl

theorem onMonitor_onMonitor (m f g) :
    (s.onMonitor m f).onMonitor m g = s.onMonitor m fun x => g (f x) := by
  simp [onMonitor, Row.modify, Row.set_set, Row.get_set]

theorem onPark_onPark (j f g) :
    (s.onPark j f).onPark j g = s.onPark j fun p => g (f p) := by
  simp [onPark, Row.modify, Row.set_set, Row.get_set]

theorem standing_of_threads {s u : State} (hu : u.threads = s.threads) (o : OsThread) :
    u.point o = s.point o ∧ u.who o = s.who o := by
  simp [point, who, hu]

theorem moveTo_eq_place (o p) : s.moveTo o p = s.place o (s.who o) p := rfl

theorem place_place (o i j p q) : (s.place o i p).place o j q = s.place o j q := by
  simp [place, Row.set_set]

theorem onMonitor_place (m f o i p) :
    (s.place o i p).onMonitor m f = (s.onMonitor m f).place o i p := rfl

@[simp] theorem monitors_start (m) : start.monitors.get m = .free := Row.get_empty m
@[simp] theorem parks_start (j) : start.parks.get j = .idle := Row.get_empty j
@[simp] theorem point_start (o) : start.point o = .rest none :=
  congrArg Standing.point (Row.get_empty o)

end State

/-! ## What a point holds and asks for -/

namespace Point

/-- The park cell that is held at a point, by an OS thread acting as `i`. -/
def cell (i : Identity) : Point → Option Identity
  | .consuming | .yielding _ | .clearing _ | .parking _ | .deciding .. => some i
  | .signalling _ t _ | .departing _ t _ | .rousing t | .posted t | .answering t _ => some t
  | _ => none

/-- The park cell that is taken next. -/
def reach (i : Identity) : Point → Option Identity
  | .queueing .. | .waking _ => some i
  | .reaching _ t _ | .posting t | .asking t _ => some t
  | _ => none

/-- The park cell that is released next. -/
def drop (i : Identity) : Point → Option Identity
  | .consuming | .parking _ | .deciding .. => some i
  | .departing _ t _ | .posted t | .answering t _ => some t
  | _ => none

/-- The monitor whose mutex is taken next, however long that takes. -/
def seek : Point → Option MonitorId
  | .entering m => some m
  | .reentering w _ _ => some w.monitor
  | _ => none

/-- How an OS thread stands to a monitor in the middle of an operation. -/
inductive Tie
  | loose
  /-- It does not own the monitor and is on its way to it. -/
  | outside (m : MonitorId)
  /-- It owns the monitor. -/
  | inside (m : MonitorId)
  /-- It has given the monitor up, but for the mutex. -/
  | giving (m : MonitorId)

/-- How an OS thread at a point stands to the monitor of its operation. -/
def tie : Point → Tie
  | .entering m | .trying m => .outside m
  | .leaving m => .giving m
  | .queueing m _ | .reaching m .. | .signalling m .. | .departing m .. => .inside m
  | .yielding w => .giving w.monitor
  | .clearing w | .parking w | .sleeping w _ | .waking w | .deciding w .. | .reentering w .. =>
    .outside w.monitor
  | _ => .loose

/-- The wait that is in progress, from the moment that the thread has queued itself. -/
def wait? : Point → Option Waiting
  | .yielding w | .clearing w | .parking w | .sleeping w _ | .waking w | .deciding w ..
  | .reentering w .. => some w
  | _ => none

end Point

namespace Call

/-- The call enters a monitor; this is its answer. -/
inductive Enters : Call → MonitorId → Reply → Prop
  | acquire (m) : Enters (.acquire m) m .done
  | tryAcquire (m) : Enters (.tryAcquire m) m (.bool true)

/-- The call is for the owner of a monitor only; this is its name. -/
inductive Needs : Call → MonitorId → String → Prop
  | release (m) : Needs (.release m) m "release"
  | wait (m ms) : Needs (.wait m ms) m "wait"
  | notify (m) : Needs (.notify m) m "notify"
  | notifyAll (m) : Needs (.notifyAll m) m "notify_all"
  | depth (m) : Needs (.depth m) m "depth"
  | waiterCount (m) : Needs (.waiterCount m) m "waiter_count"

/-- The call notifies; of the queue it takes out the first part and leaves the second one. -/
inductive Notifies : Call → MonitorId → List Identity → List Identity → Prop
  | nobody (m) : Notifies (.notify m) m [] []
  | one (m i rest) : Notifies (.notify m) m [i] rest
  | all (m q) : Notifies (.notifyAll m) m q []

end Call

namespace Query

/-- The answer to a question. -/
def answer (q : Query) (p : Park) : Reply :=
  match q with
  | .flags => .flags p.flags
  | .isInterrupted | .takeInterrupted => .bool p.interrupted

/-- A pending interruption is still pending after the question. -/
def keeps : Query → Bool
  | .flags | .isInterrupted => true
  | .takeInterrupted => false

end Query

/-! ## The kinds of steps -/

/-- An operation that has begun without a change to a monitor or park cell stands at this point. -/
inductive Begins (s : State) (i : Identity) : Call → Point → Prop
  | acquire (m) : (s.monitors.get m).owner ≠ some i → Begins s i (.acquire m) (.entering m)
  | tryAcquire (m) : (s.monitors.get m).owner ≠ some i → Begins s i (.tryAcquire m) (.trying m)
  | overflow (c m r) : c.Enters m r → (s.monitors.get m).owner = some i →
      depthLimit ≤ (s.monitors.get m).depth → Begins s i c .overflowed
  | underflow (m) : (s.monitors.get m).owner = some i → (s.monitors.get m).depth = 0 →
      Begins s i (.release m) .overflowed
  | wait (m ms) : (s.monitors.get m).owner = some i → Begins s i (.wait m ms) (.queueing m ms)
  | depth (m) : (s.monitors.get m).owner = some i →
      Begins s i (.depth m) (.rest (some (.count (s.monitors.get m).depth)))
  | waiterCount (m) : (s.monitors.get m).owner = some i →
      Begins s i (.waiterCount m) (.rest (some (.count (s.monitors.get m).queue.length)))
  | dispose (m) : (s.monitors.get m).owner = none → (s.monitors.get m).lock.holder = none →
      Begins s i (.dispose m) (.rest (some .done))
  | interrupt (t) : Begins s i (.interrupt t) (.posting t)
  | query (t q) : Begins s i (.query t q) (.asking t q)

/-- The rule that a call breaks at once. -/
inductive Refused (s : State) (i : Identity) : Call → Violation → Prop
  | notOwner {c m operation} : c.Needs m operation → (s.monitors.get m).owner ≠ some i →
      Refused s i c (.notOwner operation)
  | owned (m) : (s.monitors.get m).owner ≠ none →
      Refused s i (.dispose m) (.disposedInUse "monitor")
  | locked (m) : (s.monitors.get m).owner = none → (s.monitors.get m).lock.holder ≠ none →
      Refused s i (.dispose m) (.disposedInUse "lock")

/-- The rule that an OS thread breaks in the middle of an operation: it takes a mutex that it holds
already, or releases one that it does not hold. -/
inductive Crashes (s : State) (o : OsThread) : Violation → Prop
  | seek (m) : (s.point o).seek = some m → (s.monitors.get m).lock.holder = some o →
      Crashes s o (.unexpected "pthread_mutex_lock" Mutex.deadlockCode)
  | reach (j) : (s.point o).reach (s.who o) = some j → (s.parks.get j).lock.holder = some o →
      Crashes s o (.unexpected "pthread_mutex_lock" Mutex.deadlockCode)
  | give (m) : (s.point o).tie = .giving m → (s.monitors.get m).lock.holder ≠ some o →
      Crashes s o .lockNotHeld
  | drop (j) : (s.point o).drop (s.who o) = some j → (s.parks.get j).lock.holder ≠ some o →
      Crashes s o .lockNotHeld

inductive Transition (s : State) : Label → State → Prop
  | passes (ms) : Transition s (.pass ms) (s.elapse ms)
  | begins {o i c r p} : s.point o = .rest r → Begins s i c p →
      Transition s (.call o i c) (s.place o i p)
  | refused {o i c r v} : s.point o = .rest r → Refused s i c v →
      Transition s (.call o i c) ((s.place o i (.rest none)).violate o v)
  | crashes {o v} : Crashes s o v → Transition s (.advance o) (s.violate o v)
  -- Entering and leaving.
  | nests {o i c r m a} : s.point o = .rest r → c.Enters m a →
      (s.monitors.get m).owner = some i → (s.monitors.get m).depth < depthLimit →
      Transition s (.call o i c)
        ((s.onMonitor m fun x => { x with depth := x.depth + 1 }).place o i (.rest (some a)))
  | unnests {o i r m d} : s.point o = .rest r →
      (s.monitors.get m).owner = some i → (s.monitors.get m).depth = d + 2 →
      Transition s (.call o i (.release m))
        ((s.onMonitor m ({ · with depth := d + 1 })).place o i (.rest (some .done)))
  | quits {o i r m} : s.point o = .rest r →
      (s.monitors.get m).owner = some i → (s.monitors.get m).depth = 1 →
      Transition s (.call o i (.release m))
        ((s.onMonitor m ({ · with depth := 0, owner := none })).place o i (.leaving m))
  | enters {o m a} : s.point o = .entering m ∧ a = .done ∨ s.point o = .trying m ∧ a = .bool true →
      (s.monitors.get m).lock.holder = none →
      Transition s (.advance o)
        ((s.onMonitor m ({ · with lock := ⟨some o⟩, owner := some (s.who o), depth := 1 })).place
          o (s.who o) (.rest (some a)))
  | misses {o m} : s.point o = .trying m → (s.monitors.get m).lock.holder ≠ none →
      Transition s (.advance o) (s.place o (s.who o) (.rest (some (.bool false))))
  | leaves {o m} : s.point o = .leaving m → (s.monitors.get m).lock.holder = some o →
      Transition s (.advance o)
        ((s.onMonitor m ({ · with lock := .free })).place o (s.who o) (.rest (some .done)))
  -- Waiting.
  | declines {o m ms} : s.point o = .queueing m ms → (s.parks.get (s.who o)).lock.holder = none →
      (s.parks.get (s.who o)).interrupted = true →
      Transition s (.advance o)
        ((s.onPark (s.who o) ({ · with lock := ⟨some o⟩, interrupted := false })).place
          o (s.who o) .consuming)
  | declined {o} : s.point o = .consuming → (s.parks.get (s.who o)).lock.holder = some o →
      Transition s (.advance o)
        ((s.onPark (s.who o) ({ · with lock := .free })).place
          o (s.who o) (.rest (some (.bool true))))
  | queues {o m ms} : s.point o = .queueing m ms → (s.parks.get (s.who o)).lock.holder = none →
      (s.parks.get (s.who o)).interrupted = false →
      Transition s (.advance o)
        (((s.onPark (s.who o) ({ · with lock := ⟨some o⟩, flags := .waiting })).onMonitor m
          fun x => { x with queue := x.queue ++ [s.who o], depth := 0, owner := none }).place
            o (s.who o) (.yielding ⟨m, ms, (s.monitors.get m).depth⟩))
  | yields {o w} : s.point o = .yielding w → (s.monitors.get w.monitor).lock.holder = some o →
      Transition s (.advance o)
        ((s.onMonitor w.monitor ({ · with lock := .free })).place o (s.who o) (.clearing w))
  | clears {o w} : s.point o = .clearing w →
      Transition s (.advance o)
        ((s.onPark (s.who o) ({ · with signaled := false })).place o (s.who o) (.parking w))
  | parks {o w} : s.point o = .parking w → (s.parks.get (s.who o)).lock.holder = some o →
      Transition s (.advance o)
        ((s.onPark (s.who o) ({ · with lock := .free })).place o (s.who o) (.sleeping w s.now))
  | wakes {o w since l} : s.point o = .sleeping w since →
      l = .advance o ∧ (s.parks.get (s.who o)).signaled = true ∨
        l = .giveUp o ∧ w.ms ≠ 0 ∧ since + w.ms ≤ s.now →
      Transition s l (s.place o (s.who o) (.waking w))
  | collects {o w} : s.point o = .waking w → (s.parks.get (s.who o)).lock.holder = none →
      Transition s (.advance o)
        ((s.onPark (s.who o)
            ({ · with lock := ⟨some o⟩, flags := .none, interrupted := false })).place o (s.who o)
          (.deciding w (s.parks.get (s.who o)).isNotified (s.parks.get (s.who o)).interrupted))
  | decides {o w n b} : s.point o = .deciding w n b →
      (s.parks.get (s.who o)).lock.holder = some o →
      Transition s (.advance o)
        ((s.onPark (s.who o) ({ · with lock := .free })).place o (s.who o) (.reentering w n b))
  | returns {o w n b} : s.point o = .reentering w n b →
      (s.monitors.get w.monitor).lock.holder = none →
      Transition s (.advance o)
        ((s.onMonitor w.monitor fun x =>
            ⟨⟨some o⟩, some (s.who o), w.saved, if n then x.queue else x.queue.erase (s.who o)⟩).place
          o (s.who o) (.rest (some (.bool b))))
  -- Notifying.
  | notifiesNobody {o i r c m} : s.point o = .rest r → c.Notifies m [] [] →
      (s.monitors.get m).owner = some i → (s.monitors.get m).queue = [] →
      Transition s (.call o i c)
        ((s.onMonitor m ({ · with queue := [] })).place o i (.rest (some .done)))
  | notifies {o i r c m first others rest} : s.point o = .rest r →
      c.Notifies m (first :: others) rest → (s.monitors.get m).owner = some i →
      (s.monitors.get m).queue = first :: (others ++ rest) →
      Transition s (.call o i c)
        ((s.onMonitor m ({ · with queue := rest })).place o i (.reaching m first others))
  | flags {o m j others} : s.point o = .reaching m j others → (s.parks.get j).lock.holder = none →
      Transition s (.advance o)
        ((s.onPark j fun p => { p with lock := ⟨some o⟩, flags := p.flags.union .notified }).place
          o (s.who o) (.signalling m j others))
  | signals {o m j others} : s.point o = .signalling m j others →
      Transition s (.advance o)
        ((s.onPark j ({ · with signaled := true })).place o (s.who o) (.departing m j others))
  | delivers {o m j first others} : s.point o = .departing m j (first :: others) →
      (s.parks.get j).lock.holder = some o →
      Transition s (.advance o)
        ((s.onPark j ({ · with lock := .free })).place o (s.who o) (.reaching m first others))
  | delivered {o m j} : s.point o = .departing m j [] → (s.parks.get j).lock.holder = some o →
      Transition s (.advance o)
        ((s.onPark j ({ · with lock := .free })).place o (s.who o) (.rest (some .done)))
  -- Interrupting and asking.
  | posts {o j p} : s.point o = .posting j → (s.parks.get j).lock.holder = none →
      p = (if (s.parks.get j).isWaiting then .rousing j else .posted j) →
      Transition s (.advance o)
        ((s.onPark j ({ · with lock := ⟨some o⟩, interrupted := true })).place o (s.who o) p)
  | rouses {o j} : s.point o = .rousing j →
      Transition s (.advance o)
        ((s.onPark j ({ · with signaled := true })).place o (s.who o) (.posted j))
  | posted {o j} : s.point o = .posted j → (s.parks.get j).lock.holder = some o →
      Transition s (.advance o)
        ((s.onPark j ({ · with lock := .free })).place o (s.who o) (.rest (some .done)))
  | asks {o j q} : s.point o = .asking j q → (s.parks.get j).lock.holder = none →
      Transition s (.advance o)
        ((s.onPark j fun p =>
            { p with lock := ⟨some o⟩, interrupted := q.keeps && p.interrupted }).place o (s.who o)
          (.answering j (q.answer (s.parks.get j))))
  | answers {o j a} : s.point o = .answering j a → (s.parks.get j).lock.holder = some o →
      Transition s (.advance o)
        ((s.onPark j ({ · with lock := .free })).place o (s.who o) (.rest (some a)))

/-! ## Every step is of one of these kinds -/

namespace State

section Begin

variable (s : State) (o : OsThread) (i : Identity) (m : MonitorId)

theorem begin_acquire : s.begin o i (.acquire m) =
    if (s.monitors.get m).isOwnedBy i then (s.place o i (.rest none)).nest o m .done
    else (s.place o i (.rest none)).moveTo o (.entering m) := rfl

theorem begin_tryAcquire : s.begin o i (.tryAcquire m) =
    if (s.monitors.get m).isOwnedBy i then (s.place o i (.rest none)).nest o m (.bool true)
    else (s.place o i (.rest none)).moveTo o (.trying m) := rfl

theorem begin_release : s.begin o i (.release m) =
    (s.place o i (.rest none)).asOwner o i m "release" (·.unnest o m) := rfl

theorem begin_wait (ms : Nat) : s.begin o i (.wait m ms) =
    (s.place o i (.rest none)).asOwner o i m "wait" (·.moveTo o (.queueing m ms)) := rfl

theorem begin_notify : s.begin o i (.notify m) =
    (s.place o i (.rest none)).asOwner o i m "notify" fun u =>
      (u.onMonitor m ({ · with queue := (u.monitors.get m).queue.drop 1 })).deliver o m
        ((u.monitors.get m).queue.take 1) := rfl

theorem begin_notifyAll : s.begin o i (.notifyAll m) =
    (s.place o i (.rest none)).asOwner o i m "notify_all" fun u =>
      (u.onMonitor m ({ · with queue := [] })).deliver o m (u.monitors.get m).queue := rfl

theorem begin_depth : s.begin o i (.depth m) =
    (s.place o i (.rest none)).asOwner o i m "depth" fun u =>
      u.finish o (.count (u.monitors.get m).depth) := rfl

theorem begin_waiterCount : s.begin o i (.waiterCount m) =
    (s.place o i (.rest none)).asOwner o i m "waiter_count" fun u =>
      u.finish o (.count (u.monitors.get m).queue.length) := rfl

theorem begin_dispose : s.begin o i (.dispose m) =
    if (s.monitors.get m).owner.isSome then
      (s.place o i (.rest none)).violate o (.disposedInUse "monitor")
    else if (s.monitors.get m).lock.isHeld then
      (s.place o i (.rest none)).violate o (.disposedInUse "lock")
    else (s.place o i (.rest none)).finish o .done := rfl

theorem begin_interrupt (j : Identity) : s.begin o i (.interrupt j) =
    (s.place o i (.rest none)).moveTo o (.posting j) := rfl

theorem begin_query (j : Identity) (q : Query) : s.begin o i (.query j q) =
    (s.place o i (.rest none)).moveTo o (.asking j q) := rfl

end Begin

variable {s t : State} {o : OsThread} {next : State → State}

theorem lockMonitor_eq_some {m : MonitorId} (h : s.lockMonitor o m next = some t) :
    ((s.monitors.get m).lock.holder = none ∧
      t = next (s.onMonitor m ({ · with lock := ⟨some o⟩ }))) ∨
    ((s.monitors.get m).lock.holder = some o ∧
      t = s.violate o (.unexpected "pthread_mutex_lock" Mutex.deadlockCode)) := by
  unfold lockMonitor at h
  split at h
  · rename_i lock hl
    obtain ⟨hf, rfl⟩ := (Mutex.take_eq_taken_iff ..).mp hl
    exact .inl ⟨hf, (Option.some.inj h).symm⟩
  · cases h
  · rename_i hl
    exact .inr ⟨(Mutex.take_eq_deadlock_iff ..).mp hl, (Option.some.inj h).symm⟩

theorem lockPark_eq_some {j : Identity} (h : s.lockPark o j next = some t) :
    ((s.parks.get j).lock.holder = none ∧
      t = next (s.onPark j ({ · with lock := ⟨some o⟩ }))) ∨
    ((s.parks.get j).lock.holder = some o ∧
      t = s.violate o (.unexpected "pthread_mutex_lock" Mutex.deadlockCode)) := by
  unfold lockPark at h
  split at h
  · rename_i lock hl
    obtain ⟨hf, rfl⟩ := (Mutex.take_eq_taken_iff ..).mp hl
    exact .inl ⟨hf, (Option.some.inj h).symm⟩
  · cases h
  · rename_i hl
    exact .inr ⟨(Mutex.take_eq_deadlock_iff ..).mp hl, (Option.some.inj h).symm⟩

theorem unlockMonitor_eq {m : MonitorId} (h : s.unlockMonitor o m next = t) :
    ((s.monitors.get m).lock.holder = some o ∧
      t = next (s.onMonitor m ({ · with lock := .free }))) ∨
    ((s.monitors.get m).lock.holder ≠ some o ∧ t = s.violate o .lockNotHeld) := by
  subst h
  unfold unlockMonitor
  split
  · rename_i lock hl
    obtain ⟨hh, rfl⟩ := (Mutex.release?_eq_some_iff ..).mp hl
    exact .inl ⟨hh, rfl⟩
  · rename_i hl
    refine .inr ⟨fun hh => ?_, rfl⟩
    have := (Mutex.release?_eq_some_iff _ .free _).mpr ⟨hh, rfl⟩
    rw [hl] at this; cases this

theorem unlockPark_eq {j : Identity} (h : s.unlockPark o j next = t) :
    ((s.parks.get j).lock.holder = some o ∧
      t = next (s.onPark j ({ · with lock := .free }))) ∨
    ((s.parks.get j).lock.holder ≠ some o ∧ t = s.violate o .lockNotHeld) := by
  subst h
  unfold unlockPark
  split
  · rename_i lock hl
    obtain ⟨hh, rfl⟩ := (Mutex.release?_eq_some_iff ..).mp hl
    exact .inl ⟨hh, rfl⟩
  · rename_i hl
    refine .inr ⟨fun hh => ?_, rfl⟩
    have := (Mutex.release?_eq_some_iff _ .free _).mpr ⟨hh, rfl⟩
    rw [hl] at this; cases this

theorem isOwnedBy_eq_true {x : Monitor} {i : Identity} : x.isOwnedBy i = true ↔ x.owner = some i := by
  simp [isOwnedBy]

/-- The outcome of an operation that goes on only as the owner. -/
theorem asOwner_transition {i : Identity} {c : Call} {r : Option Reply} {m : MonitorId}
    {operation : String} (hr : s.point o = .rest r) (hc : c.Needs m operation)
    (h : (s.monitors.get m).owner = some i →
      Transition s (.call o i c) (next (s.place o i (.rest none)))) :
    Transition s (.call o i c) ((s.place o i (.rest none)).asOwner o i m operation next) := by
  unfold asOwner
  split
  · rename_i ho
    exact h (isOwnedBy_eq_true.mp ho)
  · rename_i ho
    exact .refused hr (.notOwner hc fun e => ho (isOwnedBy_eq_true.mpr e))

/-- The outcome of entering a monitor as its owner. -/
theorem nest_transition {i : Identity} {c : Call} {r : Option Reply} {m : MonitorId} {a : Reply}
    (hr : s.point o = .rest r) (hc : c.Enters m a) (ho : (s.monitors.get m).owner = some i) :
    Transition s (.call o i c) ((s.place o i (.rest none)).nest o m a) := by
  unfold nest
  split
  · rename_i hd
    have := Transition.nests hr hc ho hd
    simpa [finish, moveTo_eq_place, onMonitor_place, place_place] using this
  · rename_i hd
    have := Transition.begins hr (.overflow c m a hc ho (Nat.le_of_not_lt hd))
    simpa [moveTo_eq_place, place_place] using this

/-- The outcome of a notification by the owner, which takes `q` out of the queue. -/
theorem deliver_transition {i : Identity} {c : Call} {r : Option Reply} {m : MonitorId}
    {q rest : List Identity} (hr : s.point o = .rest r) (hc : c.Notifies m q rest)
    (ho : (s.monitors.get m).owner = some i) (hq : (s.monitors.get m).queue = q ++ rest) :
    Transition s (.call o i c)
      (((s.place o i (.rest none)).onMonitor m ({ · with queue := rest })).deliver o m q) := by
  cases q with
  | nil =>
    obtain rfl : rest = [] := by cases hc <;> rfl
    have := Transition.notifiesNobody hr hc ho hq
    simpa [deliver, finish, moveTo_eq_place, onMonitor_place, place_place] using this
  | cons first others =>
    have := Transition.notifies hr hc ho hq
    simpa [deliver, moveTo_eq_place, onMonitor_place, place_place] using this

theorem unnest_transition {i : Identity} {r : Option Reply} {m : MonitorId}
    (hr : s.point o = .rest r) (ho : (s.monitors.get m).owner = some i) :
    Transition s (.call o i (.release m)) ((s.place o i (.rest none)).unnest o m) := by
  unfold unnest
  split
  · rename_i hd
    have := Transition.begins hr (.underflow m ho hd)
    simpa [moveTo_eq_place, place_place] using this
  · rename_i hd
    have := Transition.quits hr ho hd
    simpa [moveTo_eq_place, onMonitor_place, place_place] using this
  · rename_i d hd
    have := Transition.unnests hr ho hd
    simpa [finish, moveTo_eq_place, onMonitor_place, place_place] using this

theorem begin_transition {i : Identity} {c : Call} {r : Option Reply} (hr : s.point o = .rest r) :
    Transition s (.call o i c) (s.begin o i c) := by
  cases c with
  | acquire m =>
    rw [begin_acquire]
    split
    · rename_i ho
      exact nest_transition hr (.acquire m) (isOwnedBy_eq_true.mp ho)
    · rename_i ho
      have := Transition.begins hr (.acquire m fun e => ho (isOwnedBy_eq_true.mpr e))
      simpa [moveTo_eq_place, place_place] using this
  | tryAcquire m =>
    rw [begin_tryAcquire]
    split
    · rename_i ho
      exact nest_transition hr (.tryAcquire m) (isOwnedBy_eq_true.mp ho)
    · rename_i ho
      have := Transition.begins hr (.tryAcquire m fun e => ho (isOwnedBy_eq_true.mpr e))
      simpa [moveTo_eq_place, place_place] using this
  | release m =>
    rw [begin_release]
    exact asOwner_transition hr (.release m) (unnest_transition hr)
  | wait m ms =>
    rw [begin_wait]
    refine asOwner_transition hr (.wait m ms) fun ho => ?_
    have := Transition.begins hr (.wait m ms ho)
    simpa [moveTo_eq_place, place_place] using this
  | notify m =>
    rw [begin_notify]
    refine asOwner_transition hr (.notify m) fun ho => ?_
    simp only [monitors_place]
    cases hq : (s.monitors.get m).queue with
    | nil => exact deliver_transition hr (.nobody m) ho hq
    | cons i rest => exact deliver_transition hr (.one m i rest) ho hq
  | notifyAll m =>
    rw [begin_notifyAll]
    refine asOwner_transition hr (.notifyAll m) fun ho => ?_
    exact deliver_transition hr (.all m _) ho (List.append_nil _).symm
  | depth m =>
    rw [begin_depth]
    refine asOwner_transition hr (.depth m) fun ho => ?_
    have := Transition.begins hr (.depth m ho)
    simpa [finish, moveTo_eq_place, place_place] using this
  | waiterCount m =>
    rw [begin_waiterCount]
    refine asOwner_transition hr (.waiterCount m) fun ho => ?_
    have := Transition.begins hr (.waiterCount m ho)
    simpa [finish, moveTo_eq_place, place_place] using this
  | dispose m =>
    rw [begin_dispose]
    split
    · rename_i ho
      exact .refused hr (.owned m (Option.isSome_iff_ne_none.mp ho))
    · rename_i ho
      have ho : (s.monitors.get m).owner = none := by simpa using ho
      split
      · rename_i hl
        exact .refused hr (.locked m ho (Option.isSome_iff_ne_none.mp hl))
      · rename_i hl
        have := Transition.begins hr (.dispose (i := i) m ho (by simpa [Mutex.isHeld] using hl))
        simpa [finish, moveTo_eq_place, place_place] using this
  | interrupt j =>
    rw [begin_interrupt]
    have := Transition.begins (o := o) hr (.interrupt (i := i) j)
    simpa [moveTo_eq_place, place_place] using this
  | query j q =>
    rw [begin_query]
    have := Transition.begins (o := o) hr (.query (i := i) j q)
    simpa [moveTo_eq_place, place_place] using this

/-- What becomes of a park cell that is taken for a question. -/
theorem ask_eq (s : State) (o : OsThread) (j : Identity) (q : Query) :
    (s.onPark j ({ · with lock := ⟨some o⟩ })).ask o j q =
      (s.onPark j fun p =>
        { p with lock := ⟨some o⟩, interrupted := q.keeps && p.interrupted }).place o (s.who o)
          (.answering j (q.answer (s.parks.get j))) := by
  cases q <;>
    simp [ask, moveTo_eq_place, onPark_onPark, Query.answer, Query.keeps]

theorem advance_transition (h : s.advance o = some t) : Transition s (.advance o) t := by
  unfold advance at h
  dsimp only at h
  cases hp : s.point o with
  | rest r => simp [hp] at h
  | overflowed => simp [hp] at h
  | entering m =>
    simp only [hp] at h
    rcases lockMonitor_eq_some h with ⟨hf, rfl⟩ | ⟨hh, rfl⟩
    · have := Transition.enters (.inl ⟨hp, rfl⟩) hf
      simpa [own, finish, moveTo_eq_place, onMonitor_onMonitor] using this
    · exact .crashes (.seek m (by simp [hp, Point.seek]) hh)
  | trying m =>
    simp only [hp] at h
    split at h
    · rename_i lock hl
      obtain ⟨hf, rfl⟩ := (Mutex.take_eq_taken_iff ..).mp hl
      have := Transition.enters (.inr ⟨hp, rfl⟩) hf
      cases h
      simpa [own, finish, moveTo_eq_place, onMonitor_onMonitor] using this
    · rename_i hl
      cases h
      obtain ⟨x, hx, -⟩ := (Mutex.take_eq_busy_iff ..).mp hl
      exact .misses hp (by simp [hx])
    · rename_i hl
      cases h
      exact .misses hp (by simp [(Mutex.take_eq_deadlock_iff ..).mp hl])
  | leaving m =>
    simp only [hp, Option.some.injEq] at h
    rcases unlockMonitor_eq h with ⟨hh, rfl⟩ | ⟨hh, rfl⟩
    · exact .leaves hp hh
    · exact .crashes (.give m (by simp [hp, Point.tie]) hh)
  | queueing m ms =>
    simp only [hp] at h
    rcases lockPark_eq_some h with ⟨hf, rfl⟩ | ⟨hh, rfl⟩
    · cases hi : (s.parks.get (s.who o)).interrupted with
      | true =>
        have := Transition.declines hp hf hi
        simpa [enqueue, hi, moveTo_eq_place, onPark_onPark] using this
      | false =>
        have := Transition.queues hp hf hi
        simpa [enqueue, hi, moveTo_eq_place, onPark_onPark] using this
    · exact .crashes (.reach _ (by simp [hp, Point.reach]) hh)
  | consuming =>
    simp only [hp, Option.some.injEq] at h
    rcases unlockPark_eq h with ⟨hh, rfl⟩ | ⟨hh, rfl⟩
    · exact .declined hp hh
    · exact .crashes (.drop _ (by simp [hp, Point.drop]) hh)
  | yielding w =>
    simp only [hp, Option.some.injEq] at h
    rcases unlockMonitor_eq h with ⟨hh, rfl⟩ | ⟨hh, rfl⟩
    · exact .yields hp hh
    · exact .crashes (.give _ (by simp [hp, Point.tie]) hh)
  | clearing w =>
    simp only [hp, Option.some.injEq] at h
    exact h ▸ .clears hp
  | parking w =>
    simp only [hp, Option.some.injEq] at h
    rcases unlockPark_eq h with ⟨hh, rfl⟩ | ⟨hh, rfl⟩
    · exact .parks hp hh
    · exact .crashes (.drop _ (by simp [hp, Point.drop]) hh)
  | sleeping w since =>
    simp only [hp] at h
    split at h
    · rename_i hs
      cases h
      exact .wakes hp (.inl ⟨rfl, hs⟩)
    · cases h
  | waking w =>
    simp only [hp] at h
    rcases lockPark_eq_some h with ⟨hf, rfl⟩ | ⟨hh, rfl⟩
    · have := Transition.collects hp hf
      simpa [collect, Park.isNotified, moveTo_eq_place, onPark_onPark] using this
    · exact .crashes (.reach _ (by simp [hp, Point.reach]) hh)
  | deciding w n b =>
    simp only [hp, Option.some.injEq] at h
    rcases unlockPark_eq h with ⟨hh, rfl⟩ | ⟨hh, rfl⟩
    · exact .decides hp hh
    · exact .crashes (.drop _ (by simp [hp, Point.drop]) hh)
  | reentering w n b =>
    simp only [hp] at h
    rcases lockMonitor_eq_some h with ⟨hf, rfl⟩ | ⟨hh, rfl⟩
    · have := Transition.returns hp hf
      cases n <;> simpa [comeBack, own, finish, moveTo_eq_place, onMonitor_onMonitor] using this
    · exact .crashes (.seek _ (by simp [hp, Point.seek]) hh)
  | reaching m j others =>
    simp only [hp] at h
    rcases lockPark_eq_some h with ⟨hf, rfl⟩ | ⟨hh, rfl⟩
    · have := Transition.flags hp hf
      simpa [moveTo_eq_place, onPark_onPark] using this
    · exact .crashes (.reach _ (by simp [hp, Point.reach]) hh)
  | signalling m j others =>
    simp only [hp, Option.some.injEq] at h
    exact h ▸ .signals hp
  | departing m j others =>
    simp only [hp, Option.some.injEq] at h
    rcases unlockPark_eq h with ⟨hh, rfl⟩ | ⟨hh, rfl⟩
    · cases others with
      | nil => exact .delivered hp hh
      | cons first others => exact .delivers hp hh
    · exact .crashes (.drop _ (by simp [hp, Point.drop]) hh)
  | posting j =>
    simp only [hp] at h
    rcases lockPark_eq_some h with ⟨hf, rfl⟩ | ⟨hh, rfl⟩
    · have := Transition.posts hp hf rfl
      cases hw : (s.parks.get j).flags.contains .waiting <;>
        simpa [interrupt, Park.isWaiting, hw, moveTo_eq_place, onPark_onPark] using this
    · exact .crashes (.reach _ (by simp [hp, Point.reach]) hh)
  | rousing j =>
    simp only [hp, Option.some.injEq] at h
    exact h ▸ .rouses hp
  | posted j =>
    simp only [hp, Option.some.injEq] at h
    rcases unlockPark_eq h with ⟨hh, rfl⟩ | ⟨hh, rfl⟩
    · exact .posted hp hh
    · exact .crashes (.drop _ (by simp [hp, Point.drop]) hh)
  | asking j q =>
    simp only [hp] at h
    rcases lockPark_eq_some h with ⟨hf, rfl⟩ | ⟨hh, rfl⟩
    · rw [ask_eq]
      exact .asks hp hf
    · exact .crashes (.reach _ (by simp [hp, Point.reach]) hh)
  | answering j a =>
    simp only [hp, Option.some.injEq] at h
    rcases unlockPark_eq h with ⟨hh, rfl⟩ | ⟨hh, rfl⟩
    · exact .answers hp hh
    · exact .crashes (.drop _ (by simp [hp, Point.drop]) hh)

end State

open State

/-- Nothing happens after a violation. -/
theorem step_violation {s t : State} {l : Label} (h : s.step l = some t) : s.violation = none := by
  unfold State.step at h
  split at h
  · cases h
  · rename_i hv
    simpa using hv

theorem step_transition {s t : State} {l : Label} (h : s.step l = some t) : Transition s l t := by
  unfold State.step at h
  split at h
  · cases h
  cases l with
  | call o i c =>
    simp only at h
    split at h
    · rename_i r hr
      cases h
      exact begin_transition hr
    · cases h
  | advance o => exact advance_transition h
  | giveUp o =>
    simp only [giveUp] at h
    split at h
    · rename_i w since hp
      split at h
      · rename_i hc
        cases h
        exact .wakes hp (.inr ⟨rfl, hc⟩)
      · cases h
    · cases h
  | pass ms =>
    cases h
    exact .passes ms

end VmHost.Monitor
