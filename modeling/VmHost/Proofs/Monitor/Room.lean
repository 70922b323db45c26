import VmHost.Proofs.Monitor.Ledger

/-!
# The waiting room

Of the many steps of the monitors only six have to do with waiting: a thread queues itself, a
notification takes threads out of the queue, sets the flags of one and signals its event, and a
thread reads its flags and comes back. `Room` keeps the part of the state that they concern, and
`Room.Step` says what each does to it.

* `Held.simulates`: a step of the monitors is one of these on the waiting room, or leaves it alone.
-/
namespace VmHost.Monitor

open State Point

/-! ## The room and its events -/

/-- How far a thread has come with a wait. -/
inductive Phase
  | away
  /-- It has queued itself and not read its flags yet. -/
  | asleep (m : MonitorId)
  /-- It has read its flags and knows whether it was notified. -/
  | decided (m : MonitorId) (notified : Bool)
  deriving DecidableEq

/-- The monitor that a thread waits for, and whether it was notified, as far as it knows. -/
def Phase.wait? : Phase → Option (MonitorId × Option Bool)
  | .away => none
  | .asleep m => some (m, none)
  | .decided m notified => some (m, some notified)

/-- What the threads and monitors have to do with waiting. -/
@[ext] structure Room where
  queue : MonitorId → List Identity
  /-- The threads that have left the queue and whose flags are to be set. -/
  owed : MonitorId → List Identity
  /-- The thread whose flags have been set and whose event is to be signaled. -/
  telling : MonitorId → Option Identity
  phase : Identity → Phase
  flags : Identity → Flags

/-- Something that has to do with waiting. -/
inductive Event
  | queued (i : Identity) (m : MonitorId)
  /-- A notification takes threads out of the queue. -/
  | dequeued (m : MonitorId) (taken : List Identity)
  /-- A notification sets the flags of a thread. -/
  | flagged (m : MonitorId) (i : Identity)
  /-- A notification signals the event of a thread. -/
  | signalled (m : MonitorId) (i : Identity)
  /-- A thread reads in its flags whether it was notified. -/
  | read (i : Identity) (notified : Bool)
  | returned (i : Identity) (m : MonitorId) (notified : Bool)
  deriving DecidableEq

namespace Room

/-- Threads leave a queue, the others stay. They are to be told after those that left before. -/
def dequeue (r : Room) (m : MonitorId) (taken rest : List Identity) : Room :=
  { r with
    queue := fun m' => if m' = m then rest else r.queue m'
    owed := fun m' => if m' = m then r.owed m ++ taken else r.owed m' }

section

variable {r : Room} {m : MonitorId} {i : Identity} {taken rest : List Identity}

theorem dequeue_nil : r.dequeue m [] (r.queue m) = r := by
  ext <;> simp only [dequeue, List.append_nil] <;> split <;> simp_all

theorem dequeue_cons :
    r.dequeue m (i :: taken) rest = (r.dequeue m [i] (taken ++ rest)).dequeue m taken rest := by
  ext <;> simp only [dequeue, if_true, List.append_assoc, List.singleton_append] <;> split <;> rfl

end

/-- What an event does in the waiting room. -/
inductive Step (r : Room) : Event → Room → Prop
  | queued (i m) : r.phase i = .away →
      Step r (.queued i m)
        { r with
          queue := fun m' => if m' = m then r.queue m ++ [i] else r.queue m'
          phase := fun j => if j = i then .asleep m else r.phase j
          flags := fun j => if j = i then .waiting else r.flags j }
  | dequeued (m taken rest) : r.owed m = [] → r.telling m = none → r.queue m = taken ++ rest →
      Step r (.dequeued m taken) (r.dequeue m taken rest)
  | flagged (m i others) : r.owed m = i :: others → r.telling m = none →
      Step r (.flagged m i)
        { r with
          owed := fun m' => if m' = m then others else r.owed m'
          telling := fun m' => if m' = m then some i else r.telling m'
          flags := fun j => if j = i then (r.flags i).union .notified else r.flags j }
  | signalled (m i) : r.telling m = some i →
      Step r (.signalled m i)
        { r with telling := fun m' => if m' = m then none else r.telling m' }
  | read (i m) : r.phase i = .asleep m →
      Step r (.read i ((r.flags i).contains .notified))
        { r with
          phase := fun j => if j = i then .decided m ((r.flags i).contains .notified) else r.phase j
          flags := fun j => if j = i then .none else r.flags j }
  | returned (i m notified) : r.phase i = .decided m notified → r.owed m = [] →
      r.telling m = none →
      Step r (.returned i m notified)
        { r with
          queue := fun m' =>
            if m' = m then (if notified then r.queue m else (r.queue m).erase i) else r.queue m'
          phase := fun j => if j = i then .away else r.phase j }

end Room

/-! ## The room of a state -/

namespace Point

def phase : Point → Phase
  | .yielding w | .clearing w | .parking w | .sleeping w _ | .waking w => .asleep w.monitor
  | .deciding w notified _ | .reentering w notified _ => .decided w.monitor notified
  | _ => .away

/-- The threads that are to be told next of a notification on a monitor. -/
def owed (m : MonitorId) : Point → List Identity
  | .reaching m' i others => if m' = m then i :: others else []
  | .signalling m' _ others | .departing m' _ others => if m' = m then others else []
  | _ => []

/-- The thread whose event is signaled next, for a notification on a monitor. -/
def telling (m : MonitorId) : Point → Option Identity
  | .signalling m' i _ => if m' = m then some i else none
  | _ => none

end Point

namespace State

/-- Where the OS thread stands that holds the mutex of a monitor. -/
def server (s : State) (m : MonitorId) : Point :=
  match (s.monitors.get m).lock.holder with
  | some o => s.point o
  | none => .rest none

/-- How far an identity has come with a wait. -/
def phaseOf (s : State) (home : Identity → OsThread) (i : Identity) : Phase :=
  if s.who (home i) = i then (s.point (home i)).phase else .away

/-- The waiting room of a state. -/
def room (s : State) (home : Identity → OsThread) : Room where
  queue m := (s.monitors.get m).queue
  owed m := (s.server m).owed m
  telling m := (s.server m).telling m
  phase i := s.phaseOf home i
  flags i := (s.parks.get i).flags

section

variable (s : State) (home : Identity → OsThread)

@[simp, grind =] theorem queue_room (m) : (s.room home).queue m = (s.monitors.get m).queue := rfl
@[simp, grind =] theorem owed_room (m) : (s.room home).owed m = (s.server m).owed m := rfl
@[simp, grind =] theorem telling_room (m) : (s.room home).telling m = (s.server m).telling m := rfl
@[simp, grind =] theorem phase_room (i) : (s.room home).phase i = s.phaseOf home i := rfl
@[simp, grind =] theorem flags_room (i) : (s.room home).flags i = (s.parks.get i).flags := rfl

end

end State

/-- What a step from one point to another has to do with waiting, for an OS thread acting as `i`. -/
def Point.event? (i : Identity) : Point → Point → Option Event
  | .queueing .., .yielding w => some (.queued i w.monitor)
  | .rest _, .reaching m first others => some (.dequeued m (first :: others))
  | .reaching m first _, .signalling .. => some (.flagged m first)
  | .signalling m first _, .departing .. => some (.signalled m first)
  | .waking _, .deciding _ notified _ => some (.read i notified)
  | .reentering w notified _, .rest _ => some (.returned i w.monitor notified)
  | _, _ => none

/-- What a step has to do with waiting. -/
def Moment.event? (x : Moment) : Option Event := do
  let o ← x.label.actor
  (x.before.point o).event? (x.before.who o) (x.after.point o)

variable {home : Identity → OsThread} {s t u : State} {l : Label} {o : OsThread} {i j : Identity}
  {m : MonitorId} {past : List Moment} {p q : Point} {e : Event} {r : Room}

/-- A step does to the waiting room what its event does, and nothing without one. -/
def Simulates (home : Identity → OsThread) (x : Moment) : Prop :=
  match x.event? with
  | some e => (x.before.room home).Step e (x.after.room home)
  | none => x.after.room home = x.before.room home

theorem Simulates.event_or {x : Moment} (h : Simulates home x) :
    (∃ e, x.event? = some e ∧ (x.before.room home).Step e (x.after.room home)) ∨
      x.event? = none ∧ x.after.room home = x.before.room home := by
  unfold Simulates at h
  cases he : x.event? with
  | none =>
    rw [he] at h
    exact .inr ⟨rfl, h⟩
  | some e =>
    rw [he] at h
    exact .inl ⟨e, rfl, h⟩

theorem simulates_none {x : Moment} (he : x.event? = none)
    (hr : x.after.room home = x.before.room home) : Simulates home x := by
  unfold Simulates
  rw [he]
  exact hr

/-- The event of a step that moves an OS thread. -/
theorem Moment.event?_place (hl : l.actor = some o) (hp : s.point o = q) :
    Moment.event? ⟨s, l, u.place o i p⟩ = q.event? (s.who o) p := by
  subst hp
  simp [Moment.event?, hl]

/-! ### Moving an OS thread

The state `u` stands for `s` with changes to monitors and park cells; then an OS thread moves. -/

namespace State

theorem server_of_holder (hh : (s.monitors.get m).lock.holder = some o) :
    s.server m = s.point o := by
  simp [server, hh]

theorem server_free (hn : (s.monitors.get m).lock.holder = none) : s.server m = .rest none := by
  simp [server, hn]

theorem server_place (hu : u.threads = s.threads)
    (hl : (u.monitors.get m).lock = (s.monitors.get m).lock) :
    (u.place o i p).server m =
      if (s.monitors.get m).lock.holder = some o then p else s.server m := by
  unfold server
  rw [monitors_place, hl]
  cases hh : (s.monitors.get m).lock.holder with
  | none => simp
  | some o' => simp [(standing_of_threads hu o').1]

theorem phaseOf_place (hu : u.threads = s.threads) (hw : home (s.who o) = o) :
    (u.place o (s.who o) p).phaseOf home j =
      if j = s.who o then p.phase else s.phaseOf home j := by
  obtain ⟨hp, hw'⟩ := standing_of_threads hu (home j)
  unfold phaseOf
  rw [who_place, point_place, hp, hw']
  by_cases hj : j = s.who o
  · simp [hj, hw]
  · by_cases ho : home j = o
    · have : s.who o ≠ j := fun h => hj h.symm
      simp [hj, ho, this]
    · simp [hj, ho]

theorem server_place_self (hu : u.threads = s.threads)
    (hl : (u.monitors.get m).lock = (s.monitors.get m).lock)
    (hh : (s.monitors.get m).lock.holder = some o) : (u.place o i p).server m = p := by
  rw [server_place hu hl, if_pos hh]

/-- What is the same at both points of an OS thread is the same at the points that serve a
monitor. -/
theorem server_place_same {α : Type} (f : Point → α) (hu : u.threads = s.threads)
    (hl : (u.monitors.get m).lock = (s.monitors.get m).lock) (hp : s.point o = q)
    (hf : f p = f q) : f ((u.place o i p).server m) = f (s.server m) := by
  rw [server_place hu hl]
  split
  · rename_i hh
    rw [server_of_holder hh, hp, hf]
  · rfl

/-- The phases stay if an OS thread does not come further with a wait. -/
theorem phaseOf_place_same (hu : u.threads = s.threads) (hp : s.point o = q)
    (hf : p.phase = q.phase) (hi : i = s.who o ∨ q.phase = .away) :
    (u.place o i p).phaseOf home j = s.phaseOf home j :=
  read_place hu hp hf hi

end State

/-! ### Steps that have nothing to do with waiting -/

/-- At the point nobody is about to be told of a notification on a monitor. -/
def Point.Silent (m : MonitorId) (p : Point) : Prop := p.owed m = [] ∧ p.telling m = none

/-- To move from a point to another has nothing to do with waiting. -/
structure Point.Quiet (q p : Point) : Prop where
  event : ∀ i, q.event? i p = none
  phase : p.phase = q.phase
  owed : ∀ m, p.owed m = q.owed m
  telling : ∀ m, p.telling m = q.telling m

/-- The mutex of a monitor is free or held by an OS thread. -/
def State.FreeFor (s : State) (o : OsThread) (m : MonitorId) : Prop :=
  (s.monitors.get m).lock.holder = none ∨ (s.monitors.get m).lock.holder = some o

theorem State.server_silent (h : s.FreeFor o m) (hs : (s.point o).Silent m) :
    (s.server m).Silent m := by
  rcases h with hn | hh
  · rw [server_free hn]
    exact ⟨rfl, rfl⟩
  · rw [server_of_holder hh]
    exact hs

/-- An OS thread may take or release a mutex on the way if it is not in the middle of a
notification. -/
theorem State.told_place (hu : u.threads = s.threads) (hp : s.point o = q)
    (hl : (u.monitors.get m).lock = (s.monitors.get m).lock ∨
      s.FreeFor o m ∧ u.FreeFor o m ∧ q.Silent m)
    (ho : p.owed m = q.owed m) (ht : p.telling m = q.telling m) :
    ((u.place o i p).server m).owed m = (s.server m).owed m ∧
      ((u.place o i p).server m).telling m = (s.server m).telling m := by
  rcases hl with hl | ⟨hs, hv, hn⟩
  · exact ⟨server_place_same (owed m) hu hl hp ho, server_place_same (telling m) hu hl hp ht⟩
  · subst hp
    have hn' : ((u.place o i p).point o).Silent m := by
      rw [point_place, if_pos rfl, Silent, ho, ht]
      exact hn
    obtain ⟨hso, hst⟩ := server_silent hs hn
    obtain ⟨hto, htt⟩ := server_silent (s := u.place o i p) hv hn'
    exact ⟨hto.trans hso.symm, htt.trans hst.symm⟩

theorem State.room_place (hu : u.threads = s.threads) (hp : s.point o = q) (hq : q.Quiet p)
    (hw : i = s.who o ∨ q.phase = .away)
    (hl : ∀ m, (u.monitors.get m).lock = (s.monitors.get m).lock ∨
      s.FreeFor o m ∧ u.FreeFor o m ∧ q.Silent m)
    (hm : ∀ m, (u.monitors.get m).queue = (s.monitors.get m).queue)
    (hf : ∀ i, (u.parks.get i).flags = (s.parks.get i).flags) :
    (u.place o i p).room home = s.room home := by
  have hs := fun m => told_place (i := i) hu hp (hl m) (hq.owed m) (hq.telling m)
  refine Room.ext (funext hm) (funext fun m => (hs m).1) (funext fun m => (hs m).2) ?_ (funext hf)
  exact funext fun j => phaseOf_place_same hu hp hq.phase hw

theorem simulates_quiet (hl : l.actor = some o) (hp : s.point o = q) (hq : q.Quiet p)
    (hw : i = s.who o ∨ q.phase = .away) (hu : u.threads = s.threads)
    (hk : ∀ m, (u.monitors.get m).lock = (s.monitors.get m).lock ∨
      s.FreeFor o m ∧ u.FreeFor o m ∧ q.Silent m)
    (hm : ∀ m, (u.monitors.get m).queue = (s.monitors.get m).queue)
    (hf : ∀ i, (u.parks.get i).flags = (s.parks.get i).flags) :
    Simulates home ⟨s, l, u.place o i p⟩ :=
  simulates_none ((Moment.event?_place hl hp).trans (hq.event _))
    (State.room_place hu hp hq hw hk hm hf)

/-! ### Steps that have to do with waiting -/

theorem simulates_event (hl : l.actor = some o) (hp : s.point o = q)
    (he : q.event? (s.who o) p = some e) (hs : (s.room home).Step e r)
    (hr : (u.place o i p).room home = r) : Simulates home ⟨s, l, u.place o i p⟩ := by
  unfold Simulates
  rw [Moment.event?_place hl hp, he]
  show (s.room home).Step e ((u.place o i p).room home)
  rw [hr]
  exact hs

/-- How far the identity of an OS thread has come, in the middle of an operation. -/
theorem Held.phaseOf_who (h : Held home s) (ho : (s.point o).tie ≠ .loose) :
    s.phaseOf home (s.who o) = (s.point o).phase := by
  rw [phaseOf, h.home_who o ho, if_pos rfl]

section

variable {w : Waiting} {ms : Nat} {n b : Bool} {a : Option Reply} {others rest : List Identity}

section

variable (hl : l.actor = some o) (hu : u.threads = s.threads)
  (hk : ∀ m, (u.monitors.get m).lock = (s.monitors.get m).lock)

include hl hu hk

theorem simulates_queued (h : Held home s) (hp : s.point o = .queueing w.monitor ms)
    (hm : ∀ m, (u.monitors.get m).queue =
      if m = w.monitor then (s.monitors.get w.monitor).queue ++ [s.who o]
      else (s.monitors.get m).queue)
    (hf : ∀ j, (u.parks.get j).flags = if j = s.who o then .waiting else (s.parks.get j).flags) :
    Simulates home ⟨s, l, u.place o (s.who o) (.yielding w)⟩ := by
  have ht : (s.point o).tie ≠ .loose := by simp [hp, tie]
  have hw : s.phaseOf home (s.who o) = .away := by
    rw [h.phaseOf_who ht, hp]
    rfl
  refine simulates_event hl hp rfl (.queued _ _ hw) ?_
  refine Room.ext (funext hm) (funext fun m => ?_) (funext fun m => ?_) (funext fun j => ?_)
    (funext hf)
  · exact server_place_same (owed m) hu (hk m) hp rfl
  · exact server_place_same (telling m) hu (hk m) hp rfl
  · exact phaseOf_place hu (h.home_who o ht)

theorem simulates_flagged (h : Held home s) (hp : s.point o = .reaching m j others)
    (hm : ∀ m, (u.monitors.get m).queue = (s.monitors.get m).queue)
    (hf : ∀ i, (u.parks.get i).flags =
      if i = j then (s.parks.get j).flags.union .notified else (s.parks.get i).flags) :
    Simulates home ⟨s, l, u.place o (s.who o) (.signalling m j others)⟩ := by
  have hh : (s.monitors.get m).lock.holder = some o := h.holder_of_inside (by rw [hp]; rfl)
  have hs : s.server m = .reaching m j others := (server_of_holder hh).trans hp
  refine simulates_event hl hp rfl (.flagged m j others ?_ ?_) ?_
  · simp [hs, owed]
  · simp [hs, telling]
  refine Room.ext (funext hm) (funext fun m' => ?_) (funext fun m' => ?_) (funext fun k => ?_)
    (funext hf)
  · by_cases e : m' = m
    · subst e
      simp [server_place_self hu (hk m') hh, owed]
    · have hn : m ≠ m' := fun h => e h.symm
      rw [owed_room, server_place_same (owed m') hu (hk m') hp (by simp [owed, hn])]
      simp [e]
  · by_cases e : m' = m
    · subst e
      simp [server_place_self hu (hk m') hh, telling]
    · have hn : m ≠ m' := fun h => e h.symm
      rw [telling_room, server_place_same (telling m') hu (hk m') hp (by simp [telling, hn])]
      simp [e]
  · exact phaseOf_place_same hu hp rfl (.inl rfl)

theorem simulates_signalled (h : Held home s) (hp : s.point o = .signalling m j others)
    (hm : ∀ m, (u.monitors.get m).queue = (s.monitors.get m).queue)
    (hf : ∀ i, (u.parks.get i).flags = (s.parks.get i).flags) :
    Simulates home ⟨s, l, u.place o (s.who o) (.departing m j others)⟩ := by
  have hh : (s.monitors.get m).lock.holder = some o := h.holder_of_inside (by rw [hp]; rfl)
  have hs : s.server m = .signalling m j others := (server_of_holder hh).trans hp
  refine simulates_event hl hp rfl (.signalled m j (by simp [hs, telling])) ?_
  refine Room.ext (funext hm) (funext fun m' => ?_) (funext fun m' => ?_) (funext fun k => ?_)
    (funext hf)
  · exact server_place_same (owed m') hu (hk m') hp rfl
  · by_cases e : m' = m
    · subst e
      simp [server_place_self hu (hk m') hh, telling]
    · have hn : m ≠ m' := fun h => e h.symm
      rw [telling_room, server_place_same (telling m') hu (hk m') hp (by simp [telling, hn])]
      simp [e]
  · exact phaseOf_place_same hu hp rfl (.inl rfl)

theorem simulates_read (h : Held home s) (hp : s.point o = .waking w)
    (hm : ∀ m, (u.monitors.get m).queue = (s.monitors.get m).queue)
    (hf : ∀ j, (u.parks.get j).flags = if j = s.who o then .none else (s.parks.get j).flags) :
    Simulates home
      ⟨s, l, u.place o (s.who o) (.deciding w (s.parks.get (s.who o)).isNotified b)⟩ := by
  have ht : (s.point o).tie ≠ .loose := by simp [hp, tie]
  have hw : s.phaseOf home (s.who o) = .asleep w.monitor := by
    rw [h.phaseOf_who ht, hp]
    rfl
  refine simulates_event hl hp rfl (.read (s.who o) _ hw) ?_
  refine Room.ext (funext hm) (funext fun m => ?_) (funext fun m => ?_) (funext fun j => ?_)
    (funext hf)
  · exact server_place_same (owed m) hu (hk m) hp rfl
  · exact server_place_same (telling m) hu (hk m) hp rfl
  · exact phaseOf_place hu (h.home_who o ht)

theorem simulates_dequeued (hp : s.point o = .rest a)
    (hh : (s.monitors.get m).lock.holder = some o)
    (hq : (s.monitors.get m).queue = j :: others ++ rest)
    (hm : ∀ m', (u.monitors.get m').queue = if m' = m then rest else (s.monitors.get m').queue)
    (hf : ∀ i, (u.parks.get i).flags = (s.parks.get i).flags) :
    Simulates home ⟨s, l, u.place o i (.reaching m j others)⟩ := by
  have hs : s.server m = .rest a := (server_of_holder hh).trans hp
  refine simulates_event hl hp rfl (.dequeued m _ rest ?_ ?_ hq) ?_
  · simp [hs, owed]
  · simp [hs, telling]
  refine Room.ext (funext hm) (funext fun m' => ?_) (funext fun m' => ?_) (funext fun k => ?_)
    (funext hf)
  · by_cases e : m' = m
    · subst e
      simp [Room.dequeue, server_place_self hu (hk m') hh, hs, owed]
    · have hn : m ≠ m' := fun h => e h.symm
      rw [owed_room, server_place_same (owed m') hu (hk m') hp (by simp [owed, hn])]
      simp [Room.dequeue, e]
  · exact server_place_same (telling m') hu (hk m') hp rfl
  · exact phaseOf_place_same hu hp rfl (.inr rfl)

end

theorem simulates_returned (h : Held home s) (hl : l.actor = some o) (hu : u.threads = s.threads)
    (hp : s.point o = .reentering w n b) (hn : (s.monitors.get w.monitor).lock.holder = none)
    (hk : ∀ m, (u.monitors.get m).lock =
      if m = w.monitor then ⟨some o⟩ else (s.monitors.get m).lock)
    (hm : ∀ m, (u.monitors.get m).queue =
      if m = w.monitor then
        (if n then (s.monitors.get w.monitor).queue
          else (s.monitors.get w.monitor).queue.erase (s.who o))
      else (s.monitors.get m).queue)
    (hf : ∀ j, (u.parks.get j).flags = (s.parks.get j).flags) :
    Simulates home ⟨s, l, u.place o (s.who o) (.rest a)⟩ := by
  have ht : (s.point o).tie ≠ .loose := by simp [hp, tie]
  have hd : s.phaseOf home (s.who o) = .decided w.monitor n := by
    rw [h.phaseOf_who ht, hp]
    rfl
  have hs : s.server w.monitor = .rest none := server_free hn
  refine simulates_event hl hp rfl (.returned _ _ n hd ?_ ?_) ?_
  · simp [hs, owed]
  · simp [hs, telling]
  have hk : ∀ m, (u.monitors.get m).lock = (s.monitors.get m).lock ∨
      s.FreeFor o m ∧ u.FreeFor o m ∧ (Point.reentering w n b).Silent m := by
    intro m
    by_cases e : m = w.monitor
    · subst e
      exact .inr ⟨.inl hn, .inr (by rw [hk, if_pos rfl]), rfl, rfl⟩
    · exact .inl (by rw [hk, if_neg e])
  refine Room.ext (funext hm) (funext fun m => ?_) (funext fun m => ?_) (funext fun j => ?_)
    (funext hf)
  · exact (told_place (p := .rest a) hu hp (hk m) rfl rfl).1
  · exact (told_place (p := .rest a) hu hp (hk m) rfl rfl).2
  · exact phaseOf_place hu (h.home_who o ht)

end

/-! ### Every step -/

theorem Point.event?_self : p.event? i p = none := by
  cases p <;> rfl

/-- The mutex of a monitor passes between nobody and an OS thread. -/
theorem lock_or_free {f : Monitor → Monitor} {m' : MonitorId} (hs : s.FreeFor o m')
    (ht : (f (s.monitors.get m')).lock.holder = none ∨ (f (s.monitors.get m')).lock.holder = some o)
    (hq : q.Silent m') (m : MonitorId) :
    ((s.onMonitor m' f).monitors.get m).lock = (s.monitors.get m).lock ∨
      s.FreeFor o m ∧ (s.onMonitor m' f).FreeFor o m ∧ q.Silent m := by
  by_cases e : m = m'
  · subst e
    exact .inr ⟨hs, by rwa [FreeFor, get_onMonitor, if_pos rfl], hq⟩
  · exact .inl (by rw [get_onMonitor, if_neg e])

theorem Held.simulates (h : Held home s) (hf : l.Fits home) (ht : Transition s l t) :
    Simulates home ⟨s, l, t⟩ := by
  cases ht with
  | passes => exact simulates_none rfl rfl
  | crashes hc => exact simulates_none (by simp [Moment.event?, Label.actor, event?_self]) rfl
  | queues hp =>
    refine simulates_queued rfl rfl (fun _ => s.onMonitor_same Monitor.lock fun _ => rfl) h hp ?_ ?_
    · intro m
      rw [get_onMonitor]
      split <;> rfl
    · intro j
      rw [parks_onMonitor, get_onPark]
      split <;> rfl
  | flags hp =>
    refine simulates_flagged rfl rfl (fun _ => rfl) h hp (fun _ => rfl) fun i => ?_
    rw [get_onPark]
    split <;> rfl
  | signals hp =>
    exact simulates_signalled rfl rfl (fun _ => rfl) h hp (fun _ => rfl)
      (fun _ => s.onPark_same Park.flags fun _ => rfl)
  | collects hp =>
    refine simulates_read rfl rfl (fun _ => rfl) h hp (fun _ => rfl) fun i => ?_
    rw [get_onPark]
    split <;> rfl
  | returns hp hn =>
    refine simulates_returned h rfl rfl hp hn ?_ ?_ fun _ => rfl <;> intro m <;>
      rw [get_onMonitor] <;> split <;> rfl
  | notifies hr hc hi hq =>
    refine simulates_dequeued rfl rfl (fun _ => s.onMonitor_same Monitor.lock fun _ => rfl) hr
      (h.holder_of_call hf hc.isNamed hi) hq ?_ fun _ => rfl
    intro m
    rw [get_onMonitor]
    split <;> rfl
  | begins hr hb =>
    refine simulates_quiet (u := s) rfl hr ?_ (.inr rfl) rfl (fun _ => .inl rfl) (fun _ => rfl)
      fun _ => rfl
    cases hb <;> exact ⟨fun _ => rfl, rfl, fun _ => rfl, fun _ => rfl⟩
  | @refused o i c r v hr =>
    exact simulates_quiet (u := s.violate o v) rfl hr
      ⟨fun _ => rfl, rfl, fun _ => rfl, fun _ => rfl⟩ (.inr rfl) rfl (fun _ => .inl rfl)
      (fun _ => rfl) fun _ => rfl
  | nests hr | unnests hr | quits hr =>
    exact simulates_quiet rfl hr ⟨fun _ => rfl, rfl, fun _ => rfl, fun _ => rfl⟩ (.inr rfl) rfl
      (fun _ => .inl (s.onMonitor_same Monitor.lock fun _ => rfl))
      (fun _ => s.onMonitor_same Monitor.queue fun _ => rfl) fun _ => rfl
  | notifiesNobody hr _ _ hq =>
    refine simulates_quiet rfl hr ⟨fun _ => rfl, rfl, fun _ => rfl, fun _ => rfl⟩ (.inr rfl) rfl
      (fun _ => .inl (s.onMonitor_same Monitor.lock fun _ => rfl)) (fun m' => ?_) fun _ => rfl
    rw [get_onMonitor]
    split
    · rename_i e
      rw [e, hq]
    · rfl
  | enters hp hn =>
    rcases hp with ⟨hp, -⟩ | ⟨hp, -⟩ <;>
      exact simulates_quiet rfl hp ⟨fun _ => rfl, rfl, fun _ => rfl, fun _ => rfl⟩ (.inl rfl) rfl
        (lock_or_free (.inl hn) (.inr rfl) ⟨rfl, rfl⟩)
        (fun _ => s.onMonitor_same Monitor.queue fun _ => rfl) fun _ => rfl
  | leaves hp hh | yields hp hh =>
    exact simulates_quiet rfl hp ⟨fun _ => rfl, rfl, fun _ => rfl, fun _ => rfl⟩ (.inl rfl) rfl
      (lock_or_free (.inr hh) (.inl rfl) ⟨rfl, rfl⟩)
      (fun _ => s.onMonitor_same Monitor.queue fun _ => rfl) fun _ => rfl
  | wakes hp hl =>
    exact simulates_quiet (u := s) (wakes_actor hl) hp
      ⟨fun _ => rfl, rfl, fun _ => rfl, fun _ => rfl⟩ (.inl rfl) rfl (fun _ => .inl rfl)
      (fun _ => rfl) fun _ => rfl
  | misses hp =>
    exact simulates_quiet (u := s) rfl hp ⟨fun _ => rfl, rfl, fun _ => rfl, fun _ => rfl⟩ (.inl rfl)
      rfl (fun _ => .inl rfl) (fun _ => rfl) fun _ => rfl
  | posts hp _ hq =>
    refine simulates_quiet rfl hp ?_ (.inl rfl) rfl (fun _ => .inl rfl) (fun _ => rfl)
      (fun _ => s.onPark_same Park.flags fun _ => rfl)
    rw [hq]
    split <;> exact ⟨fun _ => rfl, rfl, fun _ => rfl, fun _ => rfl⟩
  | delivered hp =>
    refine simulates_quiet rfl hp ⟨fun _ => rfl, rfl, fun m => ?_, fun _ => rfl⟩ (.inl rfl) rfl
      (fun _ => .inl rfl) (fun _ => rfl) (fun _ => s.onPark_same Park.flags fun _ => rfl)
    simp [owed]
  | declines hp | declined hp | clears hp | parks hp | decides hp | delivers hp | rouses hp
  | posted hp | asks hp | answers hp =>
    exact simulates_quiet rfl hp ⟨fun _ => rfl, rfl, fun _ => rfl, fun _ => rfl⟩ (.inl rfl) rfl
      (fun _ => .inl rfl) (fun _ => rfl) (fun _ => s.onPark_same Park.flags fun _ => rfl)

end VmHost.Monitor
