import VmHost.Proofs.Monitor.Line
import VmHost.Proofs.Monitor.Wait

/-!
# The waits of a run and the waiting room

What the waits of a run have been through can be read off the waiting room, and the other way round:
the record of a wait in progress says where its thread stands, the waits that are over are settled,
the queue lists the waits that nothing has taken out, and the flags of a thread follow from its
latest wait (`Chronicle`, `Run.chronicle`).
-/
namespace VmHost.Monitor

namespace Wait

/-- The wait is over. A thread that read that it was notified was taken out of the queue. -/
structure Settled (w : Wait) : Prop where
  returned : w.returned = true
  dequeued : w.dequeued ≤ 1
  flagged : w.flagged = w.dequeued
  signalled : w.signalled = w.dequeued
  read : w.read = some true ∧ w.dequeued = 1 ∨ w.read = some false

/-- The flags of a thread, after what has happened to its latest wait. -/
def flags (w : Wait) : Flags :=
  (if w.read = none then Flags.waiting else .none).union
    (if w.flagged ≠ 0 ∧ w.read ≠ some true then .notified else .none)

theorem Settled.isQueuedAt {w : Wait} (h : w.Settled) (m : MonitorId) : w.isQueuedAt m = false := by
  rcases h.read with ⟨-, hd⟩ | hr
  · simp [Wait.isQueuedAt, hd]
  · simp [Wait.isQueuedAt, withdrawn, h.returned, hr]

/-- Setting the flags of a thread that was not notified. -/
theorem flags_flag {w : Wait} (hf : w.flagged = 0) (hr : w.read ≠ some true) :
    w.flag.flags = w.flags.union .notified := by
  have hn : w.flag.flagged ≠ 0 ∧ w.flag.read ≠ some true := ⟨Nat.succ_ne_zero _, hr⟩
  have ho : ¬ (w.flagged ≠ 0 ∧ w.read ≠ some true) := fun h => h.1 hf
  rw [flags, flags, if_pos hn, if_neg ho]
  show (if w.read = none then Flags.waiting else .none).union _ = _
  split <;> rfl

/-- A thread has read NOTIFIED in its flags if they were set. -/
theorem contains_flags {w : Wait} (hr : w.read = none) :
    w.flags.contains .notified = decide (w.flagged ≠ 0) := by
  have hw : (Flags.waiting.union .notified).contains .notified = true := by decide
  have hn : (Flags.waiting.union .none).contains .notified = false := by decide
  unfold flags
  by_cases hf : w.flagged = 0 <;> simp [hr, hf, hw, hn]

theorem flags_learn {w : Wait} (hr : w.read = none) :
    (w.learn (w.flags.contains .notified)).flags = .none := by
  have hn : Flags.none.union .none = .none := by decide
  rw [contains_flags hr]
  unfold flags learn
  by_cases hf : w.flagged = 0 <;> simp [hf, hn]

end Wait

namespace Room

/-- The record of a wait in progress, as the waiting room shows it. -/
def record (r : Room) (i : Identity) (m : MonitorId) (read : Option Bool) : Wait where
  who := i
  monitor := m
  dequeued := if i ∈ r.queue m then 0 else 1
  flagged := if i ∈ r.line m then 0 else 1
  signalled := if i ∈ r.line m ∨ r.telling m = some i then 0 else 1
  read := read
  returned := false

variable {r r' : Room} {m : MonitorId} {i : Identity}

theorem record_congr {b : Option Bool} (hq : i ∈ r'.queue m ↔ i ∈ r.queue m)
    (hl : i ∈ r'.line m ↔ i ∈ r.line m) (ht : r'.telling m = some i ↔ r.telling m = some i) :
    r'.record i m b = r.record i m b := by
  simp only [record, hq, hl, ht]

end Room

/-- The waits and the waiting room agree. -/
structure Chronicle (r : Room) (ws : List Wait) : Prop where
  current : ∀ i m b, (r.phase i).wait? = some (m, b) → latest i ws = some (r.record i m b)
  away : ∀ i w, r.phase i = .away → latest i ws = some w → w.Settled
  older : Older Wait.Settled ws
  order : ∀ m, r.queue m = names (Wait.isQueuedAt m) ws
  flags : ∀ i, r.flags i = (latest i ws).elim .none Wait.flags

namespace Chronicle

variable {r r' : Room} {ws : List Wait} {m : MonitorId} {i : Identity}

theorem queued (h : Chronicle r ws) (hp : r.phase i = .away)
    (hs : r.Step (.queued i m) r') : Chronicle r' (.new i m :: ws) := by
  have hl : ∀ j, latest j (.new i m :: ws) = if i = j then some (.new i m) else latest j ws :=
    fun j => latest_cons
  cases hs with
  | queued _ _ _ =>
    constructor
    · intro j m' b hj
      have := h.current j m' b
      rw [hl]
      grind [Room.record, Room.line, Wait.new, Phase.wait?]
    · intro j w hj hw
      have := h.away j w
      rw [hl] at hw
      grind
    · exact List.pairwise_cons.mpr ⟨fun v hv e => h.older.all (h.away i · hp) v hv e.symm, h.older⟩
    · intro m'
      have := h.order m'
      rw [names_cons]
      grind [Wait.isQueuedAt, Wait.new, Wait.withdrawn]
    · intro j
      have := h.flags j
      have hw : (Wait.new i m).flags = .waiting := by simp [Wait.flags, Wait.new]; rfl
      rw [hl]
      grind

/-- A notification takes the first thread of a queue. -/
theorem take (h : Chronicle r ws) (ho : r.Orderly) {rest : List Identity}
    (hq : r.queue m = [i] ++ rest) :
    Chronicle (r.dequeue m [i] rest) (amend i Wait.dequeue ws) := by
  have hl : ∀ j, latest j (amend i Wait.dequeue ws) =
      if j = i then (latest j ws).map Wait.dequeue else latest j ws := fun j =>
    latest_amend fun _ => rfl
  have hi : i ∈ r.line m := by simp [Room.line, hq]
  obtain ⟨b, hb⟩ := ((ho.mem_line m i).mp hi).1.wait?
  have hc := h.current i m b hb
  have hn : i ∉ rest := by
    have hn := ho.nodup m
    rw [Room.line, hq] at hn
    exact (List.nodup_cons.mp (List.nodup_append.mp hn).2.1).1
  constructor
  · intro j m' b' hj
    have hj : (r.phase j).wait? = some (m', b') := hj
    rw [hl]
    by_cases e : j = i
    · subst e
      obtain ⟨rfl, rfl⟩ := Prod.mk.inj (Option.some.inj (hb.symm.trans hj))
      have hj : j ∈ r.queue m := by simp [hq]
      have hj' : j ∉ (r.dequeue m [j] rest).queue m := by simpa [Room.dequeue] using hn
      rw [if_pos rfl, hc]
      simp [Room.record, Wait.dequeue, Room.line_dequeue hq, hi, hj, hj']
    · rw [if_neg e, h.current j m' b' hj]
      have hq' : j ∈ (r.dequeue m [i] rest).queue m' ↔ j ∈ r.queue m' := by
        by_cases e' : m' = m
        · subst e'
          simp [Room.dequeue, hq, e]
        · simp [Room.dequeue, e']
      exact congrArg some (Room.record_congr hq' (by rw [Room.line_dequeue hq m']) Iff.rfl).symm
  · intro j w hj hw
    have hji : j ≠ i := by
      rintro rfl
      rw [show r.phase j = .away from hj] at hb
      cases hb
    rw [hl, if_neg hji] at hw
    exact h.away j w hj hw
  · exact h.older.amend fun _ => rfl
  · intro m'
    have hm := h.order m'
    by_cases e : m' = m
    · subst e
      have hd : ∀ w : Wait, w.dequeue.isQueuedAt m' = false := fun w => by
        simp [Wait.isQueuedAt, Wait.dequeue]
      rw [names_amend_drop (h.older.imp fun hs e => (hs e).isQueuedAt m') fun w _ => hd w, ← hm, hq]
      have hk : rest.filter (· != i) = rest :=
        List.filter_eq_self.mpr fun j hj => by simpa using fun e : j = i => hn (e ▸ hj)
      rw [List.singleton_append, List.filter_cons_of_neg (by simp), hk]
      simp [Room.dequeue]
    · rw [names_amend (f := Wait.dequeue) (fun _ => rfl), ← hm]
      · simp [Room.dequeue, e]
      · intro w hw
        rw [hc] at hw
        cases hw
        have : m ≠ m' := fun h => e h.symm
        simp [Wait.isQueuedAt, Wait.dequeue, Room.record, this]
  · intro j
    have := h.flags j
    rw [hl]
    grind [Wait.flags, Wait.dequeue, Room.dequeue]

/-- A notification takes the first threads of a queue. -/
theorem dequeue (h : Chronicle r ws) (ho : r.Orderly) {taken rest : List Identity}
    (hq : r.queue m = taken ++ rest) :
    Chronicle (r.dequeue m taken rest) (taken.foldl (fun ws i => amend i Wait.dequeue ws) ws) := by
  induction taken generalizing r ws with
  | nil =>
    obtain rfl : r.queue m = rest := hq
    rw [Room.dequeue_nil]
    exact h
  | cons i taken ih =>
    have hq : r.queue m = [i] ++ (taken ++ rest) := hq
    rw [Room.dequeue_cons]
    exact ih (h.take ho hq) (ho.dequeue hq) (by simp [Room.dequeue])

/-- The change of one wait in progress. -/
theorem change (h : Chronicle r ws) {b c : Option Bool} {f : Wait → Wait}
    (hb : (r.phase i).wait? = some (m, b)) (hb' : (r'.phase i).wait? = some (m, c))
    (hf : ∀ w, (f w).who = w.who) (hr : f (r.record i m b) = r'.record i m c)
    (hp : ∀ j, j ≠ i → r'.phase j = r.phase j)
    (hj : ∀ j m b, j ≠ i → r'.record j m b = r.record j m b)
    (hq : ∀ m, r'.queue m = r.queue m)
    (hfi : r'.flags i = (f (r.record i m b)).flags) (hfj : ∀ j, j ≠ i → r'.flags j = r.flags j) :
    Chronicle r' (amend i f ws) := by
  have hc := h.current i m b hb
  constructor
  · intro j m' b'' hw
    rw [latest_amend hf]
    by_cases e : j = i
    · subst e
      rw [hb'] at hw
      cases hw
      rw [if_pos rfl, hc, Option.map_some, hr]
    · rw [if_neg e, hj j m' b'' e]
      rw [hp j e] at hw
      exact h.current j m' b'' hw
  · intro j w ha hw
    rw [latest_amend hf] at hw
    by_cases e : j = i
    · subst e
      rw [ha] at hb'
      cases hb'
    · rw [if_neg e] at hw
      rw [hp j e] at ha
      exact h.away j w ha hw
  · exact h.older.amend hf
  · intro m'
    rw [hq, names_amend hf, h.order]
    intro w hw
    rw [hc] at hw
    cases hw
    rw [hr]
    simp only [Room.record, Wait.isQueuedAt, Wait.withdrawn, hq]
    rfl
  · intro j
    rw [latest_amend hf]
    by_cases e : j = i
    · subst e
      rw [if_pos rfl, hc]
      exact hfi
    · rw [if_neg e, hfj j e]
      exact h.flags j

theorem flagged (h : Chronicle r ws) (ho : r.Orderly) (ho' : r'.Orderly)
    (hs : r.Step (.flagged m i) r') : Chronicle r' (amend i Wait.flag ws) := by
  cases hs with
  | flagged _ _ others hw ht =>
    have hi : i ∈ r.line m := by simp [Room.line, hw]
    have he := ((ho.mem_line m i).mp hi).1
    obtain ⟨b, hb⟩ := he.wait?
    have hl := (ho'.telling m i (by simp)).1
    have hf := h.flags i
    rw [h.current i m b hb, Option.elim_some] at hf
    refine h.change hb hb (fun _ => rfl) ?_ (fun _ _ => rfl) ?_ (fun _ => rfl) ?_ ?_
    · simp [Room.record, Wait.flag, hi, hl]
    · intro j m' b' hj
      refine Room.record_congr Iff.rfl ?_ ?_ <;> by_cases e : m' = m
      · subst e
        simp [Room.line, hw, hj]
      · simp [Room.line, e]
      · subst e
        simp [ht, hj.symm]
      · simp [e]
    · rw [Wait.flags_flag (by simp [Room.record, hi]), ← hf]
      · simp
      · rcases he with he | he <;> rw [he] at hb <;> cases hb <;> simp [Room.record]
    · intro j hj
      simp [hj]

theorem signalled (h : Chronicle r ws) (ho : r.Orderly)
    (hs : r.Step (.signalled m i) r') : Chronicle r' (amend i Wait.signal ws) := by
  cases hs with
  | signalled _ _ ht =>
    obtain ⟨hl, b, hb⟩ := ho.telling m i ht
    have hf := h.flags i
    rw [h.current i m b hb] at hf
    refine h.change hb hb (fun _ => rfl) ?_ (fun _ _ => rfl) ?_ (fun _ => rfl) hf fun _ _ => rfl
    · have hl' : i ∉ r.owed m ++ r.queue m := hl
      simp [Room.record, Room.line, Wait.signal, ht, hl']
    · intro j m' b' hj
      refine Room.record_congr Iff.rfl Iff.rfl ?_
      by_cases e : m' = m
      · subst e
        simp [ht, hj.symm]
      · simp [e]

theorem read (h : Chronicle r ws) {notified : Bool}
    (hs : r.Step (.read i notified) r') : Chronicle r' (amend i (Wait.learn notified) ws) := by
  cases hs with
  | read _ m hp =>
    have hb : (r.phase i).wait? = some (m, none) := by rw [hp]; rfl
    have hf := h.flags i
    rw [h.current i m none hb, Option.elim_some] at hf
    refine h.change (c := some ((r.flags i).contains .notified)) hb (by simp [Phase.wait?])
      (fun _ => rfl) rfl ?_ (fun _ _ _ _ => rfl) (fun _ => rfl) ?_ ?_
    · intro j hj
      simp [hj]
    · rw [hf, Wait.flags_learn rfl]
      simp
    · intro j hj
      simp [hj]

/-- A wait is settled when its thread comes back. -/
theorem settled (ho : r.Orderly) {n : Bool} (hp : r.phase i = .decided m n)
    (hw : r.owed m = []) (ht : r.telling m = none) :
    (r.record i m (some n)).comeBack.Settled := by
  have hl : r.line m = r.queue m := by rw [Room.line, hw, List.nil_append]
  constructor
  · rfl
  · simp only [Room.record, Wait.comeBack]
    split <;> simp
  · simp [Room.record, Wait.comeBack, hl]
  · simp [Room.record, Wait.comeBack, hl, ht]
  · cases n with
    | false => exact .inr rfl
    | true =>
      have hi : i ∉ r.queue m := by
        rw [← hl, ho.mem_line]
        rintro ⟨he | he, -⟩ <;> rw [hp] at he <;> cases he
      exact .inl ⟨rfl, by simp [Room.record, Wait.comeBack, hi]⟩

/-- What is left of a queue when a thread comes back to its monitor. -/
theorem names_comeBack (h : Chronicle r ws) (ho : r.Orderly) {n : Bool}
    (hp : r.phase i = .decided m n) (m' : MonitorId) :
    names (Wait.isQueuedAt m') (amend i Wait.comeBack ws) =
      if m' = m then (if n then r.queue m else (r.queue m).erase i) else r.queue m' := by
  have hc := h.current i m (some n) (by rw [hp]; rfl)
  by_cases e : m' = m
  · subst e
    rw [if_pos rfl]
    cases n with
    | true =>
      rw [if_pos rfl, h.order, names_amend (f := Wait.comeBack) fun _ => rfl]
      intro w hw
      rw [hc] at hw
      cases hw
      simp [Wait.isQueuedAt, Wait.withdrawn, Wait.comeBack, Room.record]
    | false =>
      have hn : (r.queue m').Nodup := (List.nodup_append.mp (ho.nodup m')).2.1
      rw [if_neg (by simp), hn.erase_eq_filter, h.order,
        names_amend_drop (h.older.imp fun hs e => (hs e).isQueuedAt m')]
      intro w hw
      rw [hc] at hw
      cases hw
      simp [Wait.isQueuedAt, Wait.withdrawn, Wait.comeBack, Room.record]
  · rw [if_neg e, h.order, names_amend (f := Wait.comeBack) fun _ => rfl]
    intro w hw
    rw [hc] at hw
    cases hw
    have : m ≠ m' := fun h => e h.symm
    simp [Wait.isQueuedAt, Wait.comeBack, Room.record, this]

theorem returned (h : Chronicle r ws) (ho : r.Orderly) {n : Bool}
    (hs : r.Step (.returned i m n) r') : Chronicle r' (amend i Wait.comeBack ws) := by
  cases hs with
  | returned _ _ _ hp hw ht =>
    have hc := h.current i m (some n) (by rw [hp]; rfl)
    have hl : ∀ j, latest j (amend i Wait.comeBack ws) =
        if j = i then (latest j ws).map Wait.comeBack else latest j ws := fun j =>
      latest_amend fun _ => rfl
    have hm : ∀ j, j ≠ i → (j ∈ (r.queue m).erase i ↔ j ∈ r.queue m) := fun j hj =>
      List.mem_erase_of_ne hj
    constructor
    · intro j m' b hj
      dsimp only at hj
      by_cases e : j = i
      · simp [e, Phase.wait?] at hj
      · rw [if_neg e] at hj
        rw [hl, if_neg e, h.current j m' b hj]
        refine congrArg some (Eq.symm ?_)
        refine Room.record_congr ?_ ?_ Iff.rfl <;> by_cases e' : m' = m <;> cases n <;>
          simp [Room.line, e', hm j e]
    · intro j w hj hw
      dsimp only at hj
      rw [hl] at hw
      by_cases e : j = i
      · subst e
        rw [if_pos rfl, hc] at hw
        cases hw
        exact settled ho hp hw ht
      · rw [if_neg e] at hw hj
        exact h.away j w hj hw
    · exact h.older.amend fun _ => rfl
    · exact fun m' => (h.names_comeBack ho hp m').symm
    · intro j
      have hf := h.flags j
      rw [hl]
      by_cases e : j = i
      · subst e
        rw [if_pos rfl, hc]
        rw [hc] at hf
        exact hf
      · rw [if_neg e]
        exact hf

theorem step (h : Chronicle r ws) (ho : r.Orderly) {e : Event} (hs : r.Step e r') :
    Chronicle r' (e.record ws) := by
  cases e with
  | queued i m =>
    have hp : r.phase i = .away := by cases hs; assumption
    exact h.queued hp hs
  | dequeued m taken =>
    cases hs with
    | dequeued _ _ rest _ _ hq => exact h.dequeue ho hq
  | flagged m i => exact h.flagged ho (ho.step hs) hs
  | signalled m i => exact h.signalled ho hs
  | read i n => exact h.read hs
  | returned i m n => exact h.returned ho hs

end Chronicle

open State

variable {home : Identity → OsThread} {s : State} {past : List Moment}

theorem chronicle_start : Chronicle (State.start.room home) [] := by
  constructor <;> intros <;>
    simp_all [phaseOf, Monitor.free, Park.idle, latest, names, Point.phase, Phase.wait?, Older]

/-- In every state of a disciplined run, the waits and the waiting room agree. -/
theorem Run.chronicle (h : Run home past s) : Chronicle (s.room home) (waits past) := by
  induction h with
  | start => exact chronicle_start
  | @step past s t l hr hf hs ih =>
    rcases (hr.held.simulates hf (step_transition hs)).event_or with ⟨e, he, hx⟩ | ⟨he, hx⟩
    · rw [waits_of_event he]
      exact ih.step hr.orderly hx
    · rw [waits_of_none he, show t.room home = s.room home from hx]
      exact ih

end VmHost.Monitor
