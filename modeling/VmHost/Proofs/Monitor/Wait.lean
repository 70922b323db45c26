import VmHost.Proofs.Monitor.Room

/-!
# The waits of a run

`waits` lists all waits of a run, the last one first, and counts for each what has been done about
it: how often it was taken out of the queue, how often its flags were set and its event signaled,
what it read and whether it has come back. An event concerns the latest wait of a thread.
-/
namespace VmHost.Monitor

/-- One wait of a thread, and what has become of it. -/
structure Wait where
  who : Identity
  monitor : MonitorId
  /-- How often a notification has taken it out of the queue. -/
  dequeued : Nat
  /-- How often a notification has set the flags of the thread for it. -/
  flagged : Nat
  /-- How often a notification has signaled the event of the thread for it. -/
  signalled : Nat
  /-- Whether the thread was notified, as it read it in its flags after its sleep. -/
  read : Option Bool
  returned : Bool
  deriving DecidableEq, Repr

namespace Wait

def new (i : Identity) (m : MonitorId) : Wait := ⟨i, m, 0, 0, 0, none, false⟩

def dequeue (w : Wait) : Wait := { w with dequeued := w.dequeued + 1 }

def flag (w : Wait) : Wait := { w with flagged := w.flagged + 1 }

def signal (w : Wait) : Wait := { w with signalled := w.signalled + 1 }

def learn (notified : Bool) (w : Wait) : Wait := { w with read := some notified }

def comeBack (w : Wait) : Wait := { w with returned := true }

/-- The thread has removed itself: it has come back without a notification. -/
def withdrawn (w : Wait) : Bool := w.returned && w.read = some false

/-- The wait is on a monitor, and neither has a notification taken it nor has it removed itself. -/
def isQueuedAt (m : MonitorId) (w : Wait) : Bool :=
  w.monitor = m && w.dequeued = 0 && !w.withdrawn

end Wait

/-! ## The latest wait of a thread -/

/-- The latest wait of a thread. -/
def latest (i : Identity) (ws : List Wait) : Option Wait := ws.find? (·.who = i)

/-- Changes the latest wait of a thread. -/
def amend (i : Identity) (f : Wait → Wait) : List Wait → List Wait
  | [] => []
  | w :: ws => if w.who = i then f w :: ws else w :: amend i f ws

/-- The threads of the waits that pass a test, the first wait first. -/
def names (p : Wait → Bool) (ws : List Wait) : List Identity := ((ws.filter p).map Wait.who).reverse

section

variable {ws : List Wait} {w v : Wait} {i j : Identity} {f : Wait → Wait} {p : Wait → Bool}

theorem latest_cons : latest i (w :: ws) = if w.who = i then some w else latest i ws := by
  unfold latest
  rw [List.find?_cons]
  by_cases h : w.who = i <;> simp [h]

theorem who_of_latest (h : latest i ws = some w) : w.who = i := by
  simpa using List.find?_some h

theorem latest_amend (hf : ∀ w, (f w).who = w.who) :
    latest i (amend j f ws) = if i = j then (latest i ws).map f else latest i ws := by
  induction ws with
  | nil => simp [amend, latest]
  | cons w ws ih =>
    unfold amend
    split
    · rw [latest_cons, latest_cons, hf]
      split <;> grind
    · rw [latest_cons, latest_cons, ih]
      split <;> grind

/-- A wait is among the changed ones if it was there before or is the changed one. -/
theorem mem_amend (h : v ∈ amend i f ws) : v ∈ ws ∨ ∃ w, latest i ws = some w ∧ v = f w := by
  induction ws with
  | nil => cases h
  | cons w ws ih =>
    unfold amend at h
    rw [latest_cons]
    split at h
    · rename_i hw
      rw [if_pos hw]
      rcases List.mem_cons.mp h with rfl | h
      · exact .inr ⟨w, rfl, rfl⟩
      · exact .inl (List.mem_cons_of_mem _ h)
    · rename_i hw
      rw [if_neg hw]
      rcases List.mem_cons.mp h with rfl | h
      · exact .inl List.mem_cons_self
      · exact (ih h).imp_left (List.mem_cons_of_mem _)

/-- Waits of a thread before its latest one pass a test. -/
def Older (p : Wait → Prop) (ws : List Wait) : Prop := ws.Pairwise fun w v => w.who = v.who → p v

theorem Older.amend {p : Wait → Prop} (h : Older p ws) (hf : ∀ w, (f w).who = w.who) :
    Older p (amend i f ws) := by
  induction ws with
  | nil => exact h
  | cons w ws ih =>
    obtain ⟨hw, hws⟩ := List.pairwise_cons.mp h
    unfold Monitor.amend
    split
    · exact List.pairwise_cons.mpr ⟨fun v hv e => hw v hv ((hf w).symm.trans e), hws⟩
    · rename_i hi
      refine List.pairwise_cons.mpr ⟨fun v hv e => ?_, ih hws⟩
      rcases mem_amend hv with hv | ⟨u, hu, rfl⟩
      · exact hw v hv e
      · rw [hf, who_of_latest hu] at e
        exact absurd e hi

theorem names_cons : names p (w :: ws) = if p w then names p ws ++ [w.who] else names p ws := by
  unfold names
  rw [List.filter_cons]
  split <;> simp

theorem mem_names : i ∈ names p ws ↔ ∃ w ∈ ws, p w ∧ w.who = i := by
  simp [names, and_assoc]

/-- A wait is the latest one of its thread, or passes the test. -/
theorem Older.latest_or {p : Wait → Prop} (h : Older p ws) (hw : w ∈ ws) :
    latest w.who ws = some w ∨ p w := by
  induction ws with
  | nil => cases hw
  | cons v ws ih =>
    obtain ⟨hv, hws⟩ := List.pairwise_cons.mp h
    rw [latest_cons]
    rcases List.mem_cons.mp hw with rfl | hw
    · exact .inl (if_pos rfl)
    · split
      · rename_i e
        exact .inr (hv w hw e)
      · exact ih hws hw

/-- If the latest wait of a thread passes the test as well, all its waits do. -/
theorem Older.all {p : Wait → Prop} (h : Older p ws) (hl : ∀ w, latest i ws = some w → p w) :
    ∀ v ∈ ws, v.who = i → p v := by
  rintro v hv rfl
  rcases h.latest_or hv with hv | hv
  · exact hl v hv
  · exact hv

/-- The names stay if the change does not decide about the test. -/
theorem names_amend (hf : ∀ w, (f w).who = w.who)
    (hp : ∀ w, latest i ws = some w → p (f w) = p w) : names p (amend i f ws) = names p ws := by
  induction ws with
  | nil => rfl
  | cons w ws ih =>
    unfold amend
    rw [latest_cons] at hp
    split
    · rename_i hw
      rw [if_pos hw] at hp
      rw [names_cons, names_cons, hp w rfl, hf]
    · rename_i hw
      rw [if_neg hw] at hp
      rw [names_cons, names_cons, ih hp]

/-- A thread is no longer named if its latest wait fails the test now, as its older ones do. -/
theorem names_amend_drop (hw : Older (p · = false) ws)
    (hp : ∀ w, latest i ws = some w → p (f w) = false) :
    names p (amend i f ws) = (names p ws).filter (· != i) := by
  induction ws with
  | nil => rfl
  | cons w ws ih =>
    obtain ⟨hold, hws⟩ := List.pairwise_cons.mp hw
    unfold amend
    rw [latest_cons] at hp
    split
    · rename_i hi
      rw [if_pos hi] at hp
      have hn : i ∉ names p ws := by
        intro h
        obtain ⟨v, hv, hpv, e⟩ := mem_names.mp h
        rw [hold v hv (hi.trans e.symm)] at hpv
        cases hpv
      have hk : (names p ws).filter (· != i) = names p ws :=
        List.filter_eq_self.mpr fun j hj => by simpa using fun e : j = i => hn (e ▸ hj)
      rw [names_cons, names_cons, hp w rfl, if_neg (by simp)]
      split
      · rw [List.filter_append, hk, hi]
        simp
      · exact hk.symm
    · rename_i hi
      rw [if_neg hi] at hp
      rw [names_cons, names_cons, ih hws hp]
      split
      · rw [List.filter_append]
        simp [hi]
      · rfl

theorem countP_amend (hp : ∀ w, latest i ws = some w → p (f w) = p w) :
    (amend i f ws).countP p = ws.countP p := by
  induction ws with
  | nil => rfl
  | cons w ws ih =>
    unfold amend
    rw [latest_cons] at hp
    split
    · rename_i hw
      rw [if_pos hw] at hp
      rw [List.countP_cons, List.countP_cons, hp w rfl]
    · rename_i hw
      rw [if_neg hw] at hp
      rw [List.countP_cons, List.countP_cons, ih hp]

/-- One more wait passes the test if the latest wait of a thread does now and did not before. -/
theorem countP_amend_succ (hw : latest i ws = some w) (hp : p w = false) (hf : p (f w) = true) :
    (amend i f ws).countP p = ws.countP p + 1 := by
  induction ws with
  | nil => cases hw
  | cons v ws ih =>
    unfold amend
    rw [latest_cons] at hw
    split
    · rename_i hv
      rw [if_pos hv] at hw
      cases hw
      simp [hp, hf]
    · rename_i hv
      rw [if_neg hv] at hw
      rw [List.countP_cons, List.countP_cons, ih hw]
      omega

theorem countP_foldl_amend {is : List Identity} (hp : ∀ w, p (f w) = p w) :
    (is.foldl (fun ws i => amend i f ws) ws).countP p = ws.countP p := by
  induction is generalizing ws with
  | nil => rfl
  | cons i is ih => rw [List.foldl_cons, ih, countP_amend fun w _ => hp w]

/-- A change that a later wait of another thread is not concerned by. -/
theorem foldl_amend_cons {is : List Identity} (hw : w.who ∉ is) :
    is.foldl (fun ws i => amend i f ws) (w :: ws) =
      w :: is.foldl (fun ws i => amend i f ws) ws := by
  induction is generalizing ws with
  | nil => rfl
  | cons i is ih =>
    have hi : w.who ≠ i := fun e => hw (e ▸ List.mem_cons_self)
    rw [List.foldl_cons, amend, if_neg hi, ih fun h => hw (List.mem_cons_of_mem _ h),
      List.foldl_cons]

/-- To change the latest wait of each named thread is to change the waits that pass the test. -/
theorem foldl_amend_names (h : Older (p · = false) ws) :
    (names p ws).foldl (fun ws i => amend i f ws) ws = ws.map fun w => if p w then f w else w := by
  induction ws with
  | nil => rfl
  | cons w ws ih =>
    obtain ⟨hw, hws⟩ := List.pairwise_cons.mp h
    have hn : w.who ∉ names p ws := by
      intro hn
      obtain ⟨v, hv, hp, e⟩ := mem_names.mp hn
      rw [hw v hv e.symm] at hp
      cases hp
    rw [names_cons, List.map_cons, ← ih hws]
    split
    · rw [List.foldl_append, foldl_amend_cons hn]
      simp [amend]
    · rw [foldl_amend_cons hn]

/-- Where the first named thread is found: its wait passes the test and no earlier one does. -/
theorem names_eq_cons (h : Older (p · = false) ws) {is : List Identity}
    (hn : names p ws = i :: is) : ∃ newer w older, ws = newer ++ w :: older ∧ w.who = i ∧ p w ∧
      (∀ v ∈ older, p v = false) ∧ amend i f ws = newer ++ f w :: older := by
  induction ws generalizing is with
  | nil => cases hn
  | cons w ws ih =>
    obtain ⟨hw, hws⟩ := List.pairwise_cons.mp h
    rw [names_cons] at hn
    cases hr : names p ws with
    | nil =>
      have hold : ∀ v ∈ ws, p v = false := fun v hv => by
        refine Bool.eq_false_iff.mpr fun hp => ?_
        have hm := mem_names.mpr ⟨v, hv, hp, rfl⟩
        rw [hr] at hm
        cases hm
      rw [hr] at hn
      split at hn
      · rename_i hp
        obtain rfl : w.who = i := (List.cons.inj hn).1
        exact ⟨[], w, ws, rfl, rfl, hp, hold, if_pos rfl⟩
      · cases hn
    | cons j js =>
      obtain rfl : j = i := by
        rw [hr] at hn
        split at hn
        · exact (List.cons.inj hn).1
        · exact (List.cons.inj hn).1
      obtain ⟨newer, v, older, rfl, rfl, hp, hold, ha⟩ := ih hws hr
      refine ⟨w :: newer, v, older, rfl, rfl, hp, hold, ?_⟩
      have hne : w.who ≠ v.who := by
        intro e
        rw [hw v (by simp) e] at hp
        cases hp
      rw [amend, if_neg hne, ha, List.cons_append]

end

/-! ## The waits -/

/-- What an event does to the waits. -/
def Event.record : Event → List Wait → List Wait
  | .queued i m, ws => .new i m :: ws
  | .dequeued _ taken, ws => taken.foldl (fun ws i => amend i Wait.dequeue ws) ws
  | .flagged _ i, ws => amend i Wait.flag ws
  | .signalled _ i, ws => amend i Wait.signal ws
  | .read i notified, ws => amend i (Wait.learn notified) ws
  | .returned i _ _, ws => amend i Wait.comeBack ws

/-- The waits of a run, the last one first. -/
def waits : List Moment → List Wait
  | [] => []
  | x :: past =>
    match x.event? with
    | some e => e.record (waits past)
    | none => waits past

theorem waits_of_event {x : Moment} {e : Event} {past : List Moment} (he : x.event? = some e) :
    waits (x :: past) = e.record (waits past) := by
  rw [waits, he]

theorem waits_of_none {x : Moment} {past : List Moment} (he : x.event? = none) :
    waits (x :: past) = waits past := by
  rw [waits, he]

end VmHost.Monitor
