import VmHost.Inspect.Machine

/-!
# What one step of an inspection can do

`State.step` goes through many small functions. Here its outcomes are listed once: `Transition s l t`
has one constructor for each kind of step, with what the step needed and the whole state after it.
The steps that only move an inspector are listed in `Moves`, those that also write the slot in
`Writes`; for the handlers these are `Reads` and `Stores`. Each invariant of inspections is proved by
cases on them.

* `step_transition`: a step that can be taken is one of the list.
* `step_turn`: what a step means for one inspector.
* `isFree_of_advance`: an OS thread does not go on inspecting while its own handler runs.
-/
namespace VmHost.Inspect

namespace State

/-- What the handler of a thread is about to do. -/
def handler (s : State) (t : Identity) : Handling := (s.subjects.get t).handler

/-- The registers that a signal has saved, or would save, on a thread. -/
def saved (s : State) (t : Identity) : Registers := (s.subjects.get t).context.registers

/-! ## Reading a changed state -/

variable (s : State) (o x : OsThread) (p : Inspecting) (t u : Identity) (h : Handling)
  (f : Slot → Slot) (g : Subject → Subject)

@[simp] theorem lock_moveTo : (s.moveTo o p).lock = s.lock := rfl
@[simp] theorem slot_moveTo : (s.moveTo o p).slot = s.slot := rfl
@[simp] theorem handler_moveTo : (s.moveTo o p).handler u = s.handler u := rfl

@[simp] theorem get_moveTo :
    (s.moveTo o p).inspectors.get x = if x = o then p else s.inspectors.get x :=
  Row.get_set ..

@[simp] theorem lock_onSlot : (s.onSlot f).lock = s.lock := rfl
@[simp] theorem slot_onSlot : (s.onSlot f).slot = f s.slot := rfl
@[simp] theorem inspectors_onSlot : (s.onSlot f).inspectors = s.inspectors := rfl

theorem get_onSubject :
    (s.onSubject t g).subjects.get u = if u = t then g (s.subjects.get t) else s.subjects.get u :=
  Row.get_modify ..

/-- What the change of a thread leaves alone. -/
theorem onSubject_same {α : Type} (a : Subject → α) {g : Subject → Subject}
    (hg : ∀ y, a (g y) = a y) :
    a ((s.onSubject t g).subjects.get u) = a (s.subjects.get u) := by
  rw [get_onSubject]
  split
  · rename_i e
    rw [hg, e]
  · rfl

theorem handler_onSubject :
    (s.onSubject t g).handler u = if u = t then (g (s.subjects.get t)).handler else s.handler u := by
  simp only [handler, get_onSubject]
  split <;> rfl

@[simp] theorem handler_moveHandler :
    (s.moveHandler t h).handler u = if u = t then h else s.handler u :=
  s.handler_onSubject ..

@[simp] theorem context_moveHandler :
    ((s.moveHandler t h).subjects.get u).context = (s.subjects.get u).context :=
  s.onSubject_same t u (·.context) fun _ => rfl

@[simp] theorem saved_moveHandler : (s.moveHandler t h).saved u = s.saved u :=
  congrArg Context.registers (s.context_moveHandler ..)

@[simp] theorem handler_send : (s.send t).handler u = s.handler u :=
  s.onSubject_same t u (·.handler) fun y => by split <;> rfl

@[simp] theorem context_send : ((s.send t).subjects.get u).context = (s.subjects.get u).context :=
  s.onSubject_same t u (·.context) fun y => by split <;> rfl

@[simp] theorem saved_send : (s.send t).saved u = s.saved u :=
  congrArg Context.registers (s.context_send ..)

end State

open State

/-! ## The kinds of steps -/

/-- An inspector goes on without touching the slot, the mutex or a thread. -/
inductive Moves (s : State) (o : OsThread) : Label → Inspecting → Prop
  | asks {c q r} : s.inspectors.get o = .out r → c ≠ q.target →
      ¬((s.subjects.get q.target).known = true ∧ q.target = o) → Moves s o (.ask o c q) (.locking q)
  | finds {q} : s.inspectors.get o = .judging q → (s.subjects.get q.target).live = true →
      Moves s o (.advance o) (.resolving q)
  | finished {q} : s.inspectors.get o = .judging q → (s.subjects.get q.target).live = false →
      Moves s o (.advance o) (.unlocking (.failed .threadFinished))
  | resolves {q} : s.inspectors.get o = .resolving q → (s.subjects.get q.target).known = true →
      Moves s o (.advance o) (.aiming q)
  | unresolved {q} : s.inspectors.get o = .resolving q →
      (s.subjects.get q.target).known = false →
      Moves s o (.advance o) (.unlocking (.failed .threadFinished))
  | refused {q e} : s.inspectors.get o = .signalling q →
      (s.subjects.get q.target).ended = true → Moves s o (.refuse o e) (.disarming e)
  | times {q d} : s.inspectors.get o = .timing q → deadline? s.now q.timeout = some d →
      Moves s o (.advance o) (.polling q d)
  | overflows {q} : s.inspectors.get o = .timing q → deadline? s.now q.timeout = none →
      Moves s o (.advance o) (.unlocking .overflowed)
  | meets {q d} : s.inspectors.get o = .polling q d → s.slot.phase = .paused →
      Moves s o (.advance o) (.capturing q .ip .zero)
  | waits {q d} : s.inspectors.get o = .polling q d → s.slot.phase = .requested →
      Moves s o (.advance o) (.weighing q d)
  | wonders {q d} : s.inspectors.get o = .polling q d →
      s.slot.phase = .idle ∨ s.slot.phase = .resume → Moves s o (.advance o) .confused
  | persists {q d} : s.inspectors.get o = .weighing q d → s.now < d →
      (s.subjects.get q.target).live = true → Moves s o (.advance o) (.polling q d)
  | despairs {q d gone} : s.inspectors.get o = .weighing q d →
      d ≤ s.now ∨ gone = true → gone = !(s.subjects.get q.target).live →
      Moves s o (.advance o) (.withdrawing q d gone)
  | answered {q d gone} : s.inspectors.get o = .withdrawing q d gone →
      s.slot.phase ≠ .requested → Moves s o (.advance o) (.polling q d)
  | captures {q k k' got} : s.inspectors.get o = .capturing q k got → k.next? = some k' →
      Moves s o (.advance o) (.capturing q k' (k.put got (k.of s.slot.registers)))
  | holds {q k got} : s.inspectors.get o = .capturing q k got → k.next? = none →
      q.visiting = false →
      Moves s o (.advance o) (.holding q (k.put got (k.of s.slot.registers)))
  | rewrites {q r r'} : s.inspectors.get o = .holding q r →
      Moves s o (.overwrite o r') (.overwriting q .ip r')
  | resumes {q r} : s.inspectors.get o = .holding q r → Moves s o (.resume o) .resuming
  | drains : s.inspectors.get o = .draining → s.slot.phase ≠ .resume →
      Moves s o (.advance o) (.unlocking .resumed)

/-- An inspector writes the slot. -/
inductive Writes (s : State) (o : OsThread) : (Slot → Slot) → Inspecting → Prop
  | aims {q} : s.inspectors.get o = .aiming q →
      Writes s o ({ · with target := some q.target }) (.clearing q)
  | clears {q} : s.inspectors.get o = .clearing q →
      Writes s o ({ · with overwritten := false }) (.arming q)
  | arms {q} : s.inspectors.get o = .arming q →
      Writes s o ({ · with phase := .requested }) (.signalling q)
  | disarms {e} : s.inspectors.get o = .disarming e →
      Writes s o ({ · with phase := .idle }) (.unlocking (.failed e))
  | withdraws {q d gone} : s.inspectors.get o = .withdrawing q d gone →
      s.slot.phase = .requested → Writes s o ({ · with phase := .idle })
        (.unlocking (.failed (if gone then .threadFinished else timedOut)))
  | resets : s.inspectors.get o = .confused →
      Writes s o ({ · with phase := .idle }) (.unlocking (.failed protocolError))
  | overwrites {q k k' r} : s.inspectors.get o = .overwriting q k r → k.next? = some k' →
      Writes s o (fun y => { y with registers := k.put y.registers (k.of r) }) (.overwriting q k' r)
  | overwritten {q k r} : s.inspectors.get o = .overwriting q k r → k.next? = none →
      Writes s o (fun y => { y with registers := k.put y.registers (k.of r) }) (.marking q r)
  | marks {q r} : s.inspectors.get o = .marking q r →
      Writes s o ({ · with overwritten := true }) (.holding q r)
  | resumes : s.inspectors.get o = .resuming → Writes s o ({ · with phase := .resume }) .draining

/-- A handler goes on without touching the slot. -/
inductive Reads (s : State) (t : Identity) : Handling → Prop
  | notices : s.handler t = .entered → s.slot.phase = .requested → Reads s t .matching
  | ignores : s.handler t = .entered → s.slot.phase ≠ .requested → Reads s t .out
  | recognizes : s.handler t = .matching → s.slot.target = some t → Reads s t (.storing .ip)
  | spares : s.handler t = .matching → s.slot.target ≠ some t → Reads s t .out
  | abandons : s.handler t = .answering → s.slot.phase ≠ .requested → Reads s t .out
  | wakes : s.handler t = .parked → s.slot.phase ≠ .paused → Reads s t .checking
  | changes : s.handler t = .checking → s.slot.overwritten = true → Reads s t (.reloading .ip .zero)
  | keeps : s.handler t = .checking → s.slot.overwritten = false → Reads s t .releasing
  | reloads {k k' got} : s.handler t = .reloading k got → k.next? = some k' →
      Reads s t (.reloading k' (k.put got (k.of s.slot.registers)))

/-- A handler writes the slot. -/
inductive Stores (s : State) (t : Identity) : (Slot → Slot) → Handling → Prop
  | stores {k k'} : s.handler t = .storing k → k.next? = some k' →
      Stores s t (fun y => { y with registers := k.put y.registers (k.of (s.saved t)) })
        (.storing k')
  | stored {k} : s.handler t = .storing k → k.next? = none →
      Stores s t (fun y => { y with registers := k.put y.registers (k.of (s.saved t)) }) .clearing
  | clears : s.handler t = .clearing → Stores s t ({ · with overwritten := false }) .answering
  | answers : s.handler t = .answering → s.slot.phase = .requested →
      Stores s t ({ · with phase := .paused }) .parked
  | releases : s.handler t = .releasing → Stores s t ({ · with phase := .idle }) .out

/-- What happens to a thread that may be stopped, apart from its handler. -/
inductive Happens (s : State) : Label → Identity → (Subject → Subject) → Prop
  | runs (t c) : s.isFree t = true → Happens s (.run t c) t ({ · with context := c })
  | masks (t on) : s.isFree t = true → Happens s (.mask t on) t ({ · with masked := on })
  | publishes (t) : Happens s (.publish t) t ({ · with known := true })
  | finishes (t) : s.isFree t = true → s.isOut t = true →
      Happens s (.finish t) t ({ · with live := false })
  | leaves (t) : s.isFree t = true → s.isOut t = true → (s.subjects.get t).live = false →
      Happens s (.leave t) t ({ · with ended := true, pending := false })

/-- The rule that a step breaks. -/
inductive Breaks (s : State) : Label → OsThread → Violation → Prop
  | self {o c q r} : s.inspectors.get o = .out r →
      c = q.target ∨ (s.subjects.get q.target).known = true ∧ q.target = o →
      Breaks s (.ask o c q) o .selfInspection
  | relocks {o q} : s.inspectors.get o = .locking q → s.lock.holder = some o →
      Breaks s (.advance o) o (.unexpected "pthread_mutex_lock" Mutex.deadlockCode)
  | unlocks {o r} : s.inspectors.get o = .unlocking r → s.lock.holder ≠ some o →
      Breaks s (.advance o) o .lockNotHeld

inductive Transition (s : State) : Label → State → Prop
  | moves {o l p} : Moves s o l p → Transition s l (s.moveTo o p)
  | writes {o f p} : Writes s o f p → Transition s (.advance o) ((s.onSlot f).moveTo o p)
  | locks {o q} : s.inspectors.get o = .locking q → s.lock.holder = none →
      Transition s (.advance o) ({ s with lock := ⟨some o⟩ }.moveTo o (.judging q))
  | unlocks {o r} : s.inspectors.get o = .unlocking r → s.lock.holder = some o →
      Transition s (.advance o) ({ s with lock := .free }.moveTo o (.out (some r)))
  | signals {o q} : s.inspectors.get o = .signalling q →
      Transition s (.advance o) ((s.send q.target).moveTo o (.timing q))
  | shows {o q k got} : s.inspectors.get o = .capturing q k got → k.next? = none →
      q.visiting = true →
      Transition s (.advance o)
        ({ s with visits := (o, q.target, k.put got (k.of s.slot.registers)) :: s.visits }.moveTo
          o .resuming)
  | delivers {t} : (s.subjects.get t).pending = true → (s.subjects.get t).masked = false →
      s.isFree t = true →
      Transition s (.deliver t) (s.onSubject t ({ · with pending := false, handler := .entered }))
  | reads {t h} : Reads s t h → Transition s (.handle t) (s.moveHandler t h)
  | stores {t f h} : Stores s t f h → Transition s (.handle t) ((s.onSlot f).moveHandler t h)
  | restores {t k got} : s.handler t = .reloading k got → k.next? = none →
      Transition s (.handle t) (s.onSubject t fun y =>
        { y with
          context := y.context.withRegisters (k.put got (k.of s.slot.registers))
          handler := .releasing })
  | strays (t) : Transition s (.stray t) (s.send t)
  | happens {l t g} : Happens s l t g → Transition s l (s.onSubject t g)
  | passes (n) : Transition s (.pass n) { s with now := s.now + n }
  | violates {l o v} : Breaks s l o v → Transition s l { s with violation := some (o, v) }

/-! ## Every step is of one of these kinds -/

variable {s s' : State} {l : Label} {o : OsThread} {t : Identity}

theorem State.isOut_iff : s.isOut o = true ↔ ∃ r, s.inspectors.get o = .out r := by
  unfold isOut
  split
  · rename_i r hr
    exact iff_of_true rfl ⟨r, hr⟩
  · rename_i hr
    exact iff_of_false (by simp) fun ⟨r, h⟩ => hr r h

theorem State.handler_of_isFree (h : s.isFree t = true) : s.handler t = .out := by
  simp only [isFree, Bool.and_eq_true, decide_eq_true_eq] at h
  exact h.1

theorem Happens.handler {g : Subject → Subject} (h : Happens s l t g) (u : Identity) :
    (s.onSubject t g).handler u = s.handler u := by
  refine s.onSubject_same t u (·.handler) fun y => ?_
  cases h <;> rfl

theorem ask_transition {c : Identity} {q : Request} (ho : s.isOut o = true) :
    Transition s (.ask o c q) (s.ask o c q) := by
  obtain ⟨r, hr⟩ := isOut_iff.mp ho
  unfold State.ask
  split
  · rename_i hs
    exact .violates (.self hr hs)
  · rename_i hs
    rw [not_or] at hs
    exact .moves (.asks hr hs.1 hs.2)

theorem takeLock_transition {q : Request} (hp : s.inspectors.get o = .locking q)
    (h : s.takeLock o q = some s') : Transition s (.advance o) s' := by
  unfold takeLock at h
  split at h
  · rename_i lock hl
    obtain ⟨hf, rfl⟩ := (Mutex.take_eq_taken_iff ..).mp hl
    cases h
    exact .locks hp hf
  · cases h
  · rename_i hl
    cases h
    exact .violates (.relocks hp ((Mutex.take_eq_deadlock_iff ..).mp hl))

theorem dropLock_transition {r : Outcome} (hp : s.inspectors.get o = .unlocking r) :
    Transition s (.advance o) (s.dropLock o r) := by
  unfold dropLock
  split
  · rename_i lock hl
    obtain ⟨hh, rfl⟩ := (Mutex.release?_eq_some_iff ..).mp hl
    exact .unlocks hp hh
  · rename_i hl
    refine .violates (.unlocks hp fun hh => ?_)
    rw [(Mutex.release?_eq_some_iff ..).mpr ⟨hh, rfl⟩] at hl
    cases hl

theorem capture_transition {q : Request} {k : Slice} {got : Registers}
    (hp : s.inspectors.get o = .capturing q k got) (hk : k.next? = none) :
    Transition s (.advance o) (s.captured o q (k.put got (k.of s.slot.registers))) := by
  unfold captured
  split
  · rename_i hv
    exact .shows hp hk hv
  · rename_i hv
    exact .moves (.holds hp hk (by simpa using hv))

theorem advance_transition (h : s.advance o = some s') : Transition s (.advance o) s' := by
  cases hp : s.inspectors.get o <;> simp only [advance, hp, reduceCtorEq, Option.some.injEq] at h
  case locking q => exact takeLock_transition hp h
  case judging q =>
    subst h
    cases hl : (s.subjects.get q.target).live with
    | true => exact .moves (.finds hp hl)
    | false => exact .moves (.finished hp hl)
  case resolving q =>
    subst h
    cases hl : (s.subjects.get q.target).known with
    | true => exact .moves (.resolves hp hl)
    | false => exact .moves (.unresolved hp hl)
  case aiming q => exact h ▸ .writes (.aims hp)
  case clearing q => exact h ▸ .writes (.clears hp)
  case arming q => exact h ▸ .writes (.arms hp)
  case signalling q => exact h ▸ .signals hp
  case disarming e => exact h ▸ .writes (.disarms hp)
  case timing q =>
    cases hd : deadline? s.now q.timeout <;> simp only [hd, Option.some.injEq] at h <;> subst h
    · exact .moves (.overflows hp hd)
    · exact .moves (.times hp hd)
  case polling q d =>
    cases hf : s.slot.phase <;> simp only [hf, Option.some.injEq] at h <;> subst h
    · exact .moves (.wonders hp (.inl hf))
    · exact .moves (.waits hp hf)
    · exact .moves (.meets hp hf)
    · exact .moves (.wonders hp (.inr hf))
  case weighing q d =>
    subst h
    split
    · rename_i hw
      exact .moves (.despairs hp hw rfl)
    · rename_i hw
      rw [not_or, Nat.not_le] at hw
      exact .moves (.persists hp hw.1 (by simpa using hw.2))
  case withdrawing q d gone =>
    split at h <;> rename_i hf <;> cases h
    · exact .writes (.withdraws hp hf)
    · exact .moves (.answered hp hf)
  case confused => exact h ▸ .writes (.resets hp)
  case capturing q k got =>
    cases hk : k.next? <;> simp only [hk, Option.some.injEq] at h <;> subst h
    · exact capture_transition hp hk
    · exact .moves (.captures hp hk)
  case overwriting q k r =>
    cases hk : k.next? <;> simp only [hk, Option.some.injEq] at h <;> subst h
    · exact .writes (.overwritten hp hk)
    · exact .writes (.overwrites hp hk)
  case marking q r => exact h ▸ .writes (.marks hp)
  case resuming => exact h ▸ .writes (.resumes hp)
  case draining =>
    split at h <;> rename_i hf <;> cases h
    exact .moves (.drains hp hf)
  case unlocking r => exact h ▸ dropLock_transition hp

theorem handle_transition (h : s.handle t = some s') : Transition s (.handle t) s' := by
  have hx : (s.subjects.get t).handler = s.handler t := rfl
  cases hp : s.handler t <;>
    simp only [State.handle, hx, hp, reduceCtorEq, Option.some.injEq] at h
  case entered =>
    subst h
    split <;> rename_i hf
    · exact .reads (.notices hp hf)
    · exact .reads (.ignores hp hf)
  case matching =>
    subst h
    split <;> rename_i hf
    · exact .reads (.recognizes hp hf)
    · exact .reads (.spares hp hf)
  case storing k =>
    subst h
    cases hk : k.next? with
    | none => exact .stores (.stored hp hk)
    | some k' => exact .stores (.stores hp hk)
  case clearing => exact h ▸ .stores (.clears hp)
  case answering =>
    split at h <;> rename_i hf <;> cases h
    · exact .stores (.answers hp hf)
    · exact .reads (.abandons hp hf)
  case parked =>
    split at h <;> rename_i hf <;> cases h
    exact .reads (.wakes hp hf)
  case checking =>
    subst h
    cases hw : s.slot.overwritten with
    | true => exact .reads (.changes hp hw)
    | false => exact .reads (.keeps hp hw)
  case reloading k got =>
    cases hk : k.next? <;> simp only [hk, Option.some.injEq] at h <;> subst h
    · exact .restores hp hk
    · exact .reads (.reloads hp hk)
  case releasing => exact h ▸ .stores (.releases hp)

theorem advance_of_step (h : s.step (.advance o) = some s') :
    s.isFree o = true ∧ s.advance o = some s' := by
  simp only [State.step, inspect] at h
  split at h
  · cases h
  · split at h
    · exact ⟨by assumption, h⟩
    · cases h

/-- An OS thread goes on inspecting only while its own handler is not running. -/
theorem isFree_of_advance (h : s.step (.advance o) = some s') : s.isFree o = true :=
  (advance_of_step h).1

/-- Nothing happens once a rule has been broken. -/
theorem violation_of_step (h : s.step l = some s') : s.violation = none := by
  unfold State.step at h
  split at h
  · cases h
  · rename_i hv
    simpa using hv

theorem step_transition (h : s.step l = some s') : Transition s l s' := by
  unfold State.step at h
  split at h
  · cases h
  · cases l <;> dsimp only at h
    case ask o c q =>
      split at h <;> rename_i hg <;> cases h
      exact ask_transition hg.1
    case advance o =>
      unfold inspect at h
      split at h
      · exact advance_transition h
      · cases h
    case refuse o e =>
      split at h
      · rename_i q hp
        split at h <;> rename_i he <;> cases h
        exact .moves (.refused hp he)
      · cases h
    case overwrite o r =>
      split at h
      · rename_i q r' hp
        cases h
        exact .moves (.rewrites hp)
      · cases h
    case resume o =>
      split at h
      · rename_i q r hp
        cases h
        exact .moves (.resumes hp)
      · cases h
    case deliver t =>
      split at h <;> rename_i hg <;> cases h
      exact .delivers hg.1 (by simpa using hg.2.1) hg.2.2
    case handle t => exact handle_transition h
    case stray t =>
      cases h
      exact .strays t
    case run t c =>
      split at h <;> rename_i hg <;> cases h
      exact .happens (.runs t c hg)
    case mask t on =>
      split at h <;> rename_i hg <;> cases h
      exact .happens (.masks t on hg)
    case publish t =>
      cases h
      exact .happens (.publishes t)
    case finish t =>
      split at h <;> rename_i hg <;> cases h
      exact .happens (.finishes t hg.1 hg.2)
    case leave t =>
      split at h <;> rename_i hg <;> cases h
      exact .happens (.leaves t hg.1 hg.2.1 (by simpa using hg.2.2))
    case pass n =>
      cases h
      exact .passes n

/-- The OS thread of a thread ends while the thread is not inspecting, and its handler is not running. -/
theorem ended_of_step (hs : s.step l = some s') (he : (s'.subjects.get t).ended = true) :
    (s.subjects.get t).ended = true ∨ s.isFree t = true ∧ s.isOut t = true ∧
      s' = s.onSubject t ({ · with ended := true, pending := false }) := by
  have hsame {y : State} {u : Identity} {g : Subject → Subject}
      (h : ((y.onSubject u g).subjects.get t).ended = true) (hg : ∀ z, (g z).ended = z.ended) :
      (y.subjects.get t).ended = true := by
    rwa [y.onSubject_same u t (·.ended) hg] at h
  have hsend (z : Subject) : (if z.ended then z else { z with pending := true }).ended = z.ended := by
    split <;> rfl
  cases step_transition hs with
  | happens hh =>
    cases hh with
    | leaves u hf ho =>
      rw [get_onSubject] at he
      split at he
      · rename_i e
        subst e
        exact .inr ⟨hf, ho, rfl⟩
      · exact .inl he
    | runs | masks | publishes | finishes => exact .inl (hsame he fun _ => rfl)
  | signals | strays => exact .inl (hsame (y := s) he hsend)
  | delivers | restores => exact .inl (hsame (y := s) he fun _ => rfl)
  | reads => exact .inl (hsame (y := s) he fun _ => rfl)
  | stores => exact .inl (hsame (y := s.onSlot _) he fun _ => rfl)
  | moves | writes | locks | unlocks | shows | passes | violates => exact .inl he

/-! ## The steps of one inspector -/

/-- Whose inspection a label is about. -/
def Label.inspector? : Label → Option OsThread
  | .ask o _ _ | .advance o | .refuse o _ | .overwrite o _ | .resume o => some o
  | _ => none

/-- An inspector goes from its place to the next one, and does this to the slot. -/
inductive Turn (s : State) (o : OsThread) : Label → (Slot → Slot) → Inspecting → Prop
  | moves {l p} : Moves s o l p → Turn s o l id p
  | writes {f p} : Writes s o f p → Turn s o (.advance o) f p
  | locks {q} : s.inspectors.get o = .locking q → s.lock.holder = none →
      Turn s o (.advance o) id (.judging q)
  | unlocks {r} : s.inspectors.get o = .unlocking r → Turn s o (.advance o) id (.out (some r))
  | signals {q} : s.inspectors.get o = .signalling q → Turn s o (.advance o) id (.timing q)
  | shows {q k got} : s.inspectors.get o = .capturing q k got → k.next? = none →
      q.visiting = true → Turn s o (.advance o) id .resuming

theorem Moves.inspector? {p : Inspecting} (hm : Moves s o l p) : l.inspector? = some o := by
  cases hm <;> rfl

theorem Breaks.inspector? {v : Violation} (hb : Breaks s l o v) : l.inspector? = some o := by
  cases hb <;> rfl

/-- An inspector stays where it is, but for its own steps that break no rule. -/
theorem step_turn (hs : s.step l = some s') (o : OsThread) :
    (∃ f, Turn s o l f (s'.inspectors.get o) ∧ s'.slot = f s.slot) ∨
      s'.inspectors.get o = s.inspectors.get o ∧
        (l.inspector? = some o → ∃ v, Breaks s l o v) := by
  have hother {x : OsThread} {p : Inspecting} {y : State} (hl : l.inspector? = some x) (e : o ≠ x)
      (hy : y.inspectors = s.inspectors) : (y.moveTo x p).inspectors.get o = s.inspectors.get o ∧
        (l.inspector? = some o → ∃ v, Breaks s l o v) := by
    rw [get_moveTo, if_neg e, hy]
    exact ⟨rfl, fun h => absurd (Option.some.inj (h.symm.trans hl)) e⟩
  have hown (x : OsThread) (p : Inspecting) (y : State) : (y.moveTo x p).inspectors.get x = p := by
    rw [get_moveTo, if_pos rfl]
  cases step_transition hs with
  | @moves x l p hm =>
    by_cases e : o = x
    · subst e
      exact .inl ⟨id, by rw [hown]; exact .moves hm, rfl⟩
    · exact .inr (hother hm.inspector? e rfl)
  | @writes x f p hw =>
    by_cases e : o = x
    · subst e
      exact .inl ⟨f, by rw [hown]; exact .writes hw, rfl⟩
    · exact .inr (hother (y := s.onSlot f) rfl e rfl)
  | @locks x q hp hn =>
    by_cases e : o = x
    · subst e
      exact .inl ⟨id, by rw [hown]; exact .locks hp hn, rfl⟩
    · exact .inr (hother (y := { s with lock := ⟨some x⟩ }) rfl e rfl)
  | @unlocks x r hp =>
    by_cases e : o = x
    · subst e
      exact .inl ⟨id, by rw [hown]; exact .unlocks hp, rfl⟩
    · exact .inr (hother (y := { s with lock := .free }) rfl e rfl)
  | @signals x q hp =>
    by_cases e : o = x
    · subst e
      exact .inl ⟨id, by rw [hown]; exact .signals hp, rfl⟩
    · exact .inr (hother (y := s.send q.target) rfl e rfl)
  | @shows x q k got hp hk hv =>
    by_cases e : o = x
    · subst e
      exact .inl ⟨id, by rw [hown]; exact .shows hp hk hv, rfl⟩
    · exact .inr (hother rfl e rfl)
  | @violates l x v hb =>
    refine .inr ⟨rfl, fun h => ⟨v, ?_⟩⟩
    rwa [← Option.some.inj (hb.inspector?.symm.trans h)]
  | happens hh => exact .inr ⟨rfl, by cases hh <;> nofun⟩
  | delivers | reads | stores | restores | strays | passes => exact .inr ⟨rfl, nofun⟩

end VmHost.Inspect
