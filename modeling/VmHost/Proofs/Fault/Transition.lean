import VmHost.Fault.Machine

/-!
# What one step of fault interception can do

`State.step` goes through many small functions. Here its outcomes are listed once: `Transition s l t`
has one constructor for each kind of step, with what the step needed and the whole state after it.
The steps that only move an OS thread with a job are listed in `Moves`, those that also change what
is shared in `Alters`; for the activations these are `Goes` and `Ends`. Each invariant of fault
interception is proved by cases on them.

* `step_transition`: a step that can be taken is one of the list.
-/
namespace VmHost.Fault

namespace State

/-- A handler has been called for an activation. -/
def called (s : State) (o : OsThread) (a : Activation) (x : Registration) : State :=
  let (changes, action) := x.handler (viewOf a)
  { s with handled := ⟨o, viewOf a, changes, action⟩ :: s.handled }

/-- The view as a handler leaves it. -/
def viewAfter (a : Activation) (x : Registration) : View :=
  (viewOf a).change (x.handler (viewOf a)).1

/-! ## Reading a changed state -/

variable (s : State) (o x : OsThread) (m : Managing) (k : Kind) (d : Disposition) (r : Nat)
  (a : Activation) (doing : Doing) (c : Context) (e : Ending)

@[simp] theorem lock_moveTo : (s.moveTo o m).lock = s.lock := rfl
@[simp] theorem inFlight_moveTo : (s.moveTo o m).inFlight = s.inFlight := rfl
@[simp] theorem activations_moveTo : (s.moveTo o m).activations = s.activations := rfl

@[simp] theorem get_moveTo :
    (s.moveTo o m).managers.get x = if x = o then m else s.managers.get x :=
  Row.get_set ..

@[simp] theorem length_record :
    (s.record r k d).registrations.length = s.registrations.length :=
  List.length_modify ..

@[simp] theorem inFlight_goOn : (s.goOn o a doing).inFlight = s.inFlight := rfl

@[simp] theorem get_goOn :
    (s.goOn o a doing).activations.get x =
      if x = o then { a with doing := doing } :: (s.activations.get o).drop 1
      else s.activations.get x :=
  Row.get_modify ..

@[simp] theorem inFlight_conclude : (s.conclude o a c e).inFlight = s.inFlight := rfl

@[simp] theorem get_conclude :
    (s.conclude o a c e).activations.get x =
      if x = o then (s.activations.get o).drop 1 else s.activations.get x :=
  Row.get_modify ..

end State

open State

/-! ## The kinds of steps -/

/-- An OS thread goes on with its job without changing anything that is shared. -/
inductive Moves (s : State) (o : OsThread) : Label → Managing → Prop
  | asks {j answer} : s.managers.get o = .out answer → Moves s o (.ask o j) (.locking j)
  | looks {j} : s.managers.get o = .checking j → Moves s o (.manage o) (s.decide j)
  | refused {r k n} : s.managers.get o = .replacing r k →
      Moves s o (.refuse o n) (.withdrawing r (.failed (.exhausted ⟨.signalHandler, n⟩)))
  | skips {r k answer} : s.managers.get o = .restoring r k answer → s.recorded? r k = none →
      Moves s o (.manage o) (restored r k answer)
  | unrestored {r k answer was n} : s.managers.get o = .restoring r k answer →
      s.recorded? r k = some was → Moves s o (.refuse o n) (restored r k answer)
  | drains {r answer} : s.managers.get o = .draining r answer → s.inFlight = 0 →
      Moves s o (.manage o) (.freeing r answer)

/-- What an OS thread does next once it has recorded the action of a signal. -/
def recorded (r : Nat) (k : Kind) : Managing :=
  match k.next? with
  | some k' => .replacing r k'
  | none => .unlocking .done

/-- An OS thread goes on with its job and changes something that is shared. -/
inductive Alters (s : State) (o : OsThread) : State → Managing → Prop
  | locks {j} : s.managers.get o = .locking j → s.lock.holder = none →
      Alters s o { s with lock := ⟨some o⟩ } (.checking j)
  | publishes {x} : s.managers.get o = .publishing x →
      Alters s o
        { s with
          registrations := s.registrations ++ [x]
          active := some s.registrations.length }
        (.replacing s.registrations.length .segv)
  | replaces {r k} : s.managers.get o = .replacing r k →
      Alters s o (s.setAction k .ours) (.recording r k (s.actions k))
  | records {r k was} : s.managers.get o = .recording r k was →
      Alters s o (s.record r k was) (recorded r k)
  | withdraws {r answer} : s.managers.get o = .withdrawing r answer →
      Alters s o { s with active := none } (.restoring r .segv answer)
  | restores {r k answer was} : s.managers.get o = .restoring r k answer →
      s.recorded? r k = some was → Alters s o (s.setAction k was) (restored r k answer)
  | frees {r answer} : s.managers.get o = .freeing r answer →
      Alters s o { s with freed := r :: s.freed } (.unlocking answer)
  | unlocks {answer} : s.managers.get o = .unlocking answer → s.lock.holder = some o →
      Alters s o { s with lock := .free } (.out (some answer))

/-- An activation goes on, which may change something that is shared. -/
inductive Goes (s : State) (o : OsThread) (a : Activation) : State → Doing → Prop
  | enters : a.doing = .entering → Goes s o a { s with inFlight := s.inFlight + 1 } .loading
  | finds {r} : a.doing = .loading → s.active = some r → Goes s o a s (.handling r)
  | misses : a.doing = .loading → s.active = none → Goes s o a s .dismissing
  | resumes {r x} : a.doing = .handling r → s.registrations[r]? = some x →
      (x.handler (viewOf a)).2 = .resume → Goes s o a (s.called o a x) (.resuming r (viewAfter a x))
  | reports {r x} : a.doing = .handling r → s.registrations[r]? = some x →
      (x.handler (viewOf a)).2 = .decline → x.target.isSome = true →
      Goes s o a (s.called o a x) (.dumping r (viewAfter a x))
  | declines {r x} : a.doing = .handling r → s.registrations[r]? = some x →
      (x.handler (viewOf a)).2 = .decline → x.target = none →
      Goes s o a (s.called o a x) (.consulting r)
  | dumps {r v x t result disk} : a.doing = .dumping r v → s.registrations[r]? = some x →
      x.target = some t → Snapshot.write t s.disk s.time v o s.memory = (result, disk) →
      result ≠ .broken → Goes s o a { s with disk := disk } (.consulting r)
  | consults {r} : a.doing = .consulting r → Goes s o a s (.leaving r (s.recorded? r a.kind))
  | leaves {r was} : a.doing = .leaving r was →
      Goes s o a { s with inFlight := s.inFlight - 1 } (.passing was)
  | recurs {was} : a.doing = .passing was → was.getD .default = .ours → Goes s o a s .entering

/-- An activation ends, which may change something that is shared. -/
inductive Ends (s : State) (a : Activation) : State → Context → Ending → Prop
  | dismissed : a.doing = .dismissing →
      Ends s a { s with inFlight := s.inFlight - 1 } a.saved .dismissed
  | resumed {r v} : a.doing = .resuming r v →
      Ends s a { s with inFlight := s.inFlight - 1 } (v.restore a.saved) .resumed
  | defaults {was} : a.doing = .passing was → was.getD .default = .default →
      Ends s a (s.setAction a.kind .default) a.saved (.passed was)
  | chains {was} : a.doing = .passing was →
      was.getD .default = .plain ∨ was.getD .default = .detailed → Ends s a s a.saved (.passed was)

/-- The process ends. -/
inductive Stops (s : State) : Label → Disk → Signal → Prop
  | breaks {o a l r v x t disk} : s.activations.get o = a :: l → a.doing = .dumping r v →
      s.registrations[r]? = some x → x.target = some t →
      Snapshot.write t s.disk s.time v o s.memory = (.broken, disk) →
      Stops s (.handle o) disk .abort
  | ignores {o a l was} : s.activations.get o = a :: l → a.doing = .passing was →
      was.getD .default = .ignore → Stops s (.handle o) s.disk .abort
  | nests {o k address saved} : (∃ b ∈ s.activations.get o, b.kind = k) →
      Stops s (.fault o k address saved) s.disk k.signal
  | kills {o k address saved} : s.actions k = .default ∨ s.actions k = .ignore →
      Stops s (.fault o k address saved) s.disk k.signal

/-- The rule that a step breaks. -/
inductive Breaks (s : State) (o : OsThread) : Violation → Prop
  | relocks {j} : s.managers.get o = .locking j → s.lock.holder = some o →
      Breaks s o (.unexpected "pthread_mutex_lock" Mutex.deadlockCode)
  | unlocks {answer} : s.managers.get o = .unlocking answer → s.lock.holder ≠ some o →
      Breaks s o .lockNotHeld

inductive Transition (s : State) : Label → State → Prop
  | moves {o l m} : Moves s o l m → Transition s l (s.moveTo o m)
  | alters {o t m} : Alters s o t m → Transition s (.manage o) (t.moveTo o m)
  | goes {o a l t d} : s.activations.get o = a :: l → Goes s o a t d →
      Transition s (.handle o) (t.goOn o a d)
  | ends {o a l t c e} : s.activations.get o = a :: l → Ends s a t c e →
      Transition s (.handle o) (t.conclude o a c e)
  | takes {o k address saved} : (∀ b ∈ s.activations.get o, b.kind ≠ k) → s.actions k = .ours →
      Transition s (.fault o k address saved)
        { s with activations := s.activations.modify o (⟨k, address, saved, .entering⟩ :: ·) }
  | avoids {o k address saved d} : (∀ b ∈ s.activations.get o, b.kind ≠ k) → s.actions k = d →
      d = .plain ∨ d = .detailed →
      Transition s (.fault o k address saved)
        { s with outcomes := ⟨o, k, address, saved, saved, .direct d⟩ :: s.outcomes }
  | stops {l disk sig} : Stops s l disk sig →
      Transition s l { s with disk := disk, ended := some sig }
  | violates {o v} : Breaks s o v → Transition s (.manage o) { s with violation := some (o, v) }

/-! ## Every step is of one of these kinds -/

variable {s s' : State} {l : Label} {o : OsThread}

theorem ownedBy?_active {owner : UInt64} {r : Nat} (h : s.ownedBy? owner = some r) :
    s.active = some r := by
  rw [ownedBy?, Option.filter_eq_some_iff] at h
  exact h.1

/-- Having looked at the published registration, an OS thread publishes one if there is none,
withdraws it, or leaves it alone. -/
theorem decide_cases (s : State) (j : Job) :
    (∃ x, s.active = none ∧ s.decide j = .publishing x) ∨
      (∃ r answer, s.active = some r ∧ s.decide j = .withdrawing r answer) ∨
      ∃ answer, s.decide j = .unlocking answer := by
  cases j with
  | install owner handler dir maxFrames =>
    simp only [State.decide]
    split
    · exact .inr (.inr ⟨_, rfl⟩)
    · rename_i hi
      split
      · exact .inl ⟨_, by simpa [isInstalled] using hi, rfl⟩
      · exact .inr (.inr ⟨_, rfl⟩)
  | uninstall owner | dispose owner =>
    simp only [State.decide]
    split
    · rename_i r hr
      exact .inr (.inl ⟨r, _, ownedBy?_active hr, rfl⟩)
    · exact .inr (.inr ⟨_, rfl⟩)
  | owns owner => exact .inr (.inr ⟨_, rfl⟩)

/-- What is published is what an install has asked for. -/
theorem decide_publishing {j : Job} {x : Registration} (h : s.decide j = .publishing x) :
    ∃ dir maxFrames, j = .install x.owner x.handler dir maxFrames ∧
      checkTarget dir maxFrames = .ok x.target := by
  cases j with
  | install owner handler dir maxFrames =>
    simp only [State.decide] at h
    split at h
    · cases h
    · split at h <;> cases h
      rename_i ht
      exact ⟨dir, maxFrames, rfl, ht⟩
  | uninstall owner | dispose owner =>
    simp only [State.decide] at h
    split at h <;> cases h
  | owns owner => cases h

theorem manage_transition (h : s.manage o = some s') : Transition s (.manage o) s' := by
  cases hp : s.managers.get o <;>
    simp only [manage, hp, reduceCtorEq, Option.some.injEq] at h
  case locking j =>
    split at h
    · rename_i lock hl
      obtain ⟨hf, rfl⟩ := (Mutex.take_eq_taken_iff ..).mp hl
      cases h
      exact .alters (.locks hp hf)
    · cases h
    · rename_i hl
      cases h
      exact .violates (.relocks hp ((Mutex.take_eq_deadlock_iff ..).mp hl))
  case checking j => exact h ▸ .moves (.looks hp)
  case publishing x => exact h ▸ .alters (.publishes hp)
  case replacing r k => exact h ▸ .alters (.replaces hp)
  case recording r k was => exact h ▸ .alters (.records hp)
  case withdrawing r answer => exact h ▸ .alters (.withdraws hp)
  case restoring r k answer =>
    subst h
    cases hr : s.recorded? r k with
    | none => exact .moves (.skips hp hr)
    | some was => exact .alters (.restores hp hr)
  case draining r answer =>
    split at h <;> rename_i hz <;> cases h
    exact .moves (.drains hp hz)
  case freeing r answer => exact h ▸ .alters (.frees hp)
  case unlocking answer =>
    split at h
    · rename_i lock hl
      obtain ⟨hh, rfl⟩ := (Mutex.release?_eq_some_iff ..).mp hl
      cases h
      exact .alters (.unlocks hp hh)
    · rename_i hl
      cases h
      exact .violates (.unlocks hp fun hh => by simp [Mutex.release?, hh] at hl)

theorem refuse_transition {n : Int} (h : s.refuse o n = some s') :
    Transition s (.refuse o n) s' := by
  unfold State.refuse at h
  split at h
  · rename_i r k hp
    cases h
    exact .moves (.refused hp)
  · rename_i r k answer hp
    split at h <;> rename_i hr <;> cases h
    obtain ⟨was, hr⟩ := Option.isSome_iff_exists.mp hr
    exact .moves (.unrestored hp hr)
  · cases h

theorem runHandler_transition {a : Activation} {l : List Activation} {r : Nat} {x : Registration}
    (ha : s.activations.get o = a :: l) (hd : a.doing = .handling r)
    (hx : s.registrations[r]? = some x) : Transition s (.handle o) (s.runHandler o a r x) := by
  simp only [runHandler]
  split
  · rename_i hr
    exact .goes ha (.resumes hd hx hr)
  · rename_i hr
    split
    · rename_i ht
      exact .goes ha (.reports hd hx hr ht)
    · rename_i ht
      exact .goes ha (.declines hd hx hr (by simpa using ht))

theorem dump_transition {a : Activation} {l : List Activation} {r : Nat} {v : View}
    {x : Registration} {t : Snapshot.Target} (ha : s.activations.get o = a :: l)
    (hd : a.doing = .dumping r v) (hx : s.registrations[r]? = some x) (ht : x.target = some t) :
    Transition s (.handle o) (s.dump o a r v t) := by
  unfold dump
  split
  · rename_i disk hw
    exact .stops (.breaks ha hd hx ht hw)
  · rename_i result disk hb hw
    exact .goes ha (.dumps hd hx ht hw hb)

theorem passOn_transition {a : Activation} {l : List Activation} {was : Option Disposition}
    (ha : s.activations.get o = a :: l) (hd : a.doing = .passing was) :
    Transition s (.handle o) (s.passOn o a was) := by
  unfold passOn
  split
  · rename_i hw
    exact .ends ha (.defaults hd hw)
  · rename_i hw
    exact .stops (.ignores ha hd hw)
  · rename_i hw
    exact .ends ha (.chains hd (.inl hw))
  · rename_i hw
    exact .ends ha (.chains hd (.inr hw))
  · rename_i hw
    exact .goes ha (.recurs hd hw)

theorem handle_transition (h : s.handle o = some s') : Transition s (.handle o) s' := by
  cases ha : s.activations.get o with
  | nil => simp [State.handle, ha] at h
  | cons a l =>
    simp only [State.handle, ha] at h
    cases hd : a.doing <;> simp only [hd, Option.some.injEq, Option.map_eq_some_iff] at h
    case entering => exact h ▸ .goes ha (.enters hd)
    case loading =>
      subst h
      cases hr : s.active with
      | some r => exact .goes ha (.finds hd hr)
      | none => exact .goes ha (.misses hd hr)
    case dismissing => exact h ▸ .ends ha (.dismissed hd)
    case handling r =>
      obtain ⟨x, hx, rfl⟩ := h
      exact runHandler_transition ha hd hx
    case resuming r v => exact h ▸ .ends ha (.resumed hd)
    case dumping r v =>
      obtain ⟨t, ht, rfl⟩ := h
      obtain ⟨x, hx, ht⟩ := Option.bind_eq_some_iff.mp ht
      exact dump_transition ha hd hx ht
    case consulting r => exact h ▸ .goes ha (.consults hd)
    case leaving r was => exact h ▸ .goes ha (.leaves hd)
    case passing was => exact h ▸ passOn_transition ha hd

theorem take_transition {k : Kind} {address : UInt64} {saved : Context} :
    Transition s (.fault o k address saved) (s.take o k address saved) := by
  unfold take
  split
  · rename_i hn
    exact .stops (.nests (by simpa using hn))
  · rename_i hn
    have hn : ∀ b ∈ s.activations.get o, b.kind ≠ k := by simpa using hn
    cases hd : s.actions k with
    | ours => exact .takes hn hd
    | plain => exact .avoids hn hd (.inl rfl)
    | detailed => exact .avoids hn hd (.inr rfl)
    | default => exact .stops (.kills (.inl hd))
    | ignore => exact .stops (.kills (.inr hd))

theorem step_transition (h : s.step l = some s') : Transition s l s' := by
  unfold State.step at h
  split at h
  · cases h
  · cases l <;> dsimp only at h
    case ask o j =>
      split at h
      · rename_i answer hp
        cases h
        exact .moves (.asks hp)
      · cases h
    case manage o => exact manage_transition h
    case refuse o n => exact refuse_transition h
    case fault o k address saved => exact Option.some.inj h ▸ take_transition
    case handle o => exact handle_transition h

end VmHost.Fault
