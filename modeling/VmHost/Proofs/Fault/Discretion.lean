import VmHost.Proofs.Fault.Escalation
import VmHost.Proofs.Snapshot.Outline

/-!
# Handlers that leave declined faults alone

A handler may write into the registers of a fault and decline it then. A discreet one declines the same
faults and leaves their registers alone. `State.mirrored` is a state as it would be if every handler
were discreet, on a disk of its own: the registrations, the jobs, the snapshots that are about to be
written, and the calls that have been made.

* `step_mirrored`: whatever happens, but for a snapshot, happens in the mirrored state too, and leads to
  the mirrored one of the next state.
* `mirrored_of_run`: so a run of any handlers goes the same way as one of discreet handlers, as long as
  the latter's snapshots do not break off. Only the content of snapshots may be different.
-/
namespace VmHost.Fault

/-! ## Discreet handlers -/

/-- No register gets a new value. -/
def Changes.nothing : Changes := ⟨none, none, none, none⟩

/-- The handler, but it leaves the registers of faults that it declines alone. -/
def Handler.discreet (h : Handler) : Handler := fun v =>
  match h v with
  | (changes, .resume) => (changes, .resume)
  | (_, .decline) => (.nothing, .decline)

def Registration.discreet (x : Registration) : Registration :=
  { x with handler := Handler.discreet x.handler }

def Job.discreet : Job → Job
  | .install owner handler dir maxFrames => .install owner (Handler.discreet handler) dir maxFrames
  | .uninstall owner => .uninstall owner
  | .dispose owner => .dispose owner
  | .owns owner => .owns owner

/-- What is about to be done for the job with the discreet handler. -/
def Managing.discreet : Managing → Managing
  | .locking j => .locking j.discreet
  | .checking j => .checking j.discreet
  | .publishing x => .publishing x.discreet
  | m => m

/-- What an activation with this view is about to do if its handler was discreet. -/
def Doing.discreet (v : View) : Doing → Doing
  | .dumping r _ => .dumping r v
  | doing => doing

/-- The activation as a discreet handler leaves it. -/
def Activation.discreet (a : Activation) : Activation :=
  { a with doing := a.doing.discreet (State.viewOf a) }

def HandlerCall.discreet (c : HandlerCall) : HandlerCall :=
  match c.action with
  | .resume => c
  | .decline => { c with changes := .nothing }

def Label.discreet : Label → Label
  | .ask o j => .ask o j.discreet
  | l => l

namespace State

/-- The state as it would be if every handler were discreet, on this disk. -/
def mirrored (s : State) (d : Disk) : State :=
  { s with
    registrations := s.registrations.map Registration.discreet
    managers := s.managers.map Managing.discreet
    activations := s.activations.map (List.map Activation.discreet)
    disk := d
    handled := s.handled.map HandlerCall.discreet }

end State

open State

variable {s s' : State} {l : Label} {o : OsThread} {r : Nat} {v : View} {t : Snapshot.Target}
  {a : Activation} {x : Registration} {d : Disk} {past : List Moment}

theorem discreet_of_resume {h : Handler} {v : View} (hr : (h v).2 = .resume) :
    Handler.discreet h v = h v := by
  unfold Handler.discreet
  split
  · rename_i hv
    exact hv.symm
  · rename_i hv
    rw [hv] at hr
    cases hr

theorem discreet_of_decline {h : Handler} {v : View} (hd : (h v).2 = .decline) :
    Handler.discreet h v = (.nothing, .decline) := by
  unfold Handler.discreet
  split
  · rename_i hv
    rw [hv] at hd
    cases hd
  · rfl

/-- Having left the registers alone, a handler leaves the view of the fault. -/
theorem viewAfter_discreet (hd : (x.handler (viewOf a)).2 = .decline) :
    viewAfter a x.discreet = viewOf a := by
  have hx : x.discreet.handler (viewOf a) = (.nothing, .decline) := discreet_of_decline hd
  rw [viewAfter, hx]
  rfl

/-! ## Reading the mirrored state -/

@[simp] theorem lock_mirrored (s : State) (d : Disk) : (s.mirrored d).lock = s.lock := rfl
@[simp] theorem active_mirrored (s : State) (d : Disk) : (s.mirrored d).active = s.active := rfl
@[simp] theorem isInstalled_mirrored (s : State) (d : Disk) :
    (s.mirrored d).isInstalled = s.isInstalled := rfl
@[simp] theorem inFlight_mirrored (s : State) (d : Disk) : (s.mirrored d).inFlight = s.inFlight := rfl
@[simp] theorem actions_mirrored (s : State) (d : Disk) : (s.mirrored d).actions = s.actions := rfl
@[simp] theorem ended_mirrored (s : State) (d : Disk) : (s.mirrored d).ended = s.ended := rfl
@[simp] theorem violation_mirrored (s : State) (d : Disk) :
    (s.mirrored d).violation = s.violation := rfl

theorem get_managers_mirrored (s : State) (d : Disk) (o : OsThread) :
    (s.mirrored d).managers.get o = (s.managers.get o).discreet :=
  Row.get_map s.managers Managing.discreet rfl o

theorem get_activations_mirrored (s : State) (d : Disk) (o : OsThread) :
    (s.mirrored d).activations.get o = (s.activations.get o).map Activation.discreet :=
  Row.get_map s.activations (List.map Activation.discreet) rfl o

theorem registrations_mirrored (s : State) (d : Disk) (r : Nat) :
    (s.mirrored d).registrations[r]? = (s.registrations[r]?).map Registration.discreet :=
  List.getElem?_map

theorem recorded?_mirrored (s : State) (d : Disk) (r : Nat) (k : Kind) :
    (s.mirrored d).recorded? r k = s.recorded? r k := by
  rw [recorded?, registrations_mirrored, Option.bind_map]
  rfl

theorem ownedBy?_mirrored (s : State) (d : Disk) (owner : UInt64) :
    (s.mirrored d).ownedBy? owner = s.ownedBy? owner := by
  simp only [ownedBy?, registrations_mirrored, Option.map_map]
  rfl

/-! ## The steps of jobs -/

theorem mirrored_moveTo (s : State) (d : Disk) (o : OsThread) (m : Managing) :
    (s.moveTo o m).mirrored d = (s.mirrored d).moveTo o m.discreet := by
  simp only [moveTo, mirrored, Row.map_set _ Managing.discreet rfl]

theorem mirrored_record (s : State) (d : Disk) (r : Nat) (k : Kind) (was : Disposition) :
    (s.record r k was).mirrored d = (s.mirrored d).record r k was := by
  have hm : (s.record r k was).registrations.map Registration.discreet =
      ((s.mirrored d).record r k was).registrations := by
    refine List.ext_getElem? fun q => ?_
    simp only [record, mirrored, List.getElem?_map, List.getElem?_modify]
    cases s.registrations[q]? with
    | none => rfl
    | some x =>
      simp only [Option.map_some]
      split <;> rfl
  rw [mirrored, hm]
  rfl

theorem decide_mirrored (s : State) (d : Disk) (j : Job) :
    (s.mirrored d).decide j.discreet = (s.decide j).discreet := by
  cases j with
  | install owner handler dir maxFrames =>
    simp only [State.decide, Job.discreet]
    rw [isInstalled_mirrored]
    split
    · rfl
    · split <;> rfl
  | uninstall owner | dispose owner =>
    simp only [State.decide, Job.discreet, ownedBy?_mirrored]
    split <;> rfl
  | owns owner =>
    simp only [State.decide, Job.discreet, ownedBy?_mirrored]
    rfl

theorem manage_mirrored (s : State) (d : Disk) (o : OsThread) :
    (s.mirrored d).manage o = (s.manage o).map (·.mirrored d) := by
  simp only [manage, get_managers_mirrored]
  cases s.managers.get o with
  | out answer => rfl
  | locking j =>
    simp only [Managing.discreet, lock_mirrored]
    split
    · rw [Option.map_some, mirrored_moveTo]
      rfl
    · rfl
    · rfl
  | checking j =>
    rw [Option.map_some, mirrored_moveTo, ← decide_mirrored]
    rfl
  | publishing x =>
    rw [Option.map_some, mirrored_moveTo]
    simp [Managing.discreet, mirrored]
  | replacing r k =>
    rw [Option.map_some, mirrored_moveTo]
    rfl
  | recording r k was =>
    rw [Option.map_some, mirrored_moveTo, mirrored_record]
    cases k <;> rfl
  | withdrawing r answer =>
    rw [Option.map_some, mirrored_moveTo]
    rfl
  | restoring r k answer =>
    simp only [Managing.discreet, recorded?_mirrored]
    rw [Option.map_some, mirrored_moveTo]
    cases k <;> cases s.recorded? r _ <;> rfl
  | draining r answer =>
    simp only [Managing.discreet]
    rw [inFlight_mirrored]
    split
    · rw [Option.map_some, mirrored_moveTo]
      rfl
    · rfl
  | freeing r answer =>
    rw [Option.map_some, mirrored_moveTo]
    rfl
  | unlocking answer =>
    simp only [Managing.discreet, lock_mirrored]
    split
    · rw [Option.map_some, mirrored_moveTo]
      rfl
    · rfl

theorem refuse_mirrored (s : State) (d : Disk) (o : OsThread) (errno : Int) :
    (s.mirrored d).refuse o errno = (s.refuse o errno).map (·.mirrored d) := by
  simp only [State.refuse, get_managers_mirrored]
  cases s.managers.get o with
  | replacing r k =>
    rw [Option.map_some, mirrored_moveTo]
    rfl
  | restoring r k answer =>
    simp only [Managing.discreet, recorded?_mirrored]
    split
    · rw [Option.map_some, mirrored_moveTo]
      cases k <;> rfl
    · rfl
  | _ => rfl

/-! ## The steps of activations -/

theorem mirrored_goOn (s : State) (d : Disk) (o : OsThread) (a : Activation) (doing : Doing) :
    (s.goOn o a doing).mirrored d =
      (s.mirrored d).goOn o a.discreet (doing.discreet (viewOf a)) := by
  have hm : (s.activations.modify o fun l => { a with doing := doing } :: l.drop 1).map
        (List.map Activation.discreet) =
      (s.mirrored d).activations.modify o fun l =>
        { a.discreet with doing := doing.discreet (viewOf a) } :: l.drop 1 :=
    Row.map_modify s.activations (List.map Activation.discreet) rfl o
      (congrArg _ (List.map_drop ..))
  simp only [mirrored, goOn, hm]

theorem mirrored_conclude (s : State) (d : Disk) (o : OsThread) (a : Activation) (c : Context)
    (e : Ending) : (s.conclude o a c e).mirrored d = (s.mirrored d).conclude o a.discreet c e := by
  have hm : (s.conclude o a c e).activations.map (List.map Activation.discreet) =
      ((s.mirrored d).conclude o a.discreet c e).activations :=
    Row.map_modify _ _ rfl _ List.map_drop
  rw [mirrored, hm]
  rfl

theorem mirrored_runHandler (s : State) (d : Disk) (o : OsThread) (a : Activation) (r : Nat)
    (x : Registration) : (s.runHandler o a r x).mirrored d =
      (s.mirrored d).runHandler o a.discreet r x.discreet := by
  have hv : viewOf a.discreet = viewOf a := rfl
  have ht : x.discreet.target = x.target := rfl
  rcases hx : x.handler (viewOf a) with ⟨changes, _ | _⟩
  · have hd : x.discreet.handler (viewOf a) = (changes, .resume) :=
      (discreet_of_resume (by rw [hx])).trans hx
    simp only [runHandler, hv, hx, hd]
    exact mirrored_goOn ..
  · have hd : x.discreet.handler (viewOf a) = (.nothing, .decline) :=
      discreet_of_decline (by rw [hx])
    simp only [runHandler, hv, hx, hd, ht]
    rw [mirrored_goOn]
    split <;> rfl

theorem mirrored_passOn (s : State) (d : Disk) (o : OsThread) (a : Activation)
    (was : Option Disposition) :
    (s.passOn o a was).mirrored d = (s.mirrored d).passOn o a.discreet was := by
  unfold passOn
  split
  · exact mirrored_conclude ..
  · rfl
  · exact mirrored_conclude ..
  · exact mirrored_conclude ..
  · exact mirrored_goOn ..

theorem mirrored_take (s : State) (d : Disk) (o : OsThread) (k : Kind) (address : UInt64)
    (saved : Context) :
    (s.take o k address saved).mirrored d = (s.mirrored d).take o k address saved := by
  have ha : ((s.mirrored d).activations.get o).any (fun b => b.kind = k) =
      (s.activations.get o).any fun b => b.kind = k := by
    rw [get_activations_mirrored, List.any_map]
    rfl
  have hm : (s.activations.modify o (⟨k, address, saved, .entering⟩ :: ·)).map
        (List.map Activation.discreet) =
      (s.mirrored d).activations.modify o (⟨k, address, saved, .entering⟩ :: ·) :=
    Row.map_modify s.activations (List.map Activation.discreet) rfl o rfl
  simp only [take, ha, actions_mirrored, ← hm]
  split
  · rfl
  · split <;> rfl

theorem handle_mirrored (d : Disk)
    (hn : ∀ a rest r v, s.activations.get o = a :: rest → a.doing ≠ .dumping r v) :
    (s.mirrored d).handle o = (s.handle o).map (·.mirrored d) := by
  simp only [State.handle, get_activations_mirrored]
  cases ha : s.activations.get o with
  | nil => rfl
  | cons a rest =>
    have hd : a.discreet.doing = a.doing.discreet (viewOf a) := rfl
    simp only [List.map_cons, hd]
    cases he : a.doing with
    | entering => exact congrArg some (mirrored_goOn { s with inFlight := s.inFlight + 1 } d o a .loading).symm
    | loading =>
      refine congrArg some (.trans ?_ (mirrored_goOn ..).symm)
      rw [active_mirrored]
      cases s.active <;> rfl
    | dismissing =>
      exact congrArg some (mirrored_conclude { s with inFlight := s.inFlight - 1 } ..).symm
    | handling r =>
      simp only [Doing.discreet, registrations_mirrored, Option.map_map]
      exact Option.map_congr fun x _ => (mirrored_runHandler ..).symm
    | resuming r v =>
      exact congrArg some (mirrored_conclude { s with inFlight := s.inFlight - 1 } ..).symm
    | dumping r v => exact absurd he (hn a rest r v ha)
    | consulting r =>
      simp only [Doing.discreet, recorded?_mirrored]
      exact congrArg some (mirrored_goOn s d o a (.leaving r (s.recorded? r a.kind))).symm
    | leaving r was =>
      exact congrArg some (mirrored_goOn { s with inFlight := s.inFlight - 1 } d o a (.passing was)).symm
    | passing was => exact congrArg some (mirrored_passOn ..).symm

/-- What is not a snapshot is the same in the mirrored state. -/
theorem step_mirrored (d : Disk)
    (hn : ∀ o a rest r v, l = .handle o → s.activations.get o = a :: rest → a.doing ≠ .dumping r v) :
    (s.mirrored d).step l.discreet = (s.step l).map (·.mirrored d) := by
  simp only [State.step]
  rw [ended_mirrored, violation_mirrored]
  split
  · rfl
  · cases l with
    | ask o j =>
      simp only [Label.discreet, get_managers_mirrored]
      cases s.managers.get o with
      | out answer => exact congrArg some (mirrored_moveTo s d o (.locking j)).symm
      | _ => rfl
    | manage o => exact manage_mirrored ..
    | refuse o n => exact refuse_mirrored ..
    | fault o k address saved => exact congrArg some (mirrored_take ..).symm
    | handle o => exact handle_mirrored d fun a rest r v => hn o a rest r v rfl

/-! ## Snapshots -/

/-- The innermost activation of an OS thread is about to write a snapshot of this view. -/
structure Reports (s : State) (o : OsThread) (a : Activation) (r : Nat) (v : View)
    (t : Snapshot.Target) : Prop where
  innermost : ∃ rest, s.activations.get o = a :: rest
  doing : a.doing = .dumping r v
  target : ∃ x, s.registrations[r]? = some x ∧ x.target = some t

/-- What is written. -/
def written (s : State) (o : OsThread) (v : View) (t : Snapshot.Target) : Snapshot.Written × Disk :=
  Snapshot.write t s.disk s.time v o s.memory

/-- In the mirrored state the snapshot is one of the machine context. -/
theorem Reports.mirrored (h : Reports s o a r v t) (d : Disk) :
    Reports (s.mirrored d) o a.discreet r (viewOf a) t := by
  obtain ⟨rest, ha⟩ := h.innermost
  obtain ⟨x, hx, ht⟩ := h.target
  refine ⟨⟨rest.map Activation.discreet, ?_⟩, ?_, x.discreet, ?_, ht⟩
  · rw [get_activations_mirrored, ha, List.map_cons]
  · rw [Activation.discreet, h.doing]
    rfl
  · rw [registrations_mirrored, hx, Option.map_some]

theorem running_of_step (h : s.step l = some s') : s.IsRunning := by
  unfold State.step at h
  split at h
  · cases h
  · rename_i hr
    simpa [IsRunning] using hr

theorem Reports.step (h : Reports s o a r v t) (hr : s.IsRunning) :
    s.step (.handle o) = some (s.dump o a r v t) := by
  obtain ⟨rest, ha⟩ := h.innermost
  obtain ⟨x, hx, ht⟩ := h.target
  simp only [step_handle hr, State.handle, ha, h.doing, hx, Option.bind_some, ht, Option.map_some]

/-- Without a snapshot the disk stays as it is. -/
theorem disk_of_step (hs : s.step l = some s')
    (hn : ∀ o a r v t, l = .handle o → ¬ Reports s o a r v t) : s'.disk = s.disk := by
  cases step_transition hs with
  | moves | takes | avoids | violates => rfl
  | alters hm => cases hm <;> rfl
  | goes ha hg =>
    cases hg with
    | dumps hd hx ht => exact absurd ⟨⟨_, ha⟩, hd, _, hx, ht⟩ (hn _ _ _ _ _ rfl)
    | _ => rfl
  | ends ha hg => cases hg <;> rfl
  | stops hst =>
    cases hst with
    | breaks ha hd hx ht => exact absurd ⟨⟨_, ha⟩, hd, _, hx, ht⟩ (hn _ _ _ _ _ rfl)
    | _ => rfl

/-- An activation that goes on to write a snapshot has a directory for it. -/
theorem reports_of_step (hs : s.step (.handle o) = some s') {rest : List Activation}
    (ha : s.activations.get o = a :: rest) (hd : a.doing = .dumping r v) :
    ∃ t, Reports s o a r v t := by
  simp only [step_handle (running_of_step hs), State.handle, ha, hd, Option.map_eq_some_iff] at hs
  obtain ⟨t, ht, -⟩ := hs
  obtain ⟨x, hx, ht⟩ := Option.bind_eq_some_iff.mp ht
  exact ⟨t, ⟨rest, ha⟩, hd, x, hx, ht⟩

theorem disk_dump (s : State) (o : OsThread) (a : Activation) (r : Nat) (v : View)
    (t : Snapshot.Target) : (s.dump o a r v t).disk = (written s o v t).2 := by
  unfold dump written
  split
  · rename_i hw
    rw [hw]
  · rename_i hw
    rw [hw]
    rfl

theorem dump_of_broken (h : (written s o v t).1 = .broken) : (s.dump o a r v t).ended ≠ none := by
  unfold written at h
  unfold dump
  split
  · nofun
  · rename_i hb hw
    rw [hw] at h
    exact absurd h hb

theorem dump_of_unbroken (h : (written s o v t).1 ≠ .broken) :
    s.dump o a r v t = { s with disk := (written s o v t).2 }.goOn o a (.consulting r) := by
  unfold written at h ⊢
  unfold dump
  split
  · rename_i hw
    rw [hw] at h
    exact absurd rfl h
  · rename_i hw
    rw [hw]

/-- No snapshot would break off if it was one of the machine context. -/
def Unbroken (past : List Moment) : Prop :=
  ∀ m ∈ past, ∀ o a r v t, m.label = .handle o → Reports m.before o a r v t →
    (written m.before o (viewOf a) t).1 ≠ .broken

/-- Snapshots that do not break off leave the two states alike. -/
theorem Reports.step_mirrored (h : Reports s o a r v t) (hs : s.step (.handle o) = some s')
    (he : s'.ended = none) (hd : d.Alike s.disk) (hb : (written s o (viewOf a) t).1 ≠ .broken) :
    ∃ d', (s.mirrored d).step (.handle o) = some (s'.mirrored d') ∧ d'.Alike s'.disk := by
  have hr := running_of_step hs
  obtain rfl : s.dump o a r v t = s' := Option.some.inj ((h.step hr).symm.trans hs)
  have hv : (written s o v t).1 ≠ .broken := fun hw => dump_of_broken hw he
  have hm : (written (s.mirrored d) o (viewOf a) t).1 ≠ .broken := fun hw =>
    hb ((Snapshot.fst_write_alike hd t s.time (viewOf a) o s.memory).symm.trans hw)
  refine ⟨(written (s.mirrored d) o (viewOf a) t).2, ?_, ?_⟩
  · rw [(h.mirrored d).step hr, dump_of_unbroken hm, dump_of_unbroken hv, mirrored_goOn]
    rfl
  · rw [disk_dump]
    exact Snapshot.write_alike hd ..

/-! ## Whole runs -/

/-- **Discreet handlers.** What a run comes to, discreet handlers come to as well, as long as their
snapshots do not break off. -/
theorem mirrored_of_run {actions : Kind → Disposition} {disk : Disk} {time : Snapshot.Time}
    {memory : Memory} (h : Machine.Run State.step (.start actions disk time memory) past s)
    (he : s.ended = none) (hb : Unbroken past) :
    ∃ past' d, Machine.Run State.step (.start actions disk time memory) past' (s.mirrored d) ∧
      past'.map (·.label) = past.map (·.label.discreet) ∧ d.Alike s.disk := by
  induction h with
  | start => exact ⟨[], disk, .start, rfl, rfl⟩
  | @step past s s' l h hs ih =>
    -- The process went on before this step, so no earlier snapshot of the run itself has broken off.
    obtain ⟨past', d, hr, hl, hd⟩ := ih (running_of_step hs).1 fun m hm =>
      hb m (List.mem_cons_of_mem _ hm)
    obtain ⟨d', hs', hd'⟩ : ∃ d', (s.mirrored d).step l.discreet = some (s'.mirrored d') ∧
        d'.Alike s'.disk := by
      by_cases hn : ∃ o a r v t, l = .handle o ∧ Reports s o a r v t
      · obtain ⟨o, a, r, v, t, rfl, hp⟩ := hn
        exact hp.step_mirrored hs he hd (hb _ List.mem_cons_self o a r v t rfl hp)
      · have hn : ∀ o a r v t, l = .handle o → ¬ Reports s o a r v t := fun o a r v t hl hp =>
          hn ⟨o, a, r, v, t, hl, hp⟩
        refine ⟨d, ?_, (disk_of_step hs hn).symm ▸ hd⟩
        rw [step_mirrored d fun o a rest r v hl ha hdo => ?_, hs, Option.map_some]
        subst hl
        obtain ⟨t, hp⟩ := reports_of_step hs ha hdo
        exact hn o a r v t rfl hp
    exact ⟨⟨s.mirrored d, l.discreet, s'.mirrored d'⟩ :: past', d', hr.step _ hs', by
      rw [List.map_cons, List.map_cons, hl], hd'⟩

end VmHost.Fault
