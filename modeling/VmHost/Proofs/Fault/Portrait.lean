import VmHost.Proofs.Fault.Discretion
import VmHost.Proofs.Snapshot.Layout

/-!
# What the snapshot of a declined fault shows

The view of a fault is the handler's to change. What is written, when the handler has declined, is the
view as the handler has left it, and the frames are those of its frame pointer. The machine context is
what a discreet handler leaves, and what the fault is handed on with.

* `Accounted`: the activations of a run come from faults, and a view in a snapshot comes from the
  handler's changes to the machine context.
* `Portrays` compares a snapshot with the one in the run of discreet handlers. `portrayed_of_run` says
  that they have the same name, and the same text exactly if the handler has left the registers alone.
* `portrait_scribbled`: a snapshot that shows a handler's scratch values.
-/
namespace VmHost.Fault

open State

variable {s s' : State} {l : Label} {o : OsThread} {r : Nat} {v w : View} {target : Snapshot.Target}
  {a : Activation} {rest : List Activation} {past : List Moment}

/-! ## Where views come from -/

/-- What the activations of a run have behind them. -/
structure Accounted (past : List Moment) (s : State) : Prop where
  taken : ∀ o, ∀ a ∈ s.activations.get o, ∃ m ∈ past, m.label = .fault o a.kind a.address a.saved
  declined : ∀ o, ∀ a ∈ s.activations.get o, ∀ r v, a.doing = .dumping r v →
    ∃ x, s.registrations[r]? = some x ∧ (x.handler (viewOf a)).2 = .decline ∧ v = viewAfter a x

namespace Accounted

theorem start {actions : Kind → Disposition} {disk : Disk} {time : Snapshot.Time}
    {memory : Memory} : Accounted [] (.start actions disk time memory) where
  taken _ _ ha := absurd ha not_mem_start
  declined _ _ ha := absurd ha not_mem_start

theorem step (h : Accounted past s) (hs : s.step l = some s') :
    Accounted (⟨s, l, s'⟩ :: past) s' where
  taken o b hb := by
    rcases activation_of_step hs hb with hb | ⟨a, rest, t, doing, ha, -, -, -, rfl⟩ | ⟨hl, -⟩
    · obtain ⟨m, hm, hl⟩ := h.taken o b hb
      exact ⟨m, List.mem_cons_of_mem _ hm, hl⟩
    · obtain ⟨m, hm, hl⟩ := h.taken o a (ha ▸ List.mem_cons_self)
      exact ⟨m, List.mem_cons_of_mem _ hm, hl⟩
    · exact ⟨_, List.mem_cons_self, hl⟩
  declined o b hb r v hd := by
    rcases activation_of_step hs hb with hb | ⟨a, rest, t, doing, ha, hg, -, -, rfl⟩ | ⟨-, hn, -⟩
    · obtain ⟨x, hx, hc⟩ := h.declined o b hb r v hd
      obtain ⟨previous, hx⟩ := (step_transition hs).keeps hx
      exact ⟨_, hx, hc⟩
    · cases hg with
      | reports _ hx hc =>
        cases hd
        obtain ⟨previous, hx⟩ := (step_transition hs).keeps hx
        exact ⟨_, hx, hc, rfl⟩
      | _ => cases hd
    · cases hn.symm.trans hd

end Accounted

theorem accounted_of_run {actions : Kind → Disposition} {disk : Disk} {time : Snapshot.Time}
    {memory : Memory} (h : Machine.Run State.step (.start actions disk time memory) past s) :
    Accounted past s := by
  induction h with
  | start => exact .start
  | step l _ hs ih => exact ih.step hs

/-! ## Snapshots compared -/

theorem signal_viewAfter (a : Activation) (x : Registration) :
    (viewAfter a x).signal = (viewOf a).signal ∧ (viewAfter a x).address = (viewOf a).address :=
  ⟨rfl, rfl⟩

/-- Views of one fault are the same if the four registers are. -/
theorem view_eq_iff (h : v.signal = w.signal ∧ v.address = w.address) :
    v = w ↔ v.registers = w.registers ∧ v.thread = w.thread := by
  constructor
  · rintro rfl
    exact ⟨rfl, rfl⟩
  · rintro ⟨hr, ht⟩
    obtain ⟨ip, frame, stack, thread, signal, address⟩ := v
    obtain ⟨rfl, rfl⟩ := h
    cases hr
    cases ht
    rfl

/-- The text that a snapshot of a view gets. -/
def shown (s : State) (o : OsThread) (v : View) (target : Snapshot.Target) : Bytes :=
  Snapshot.content v o (Snapshot.walk target v s.memory).returns

theorem shown_eq_iff (h : v.signal = w.signal ∧ v.address = w.address) :
    shown s o v target = shown s o w target ↔ v.registers = w.registers ∧ v.thread = w.thread := by
  constructor
  · exact Snapshot.registers_of_content h.1 h.2
  · intro hr
    rw [(view_eq_iff h).mpr hr]

/-- The snapshot of a declined fault, against the one that a discreet handler would leave. -/
structure Portrays (first : State) (past : List Moment) (s : State) (o : OsThread) (a : Activation)
    (r : Nat) (v : View) (target : Snapshot.Target) : Prop where
  /-- The fault was taken with this machine context, -/
  taken : ∃ m ∈ past, m.label = .fault o a.kind a.address a.saved
  /-- and the handler declined it, after it had written into the view; a discreet one would have left
  the machine context. -/
  declined : ∃ x, s.registrations[r]? = some x ∧ x.target = some target ∧
    (x.handler (viewOf a)).2 = .decline ∧ v = viewAfter a x ∧ viewAfter a x.discreet = viewOf a
  /-- The snapshot is one of what the handler has left. -/
  left : ∃ s', s.step (.handle o) = some s' ∧ s'.disk = (written s o v target).2
  /-- A run of discreet handlers goes the same way up to here, unless it has broken off, and comes to a
  snapshot of the machine context, -/
  alone : Unbroken past → ∃ past' d s', Machine.Run State.step first past' (s.mirrored d) ∧
    past'.map (·.label) = past.map (·.label.discreet) ∧ d.Alike s.disk ∧
    (s.mirrored d).step (.handle o) = some s' ∧
    s'.disk = (written (s.mirrored d) o (viewOf a) target).2
  /-- of the same name. The two texts are the same exactly if the handler has left the registers
  alone. -/
  texts : ∀ d p e, d.Alike s.disk → target.createFile s.disk s.time.millis = some (p, e) →
    Disk.entry? (written s o v target).2 p = some (.file (shown s o v target)) ∧
    Disk.entry? (written (s.mirrored d) o (viewOf a) target).2 p =
      some (.file (shown s o (viewOf a) target)) ∧
    (shown s o v target = shown s o (viewOf a) target ↔
      v.registers = a.saved.registers ∧ v.thread = a.saved.thread)

/-- **What a snapshot shows.** Whatever faults are taken, and whatever handlers write, the snapshot of
a declined fault is one of the registers as the handler has left them. It is the one of the machine
context if and only if these are the registers of the machine context. -/
theorem portrayed_of_run {actions : Kind → Disposition} {disk : Disk} {time : Snapshot.Time}
    {memory : Memory} (h : Machine.Run State.step (.start actions disk time memory) past s)
    (hr : s.IsRunning) (ha : s.activations.get o = a :: rest) (hd : a.doing = .dumping r v) :
    ∃ target, Portrays (.start actions disk time memory) past s o a r v target := by
  have hm : a ∈ s.activations.get o := ha ▸ List.mem_cons_self
  obtain ⟨x, hx, hc, rfl⟩ := (accounted_of_run h).declined o a hm r v hd
  have hf := (followed_of_run h).relies o a hm
  rw [Activation.Relies, hd] at hf
  obtain ⟨y, target, hy, ht⟩ := hf
  obtain rfl : x = y := Option.some.inj (hx.symm.trans hy)
  have hp : Reports s o a r (viewAfter a x) target := ⟨⟨rest, ha⟩, hd, x, hx, ht⟩
  refine ⟨target, ?_⟩
  exact {
    taken := (accounted_of_run h).taken o a hm
    declined := ⟨x, hx, ht, hc, rfl, viewAfter_discreet hc⟩
    left := ⟨_, hp.step hr, disk_dump ..⟩
    alone := fun hb => by
      obtain ⟨past', d, hs, hl, hd⟩ := mirrored_of_run h hr.1 hb
      exact ⟨past', d, _, hs, hl, hd, (hp.mirrored d).step hr, disk_dump ..⟩
    texts := fun d p e hd hf => by
      obtain ⟨e', hf', -⟩ := Snapshot.Target.createFile_alike hd.symm hf
      exact ⟨Snapshot.entry?_write hf .., Snapshot.entry?_write hf' ..,
        shown_eq_iff (signal_viewAfter a x)⟩ }

/-! ### A handler that scribbles -/

/-- A handler that writes into all four registers and declines. -/
def scribbler : Handler := fun _ => (⟨some 7, some 0, some 0, some 55⟩, .decline)

/-- The view as that handler leaves it. -/
def scribbled : View := ⟨7, 0, 0, 55, 11, 16⟩

/-- The registers of a thread with frames on its stack. -/
def onStack : Context :=
  (Context.zero.withRegisters ⟨0x401000, 0x1000000000, 0x1000000000⟩).withThread 9

/-- There are a stack and a directory for snapshots, and both signals call somebody's handler. -/
def furnished : State :=
  .start (fun _ => .detailed) Snapshot.roomyDisk ⟨5, 0⟩ Snapshot.soundMemory

/-- Thread 0 installs a handler and takes a fault, of which it is about to write a snapshot. -/
def toSnapshot (h : Handler) : List Label :=
  .ask 0 (.install 1 h (some [0x2F, 0x64]) 3) :: List.replicate 8 (.manage 0) ++
    .fault 0 .segv 16 onStack :: List.replicate 3 (.handle 0)

theorem portrayed_scribbled : ∃ past s a rest target, Machine.Run State.step furnished past s ∧
    s.IsRunning ∧ s.activations.get 0 = a :: rest ∧ a.doing = .dumping 0 scribbled ∧
    Portrays furnished past s 0 a 0 scribbled target := by
  obtain ⟨past, s, h, hp⟩ := Machine.exists_run State.step furnished
    (fun _ s => s.ended = none ∧ s.violation = none ∧
      (s.activations.get 0).head?.map (·.doing) = some (.dumping 0 scribbled))
    (toSnapshot scribbler) (by decide +kernel)
  simp only [decide_eq_true_eq] at hp
  obtain ⟨he, hv, hd⟩ := hp
  obtain ⟨a, ha, hd⟩ := Option.map_eq_some_iff.mp hd
  obtain ⟨rest, ha⟩ := List.head?_eq_some_iff.mp ha
  obtain ⟨target, ht⟩ := portrayed_of_run h ⟨he, hv⟩ ha hd
  exact ⟨past, s, a, rest, target, h, ⟨he, hv⟩, ha, hd, ht⟩

/-- The snapshot of that fault, when this handler has declined it. -/
def snapshotOf (h : Handler) : Option Entry :=
  (Machine.replay State.step (toSnapshot h ++ [.handle 0]) [] furnished).bind fun x =>
    Disk.entry? x.2.disk [[0x64], Snapshot.fileName 5000 0]

/-- The snapshot shows the registers that the handler has written and no frames, where it would show
those of the fault, and the frames of its stack, if the handler had left them alone. -/
theorem portrait_scribbled :
    snapshotOf scribbler = some (.file (Snapshot.content scribbled 0 [])) ∧
    snapshotOf (Handler.discreet scribbler) = some (.file
      (Snapshot.content (.ofContext onStack 11 16) 0 [0x1111, 0x2222])) ∧
    snapshotOf scribbler ≠ snapshotOf (Handler.discreet scribbler) := by
  decide +kernel

end VmHost.Fault
