import VmHost.Fault.Registry
import VmHost.Proofs.Fault.Call
import VmHost.Proofs.Run

/-!
# One registration, one owner

A `Desk` is a process whose interceptors are used one call at a time: they are created, asked to
install, to uninstall and whether they own the registration, and dropped, by any OS thread and in any
order. Nobody else changes the actions of the two signals.

`Custody` is what can be said after every such history. There is at most the published registration,
and it belongs to an interceptor that has not been dropped. Each call returns, with the answer that is
due, and what fails changes nothing. While nothing is registered, both signals have the actions that
they had in the beginning (`Filed`). `Desk.Run.custody` is the result.

The numbers of interceptors are words. Only after all of them have been given out could the
registration belong to two interceptors at once.
-/
namespace VmHost.Fault

open State

structure Desk where
  registry : Registry
  /-- All interceptors in the order of their creation; a dropped one leaves a gap. -/
  handles : List (Option Interceptor)

/-- What is done with interceptors. They are named by their place. -/
inductive Use
  | create (maxFrames : UInt64)
  | install (o : OsThread) (h : Nat) (handler : Handler) (dir : Option Bytes)
  | uninstall (o : OsThread) (h : Nat)
  | owns (o : OsThread) (h : Nat)
  | drop (o : OsThread) (h : Nat)

namespace Desk

/-- No interceptor has been created, and the signals have these actions. -/
def start (first : Kind → Disposition) (disk : Disk) (time : Snapshot.Time) (memory : Memory) :
    Desk :=
  ⟨.start (.start first disk time memory), []⟩

/-- What the interceptors act on. -/
def faults (d : Desk) : State := d.registry.faults

/-- An interceptor that has not been dropped. -/
def handle? (d : Desk) (h : Nat) : Option Interceptor := d.handles[h]?.join

/-- One use of an interceptor, if it has been created and not been dropped. -/
def step (d : Desk) : Use → Option Desk
  | .create maxFrames =>
    let (i, r) := d.registry.create maxFrames
    some ⟨r, d.handles ++ [some i]⟩
  | .install o h handler dir =>
    (d.handle? h).map fun i => { d with registry := (d.registry.install o i handler dir).2 }
  | .uninstall o h =>
    (d.handle? h).map fun i => { d with registry := (d.registry.uninstall o i).2 }
  | .owns o h => (d.handle? h).map fun i => { d with registry := (d.registry.owns o i).2 }
  | .drop o h => (d.handle? h).map fun i => ⟨(d.registry.dispose o i).2, d.handles.set h none⟩

abbrev Run (d₀ : Desk) (past : List (Machine.Moment Desk Use)) (d : Desk) : Prop :=
  Machine.Run Desk.step d₀ past d

end Desk

namespace State

/-- The published registration belongs to an interceptor. -/
def Belongs (s : State) (i : Interceptor) : Prop := (s.ownedBy? i.number).isSome = true

end State

/-- The registration and both actions are the same in two states. -/
structure Spares (s t : State) : Prop where
  active : t.active = s.active
  registrations : t.registrations = s.registrations
  freed : t.freed = s.freed
  actions : t.actions = s.actions

/-- The actions of the signals are the first ones, or are recorded to be put back. -/
structure Filed (first : Kind → Disposition) (s : State) : Prop where
  free : s.active = none → s.actions = first
  taken : ∀ r, s.active = some r →
    ∃ x, s.registrations[r]? = some x ∧ ∀ k, x.previous k = some (first k)

/-- The published registration belongs to an interceptor that has not been dropped. Interceptors have
their numbers in the order of their creation. -/
structure Numbered (d : Desk) : Prop where
  owner : ∀ r x, d.faults.active = some r → d.faults.registrations[r]? = some x →
    ∃ h i, d.handle? h = some i ∧ i.number = x.owner
  number : ∀ h i, d.handle? h = some i → i.number = UInt64.ofNat (h + 1)
  next : d.registry.next = UInt64.ofNat (d.handles.length + 1)

variable {first : Kind → Disposition} {disk : Disk} {time : Snapshot.Time} {memory : Memory}
  {s t : State} {d d' : Desk} {o : OsThread} {h h' : Nat} {i i' : Interceptor} {j : Job} {r : Nat}
  {x : Registration} {handler : Handler} {dir : Option Bytes} {u : Use}
  {past : List (Machine.Moment Desk Use)}

/-! ## What is decided -/

theorem decide_occupied {owner maxFrames : UInt64} (ha : s.active = some r) :
    s.decide (.install owner handler dir maxFrames) = .unlocking (.failed .alreadyInstalled) := by
  simp [State.decide, isInstalled, ha]

theorem decide_accepted {owner maxFrames : UInt64} {target : Option Snapshot.Target}
    (ha : s.active = none) (ht : checkTarget dir maxFrames = .ok target) :
    s.decide (.install owner handler dir maxFrames) =
      .publishing ⟨owner, handler, target, fun _ => none⟩ := by
  simp [State.decide, isInstalled, ha, ht]

theorem decide_rejected {owner maxFrames : UInt64} {e : Error} (ha : s.active = none)
    (ht : checkTarget dir maxFrames = .error e) :
    s.decide (.install owner handler dir maxFrames) = .unlocking (.failed e) := by
  simp [State.decide, isInstalled, ha, ht]

theorem decide_uninstall {owner : UInt64} (ho : s.ownedBy? owner = some r) :
    s.decide (.uninstall owner) = .withdrawing r .done := by
  simp [State.decide, ho]

theorem decide_uninstall_foreign {owner : UInt64} (ho : s.ownedBy? owner = none) :
    s.decide (.uninstall owner) = .unlocking (.failed .notInstalled) := by
  simp [State.decide, ho]

theorem decide_dispose {owner : UInt64} (ho : s.ownedBy? owner = some r) :
    s.decide (.dispose owner) = .withdrawing r (.bool true) := by
  simp [State.decide, ho]

theorem decide_dispose_foreign {owner : UInt64} (ho : s.ownedBy? owner = none) :
    s.decide (.dispose owner) = .unlocking (.bool false) := by
  simp [State.decide, ho]

theorem ownedBy?_eq_some_iff {owner : UInt64} :
    s.ownedBy? owner = some r ↔
      s.active = some r ∧ ∃ x, s.registrations[r]? = some x ∧ x.owner = owner := by
  simp [ownedBy?, Option.filter_eq_some_iff]

/-! ## Records and numbers -/

theorem Spares.moveTo {m : Managing} : Spares s (s.moveTo o m) := ⟨rfl, rfl, rfl, rfl⟩

namespace Filed

theorem spares (hs : Filed first s) (h : Spares s t) : Filed first t where
  free ha := by
    rw [h.actions]
    exact hs.free (h.active ▸ ha)
  taken r ha := by
    rw [h.registrations]
    exact hs.taken r (h.active ▸ ha)

theorem register (hs : Filed first s) (ha : s.active = none) : Filed first (s.register x) where
  free := nofun
  taken r hr := by
    obtain rfl := Option.some.inj hr
    refine ⟨_, List.getElem?_concat_length, fun k => ?_⟩
    rw [hs.free ha]

theorem unregister (hs : Filed first s) (ha : s.active = some r) :
    Filed first (s.unregister r) where
  free _ := by
    obtain ⟨x, hx, hp⟩ := hs.taken r ha
    funext k
    simp only [State.unregister, recorded?, hx, Option.bind_some, hp, Option.getD_some]
  taken := nofun

theorem call (hs : Filed first s) (hr : Resting s) : Filed first (s.call o j).2 := by
  rcases decide_cases s j with ⟨x, ha, hd⟩ | ⟨r, answer, ha, hd⟩ | ⟨answer, hd⟩
  · rw [call_registers hr hd]
    exact (hs.register ha).spares .moveTo
  · rw [call_unregisters hr hd]
    exact (hs.unregister ha).spares .moveTo
  · rw [call_refrains hr hd]
    exact hs.spares .moveTo

end Filed

/-- After a call the published registration is the one from before, or belongs to who installed. -/
theorem call_active (hr : Resting s) (ha : (s.call o j).2.active = some r)
    (hx : (s.call o j).2.registrations[r]? = some x) :
    (s.active = some r ∧ s.registrations[r]? = some x) ∨
      ∃ handler dir maxFrames, j = .install x.owner handler dir maxFrames := by
  rcases decide_cases s j with ⟨y, -, hd⟩ | ⟨q, answer, -, hd⟩ | ⟨answer, hd⟩
  · rw [call_registers hr hd] at ha hx
    obtain rfl := Option.some.inj ha
    obtain rfl := Option.some.inj (List.getElem?_concat_length.symm.trans hx)
    obtain ⟨dir, n, hj, -⟩ := decide_publishing hd
    exact .inr ⟨_, dir, n, hj⟩
  · rw [call_unregisters hr hd] at ha
    cases ha
  · rw [call_refrains hr hd] at ha hx
    exact .inl ⟨ha, hx⟩

/-- Who has disposed of itself owns nothing. -/
theorem ownedBy?_dispose {owner : UInt64} (hr : Resting s) :
    (s.call o (.dispose owner)).2.ownedBy? owner = none := by
  cases ho : s.ownedBy? owner with
  | some r =>
    rw [call_unregisters hr (decide_dispose ho)]
    rfl
  | none =>
    rw [call_refrains hr (decide_dispose_foreign ho)]
    exact ho

theorem Desk.handle?_eq_some_iff : d.handle? h = some i ↔ d.handles[h]? = some (some i) :=
  Option.join_eq_some_iff

theorem Desk.handle?_append {registry : Registry} {y : Option Interceptor}
    (hh : d.handle? h = some i) : Desk.handle? ⟨registry, d.handles ++ [y]⟩ h = some i := by
  rw [Desk.handle?_eq_some_iff] at hh ⊢
  obtain ⟨hl, -⟩ := List.getElem?_eq_some_iff.mp hh
  rwa [List.getElem?_append_left hl]

theorem Desk.of_handle?_append {registry : Registry} {y : Interceptor}
    (hh : Desk.handle? ⟨registry, d.handles ++ [some y]⟩ h = some i) :
    d.handle? h = some i ∨ h = d.handles.length ∧ i = y := by
  rw [Desk.handle?_eq_some_iff, List.getElem?_append] at hh
  split at hh
  · exact .inl (Desk.handle?_eq_some_iff.mpr hh)
  · rw [List.getElem?_singleton] at hh
    split at hh
    · exact .inr ⟨by omega, by simpa using hh.symm⟩
    · cases hh

theorem Desk.handle?_set {registry : Registry} :
    Desk.handle? ⟨registry, d.handles.set h none⟩ h' = if h' = h then none else d.handle? h' := by
  simp only [Desk.handle?, List.getElem?_set]
  split
  · rename_i e
    rw [if_pos e.symm]
    split <;> rfl
  · rename_i e
    rw [if_neg (Ne.symm e)]

namespace Numbered

theorem create {n : UInt64} (hd : Numbered d) :
    Numbered ⟨(d.registry.create n).2, d.handles ++ [some (d.registry.create n).1]⟩ where
  owner r x ha hx := by
    obtain ⟨h, i, hh, hi⟩ := hd.owner r x ha hx
    exact ⟨h, i, Desk.handle?_append hh, hi⟩
  number h i hh := by
    rcases Desk.of_handle?_append hh with hh | ⟨rfl, rfl⟩
    · exact hd.number h i hh
    · exact hd.next
  next := by
    simp only [Registry.create, hd.next, List.length_append, List.length_singleton]
    rw [UInt64.ofNat_add (d.handles.length + 1)]
    rfl

/-- An interceptor is used. -/
theorem call (hd : Numbered d) (hr : Resting d.faults) (hh : d.handle? h = some i)
    (hj : ∀ owner handler dir n, j = .install owner handler dir n → i.number = owner) :
    Numbered { d with registry := (d.registry.perform o j).2 } where
  owner r x ha hx := by
    rcases call_active hr ha hx with ⟨ha, hx⟩ | ⟨handler, dir, n, he⟩
    · exact hd.owner r x ha hx
    · exact ⟨h, i, hh, hj _ _ _ _ he⟩
  number := hd.number
  next := hd.next

theorem drop (hd : Numbered d) (hr : Resting d.faults) (hh : d.handle? h = some i) :
    Numbered ⟨(d.registry.dispose o i).2, d.handles.set h none⟩ where
  owner r x ha hx := by
    have hn : (d.faults.call o (.dispose i.number)).2.ownedBy? i.number = none :=
      ownedBy?_dispose hr
    rcases call_active hr ha hx with ⟨ha', hx'⟩ | ⟨_, _, _, he⟩
    · obtain ⟨h', i', hh', hi'⟩ := hd.owner r x ha' hx'
      refine ⟨h', i', ?_, hi'⟩
      rw [Desk.handle?_set, if_neg ?_, hh']
      rintro rfl
      obtain rfl := Option.some.inj (hh.symm.trans hh')
      cases hn.symm.trans (ownedBy?_eq_some_iff.mpr ⟨ha, x, hx, hi'.symm⟩)
    · cases he
  number h' i' hh' := by
    rw [Desk.handle?_set] at hh'
    split at hh'
    · cases hh'
    · exact hd.number h' i' hh'
  next := by
    rw [List.length_set]
    exact hd.next

end Numbered

/-! ## Histories -/

/-- Nothing is going on, and registrations, records and numbers are in order. -/
structure Orderly (first : Kind → Disposition) (d : Desk) : Prop where
  resting : Resting d.faults
  tended : Tended d.faults
  filed : Filed first d.faults
  numbered : Numbered d

namespace Orderly

theorem start : Orderly first (.start first disk time memory) where
  resting := by
    refine ⟨rfl, rfl, fun o => ?_, fun o => ⟨none, ?_⟩, rfl, rfl⟩ <;>
      simp only [Desk.faults, Desk.start, Registry.start, State.start, Row.get_empty] <;> rfl
  tended := .start
  filed := ⟨fun _ => rfl, nofun⟩
  numbered := ⟨nofun, nofun, rfl⟩

/-- An interceptor is used, and perhaps dropped. -/
theorem call (hd : Orderly first d) (hf : d'.faults = (d.faults.call o j).2) (hn : Numbered d') :
    Orderly first d' where
  resting := by
    obtain ⟨answer, t, hc, hr⟩ := hd.resting.call o j
    rw [hf, hc]
    exact hr
  tended := by
    rw [hf]
    exact hd.tended.call
  filed := by
    rw [hf]
    exact hd.filed.call hd.resting
  numbered := hn

theorem step (hd : Orderly first d) (hs : d.step u = some d') : Orderly first d' := by
  cases u with
  | create n =>
    cases hs
    exact ⟨hd.resting, hd.tended, hd.filed, hd.numbered.create⟩
  | install o h handler dir =>
    obtain ⟨i, hh, rfl⟩ := Option.map_eq_some_iff.mp hs
    exact hd.call rfl (hd.numbered.call hd.resting hh fun _ _ _ _ he => by cases he; rfl)
  | uninstall o h | owns o h =>
    obtain ⟨i, hh, rfl⟩ := Option.map_eq_some_iff.mp hs
    exact hd.call rfl (hd.numbered.call hd.resting hh nofun)
  | drop o h =>
    obtain ⟨i, hh, rfl⟩ := Option.map_eq_some_iff.mp hs
    exact hd.call rfl (hd.numbered.drop hd.resting hh)

end Orderly

theorem Desk.Run.orderly (hr : Desk.Run (.start first disk time memory) past d) :
    Orderly first d := by
  induction hr with
  | start => exact .start
  | step u _ hs ih => exact ih.step hs

/-! ## What every call comes to -/

/-- The directory for snapshots is accepted, if there is one. -/
def Interceptor.Accepts (i : Interceptor) (dir : Option Bytes) : Prop :=
  ∀ b, dir = some b → ∃ target, Snapshot.Target.create b i.maxFrames = .ok target

/-- The answer to an installation, and what becomes of the registration and the actions. -/
structure Installs (s : State) (i : Interceptor) (dir : Option Bytes) (answer : Answer)
    (t : State) : Prop where
  done_iff : answer = .done ↔ s.active = none ∧ i.Accepts dir
  occupied : s.active.isSome = true → answer = .failed .alreadyInstalled
  rejected : s.active = none → ∀ b e, dir = some b →
    Snapshot.Target.create b i.maxFrames = .error e → answer = .failed e
  registered : answer = .done → t.Belongs i
  spares : answer ≠ .done → Spares s t

/-- The answer to a removal, and what becomes of the registration and the actions. -/
structure Uninstalls (s : State) (i : Interceptor) (answer : Answer) (t : State) : Prop where
  done_iff : answer = .done ↔ s.Belongs i
  refused : ¬ s.Belongs i → answer = .failed .notInstalled
  removed : answer = .done → t.active = none
  spares : answer ≠ .done → Spares s t

theorem checkTarget_accepts {target : Option Snapshot.Target}
    (h : checkTarget dir i.maxFrames = .ok target) : i.Accepts dir := by
  rintro b rfl
  cases ht : Snapshot.Target.create b i.maxFrames with
  | ok target => exact ⟨target, rfl⟩
  | error e =>
    rw [checkTarget, ht] at h
    cases h

theorem checkTarget_rejects {e : Error} (h : checkTarget dir i.maxFrames = .error e) :
    ∃ b, dir = some b ∧ Snapshot.Target.create b i.maxFrames = .error e := by
  cases dir with
  | none => cases h
  | some b =>
    refine ⟨b, rfl, ?_⟩
    cases ht : Snapshot.Target.create b i.maxFrames <;> rw [checkTarget, ht] at h <;> cases h
    rfl

theorem belongs_iff : s.Belongs i ↔
    ∃ r x, s.active = some r ∧ s.registrations[r]? = some x ∧ x.owner = i.number := by
  simp only [Belongs, Option.isSome_iff_exists, ownedBy?_eq_some_iff]
  exact ⟨fun ⟨r, ha, x, hx⟩ => ⟨r, x, ha, hx⟩, fun ⟨r, x, ha, hx⟩ => ⟨r, ha, x, hx⟩⟩

theorem Installs.call (hr : Resting s) : ∃ answer t,
    s.call o (.install i.number handler dir i.maxFrames) = (some answer, t) ∧
      Installs s i dir answer t := by
  cases ha : s.active with
  | some r =>
    refine ⟨_, _, call_refrains hr (decide_occupied ha), ?_⟩
    exact ⟨by simp [ha], fun _ => rfl, by simp [ha], nofun, fun _ => .moveTo⟩
  | none =>
    cases hc : checkTarget dir i.maxFrames with
    | ok target =>
      have hd := checkTarget_accepts hc
      refine ⟨_, _, call_registers hr (decide_accepted ha hc), iff_of_true rfl ⟨ha, hd⟩,
        by simp [ha], fun _ b e hb he => ?_, fun _ => ?_, fun hn => absurd rfl hn⟩
      · obtain ⟨target, ht⟩ := hd b hb
        cases ht.symm.trans he
      · exact belongs_iff.mpr ⟨_, _, rfl, List.getElem?_concat_length, rfl⟩
    | error e =>
      obtain ⟨b, rfl, hb⟩ := checkTarget_rejects hc
      refine ⟨_, _, call_refrains hr (decide_rejected ha hc), iff_of_false nofun fun hd => ?_,
        by simp [ha], fun _ b' e' hb' he => ?_, nofun, fun _ => .moveTo⟩
      · obtain ⟨target, ht⟩ := hd.2 b rfl
        cases hb.symm.trans ht
      · cases hb'
        cases hb.symm.trans he
        rfl

theorem Uninstalls.call (hr : Resting s) : ∃ answer t,
    s.call o (.uninstall i.number) = (some answer, t) ∧ Uninstalls s i answer t := by
  cases ho : s.ownedBy? i.number with
  | some r =>
    refine ⟨_, _, call_unregisters hr (decide_uninstall ho), ?_⟩
    have hb : s.Belongs i := by rw [Belongs, ho]; rfl
    exact ⟨iff_of_true rfl hb, fun hn => absurd hb hn, fun _ => rfl, fun hn => absurd rfl hn⟩
  | none =>
    refine ⟨_, _, call_refrains hr (decide_uninstall_foreign ho), ?_⟩
    have hb : ¬ s.Belongs i := by rw [Belongs, ho]; nofun
    exact ⟨iff_of_false nofun hb, fun _ => rfl, nofun, fun _ => .moveTo⟩

theorem owns_call (hr : Resting s) :
    s.call o (.owns i.number) =
      (some (.bool (s.ownedBy? i.number).isSome),
        s.moveTo o (.out (some (.bool (s.ownedBy? i.number).isSome)))) :=
  call_refrains hr rfl

theorem dispose_call (hr : Resting s) : ∃ answer t,
    s.call o (.dispose i.number) = (some answer, t) ∧ (s.Belongs i → t.active = none) ∧
      (¬ s.Belongs i → Spares s t) := by
  cases ho : s.ownedBy? i.number with
  | some r =>
    refine ⟨_, _, call_unregisters hr (decide_dispose ho), fun _ => rfl, ?_⟩
    exact fun hn => absurd (by rw [Belongs, ho]; rfl) hn
  | none =>
    refine ⟨_, _, call_refrains hr (decide_dispose_foreign ho), ?_, fun _ => .moveTo⟩
    rw [Belongs, ho]
    nofun

theorem perform_eq {registry : Registry} {answer : Option Answer}
    (h : registry.faults.call o j = (answer, t)) :
    registry.perform o j = (answer, { registry with faults := t }) := by
  rw [Registry.perform, h]

/-- What can be said of a desk after any history, if these were the first actions of the signals. -/
structure Custody (first : Kind → Disposition) (d : Desk) : Prop where
  /-- The only registration that exists is the published one. -/
  one : ∀ r, d.faults.Keeps r ↔ d.faults.active = some r
  /-- It belongs to an interceptor that has not been dropped, -/
  owner : d.faults.active.isSome = true → ∃ h i, d.handle? h = some i ∧ d.faults.Belongs i
  /-- and to no other one, as long as no number has been given out twice. -/
  alone : d.handles.length ≤ 2 ^ 64 → ∀ h h' i i', d.handle? h = some i → d.handle? h' = some i' →
    d.faults.Belongs i → d.faults.Belongs i' → h = h'
  /-- While nothing is registered, the signals have their first actions. -/
  first : d.faults.active = none → d.faults.actions = first
  /-- A handler is installed if nothing is registered and the directory is accepted. -/
  install : ∀ o i handler dir, ∃ answer t,
    d.registry.install o i handler dir = (some answer, t) ∧
      Installs d.faults i dir answer t.faults
  /-- A handler is removed by its owner. -/
  uninstall : ∀ o i, ∃ answer t,
    d.registry.uninstall o i = (some answer, t) ∧ Uninstalls d.faults i answer t.faults
  /-- Whether it is the owner, an interceptor is told truly. -/
  owns : ∀ o i, ∃ answer t, d.registry.owns o i = (some (.bool answer), t) ∧
    (answer = true ↔ d.faults.Belongs i) ∧ Spares d.faults t.faults
  /-- The registration goes with its owner, and with nobody else. -/
  drop : ∀ o i, ∃ answer t, d.registry.dispose o i = (some answer, t) ∧
    (d.faults.Belongs i → t.faults.active = none) ∧
    (¬ d.faults.Belongs i → Spares d.faults t.faults)

/-- Two interceptors with the same number are the same, as long as no number has been given out
twice. -/
theorem Numbered.injective (hd : Numbered d) (hl : d.handles.length ≤ 2 ^ 64)
    (hh : d.handle? h = some i) (hh' : d.handle? h' = some i') (hn : i.number = i'.number) :
    h = h' := by
  have hlt := (List.getElem?_eq_some_iff.mp (Desk.handle?_eq_some_iff.mp hh)).1
  have hlt' := (List.getElem?_eq_some_iff.mp (Desk.handle?_eq_some_iff.mp hh')).1
  rw [hd.number h i hh, hd.number h' i' hh'] at hn
  have := congrArg UInt64.toNat hn
  simp only [UInt64.toNat_ofNat'] at this
  omega

theorem number_eq (hb : s.Belongs i) (hb' : s.Belongs i') : i.number = i'.number := by
  obtain ⟨r, x, ha, hx, hi⟩ := belongs_iff.mp hb
  obtain ⟨r', x', ha', hx', hi'⟩ := belongs_iff.mp hb'
  cases ha.symm.trans ha'
  cases hx.symm.trans hx'
  rw [← hi, hi']

theorem Orderly.one (hd : Orderly first d) : d.faults.Keeps r ↔ d.faults.active = some r := by
  have hs := hd.tended.stored
  rw [inside, hd.resting.lock] at hs
  refine ⟨fun hk => ?_, hs.active r⟩
  rcases hs.retired r hk.1 with hf | ha | hm
  · exact absurd hf hk.2
  · exact ha
  · cases hm

theorem Orderly.owner (hd : Orderly first d) (ha : d.faults.active.isSome = true) :
    ∃ h i, d.handle? h = some i ∧ d.faults.Belongs i := by
  obtain ⟨r, ha⟩ := Option.isSome_iff_exists.mp ha
  obtain ⟨x, hx, -⟩ := hd.filed.taken r ha
  obtain ⟨h, i, hh, hi⟩ := hd.numbered.owner r x ha hx
  exact ⟨h, i, hh, belongs_iff.mpr ⟨r, x, ha, hx, hi.symm⟩⟩

/-- **The registration has one owner**, whatever is done with interceptors one after the other, and
the actions of both signals are kept with it. -/
theorem Desk.Run.custody (hr : Desk.Run (.start first disk time memory) past d) :
    Custody first d := by
  have hd := hr.orderly
  have hs := hd.resting
  refine ⟨fun r => hd.one, hd.owner, fun hl h h' i i' hh hh' hb hb' => ?_, hd.filed.free,
    fun o i handler dir => ?_, fun o i => ?_, fun o i => ?_, fun o i => ?_⟩
  · exact hd.numbered.injective hl hh hh' (number_eq hb hb')
  · obtain ⟨answer, t, hc, ht⟩ := Installs.call hs
    exact ⟨answer, _, perform_eq hc, ht⟩
  · obtain ⟨answer, t, hc, ht⟩ := Uninstalls.call hs
    exact ⟨answer, _, perform_eq hc, ht⟩
  · exact ⟨_, _, perform_eq (owns_call hs), .rfl, .moveTo⟩
  · obtain ⟨answer, t, hc, ht⟩ := dispose_call hs
    exact ⟨answer, _, perform_eq hc, ht⟩

/-! ### Two interceptors -/

/-- The first of two interceptors installs a handler. The second one tries to, with a directory that
is not accepted either, and to remove the handler that it does not own. When the first one has removed
its handler, the second one installs one, and goes with it. Then the first one installs again. -/
def rivalry : List Use :=
  let handler : Handler := fun _ => (⟨none, none, none, none⟩, .decline)
  [.create 16, .create 8, .install 0 0 handler none, .install 1 1 handler (some []), .uninstall 1 1,
    .uninstall 1 0, .install 1 1 handler none, .install 0 0 handler none, .drop 1 1,
    .install 0 0 handler none]

/-- A registration is removed by its owner and another one goes with it, before there is a third. -/
theorem custody_rivalry : ∃ past d,
    Desk.Run (.start (fun _ => .default) ⟨[], []⟩ ⟨0, 0⟩ .none) past d ∧
      (∃ m ∈ past, m.label matches .uninstall 1 0 ∧ m.before.faults.active = some 0 ∧
        m.after.faults.active = none ∧ m.after.faults.actions .segv = .default) ∧
      d.faults.active = some 2 ∧ d.faults.freed = [1, 0] ∧ d.handles = [some ⟨1, 16⟩, none] ∧
      Custody (fun _ => .default) d := by
  obtain ⟨past, d, h, hp⟩ := Machine.exists_run Desk.step
    (.start (fun _ => .default) ⟨[], []⟩ ⟨0, 0⟩ .none)
    (fun past d => past.any (fun m => m.label matches .uninstall 1 0 ∧
        m.before.faults.active = some 0 ∧ m.after.faults.active = none ∧
        m.after.faults.actions .segv = .default) ∧
      d.faults.active = some 2 ∧ d.faults.freed = [1, 0] ∧ d.handles = [some ⟨1, 16⟩, none])
    rivalry (by decide +kernel)
  simp only [decide_eq_true_eq, List.any_eq_true] at hp
  obtain ⟨hm, ha, hf, hh⟩ := hp
  exact ⟨past, d, h, hm, ha, hf, hh, Desk.Run.custody h⟩

end VmHost.Fault
