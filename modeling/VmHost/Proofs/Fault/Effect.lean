import VmHost.Proofs.Fault.Portrait
import VmHost.Proofs.Fault.Registration

/-!
# The effect of a fault

A fault that is taken while a handler is registered has one course. Its activation counts itself in,
finds the registration and calls the handler. If that resumes, the registers of its view are written
back. If it declines, a snapshot is written where there is a directory for it, and the fault goes on to
the action which the install of the registration has replaced.

Other things happen meanwhile: faults and jobs on other OS threads, and faults of the other signal on
the same one, whose activations come and go above (`Stands`). An activation is known by the number of
those below it. `deeds` is what it has done, and `Course` says what that can be.

* `Stands.step`: a step is one of the activation itself, or leaves it alone.
* `Course.next`: what it goes on to.
* `effect_of_run`: how far it has come after any run, and that it gets on from there. A snapshot whose
  walk breaks off is all that keeps a declined fault from the action that was there before.
* `effect_cut_short`: this does happen, when a handler leaves a frame pointer at the end of the address
  space.
-/
namespace VmHost.Fault

open State

/-- A registration is published, and has recorded the actions of both signals. -/
structure State.Installed (s : State) (r : Nat) : Prop where
  active : s.active = some r
  recorded : ∀ k, (s.recorded? r k).isSome = true

/-- An activation of an OS thread stands on those below it. -/
def Stands (s : State) (o : OsThread) (below : List Activation) (a : Activation) : Prop :=
  ∃ above, s.activations.get o = above ++ a :: below

/-- An activation has nothing to do after this. -/
def Doing.isLast : Doing → Bool
  | .dismissing | .resuming .. | .passing _ => true
  | _ => false

/-- What the activation that stands on `n` others does at a step, if the step is one of its own. -/
def deed? (o : OsThread) (n : Nat) (m : Moment) : Option Doing :=
  match m.label, m.before.activations.get o with
  | .handle x, a :: rest => if x = o ∧ rest.length = n then some a.doing else none
  | _, _ => none

/-- What it has done, the last thing first. -/
def deeds (o : OsThread) (n : Nat) (past : List Moment) : List Doing := past.filterMap (deed? o n)

/-- The calls of handlers at a step. -/
def callsAt (m : Moment) : List HandlerCall :=
  m.after.handled.take (m.after.handled.length - m.before.handled.length)

/-- The calls of handlers that it has made, the last one first. -/
def callsBy (o : OsThread) (n : Nat) (past : List Moment) : List HandlerCall :=
  past.flatMap fun m => if (deed? o n m).isSome then callsAt m else []

/-- The call of a handler for a fault. -/
def callFor (o : OsThread) (a : Activation) (x : Registration) : HandlerCall :=
  ⟨o, viewOf a, (x.handler (viewOf a)).1, (x.handler (viewOf a)).2⟩

/-- The way of a declined fault to the recorded action, the last thing first. There is a snapshot on it
if there is a directory. -/
def reported (a : Activation) (r : Nat) (x : Registration) : List Doing :=
  (if x.target.isSome then [.dumping r (viewAfter a x)] else []) ++
    [.handling r, .loading, .entering]

/-- What an activation can do and have done, the last thing first, when it finds a registration that
has recorded an action. -/
inductive Course (a : Activation) (r : Nat) (x : Registration) (d : Disposition) :
    List Doing → Prop
  | enters : Course a r x d [.entering]
  | loads : Course a r x d [.loading, .entering]
  | handles : Course a r x d [.handling r, .loading, .entering]
  | resumes : (x.handler (viewOf a)).2 = .resume →
      Course a r x d [.resuming r (viewAfter a x), .handling r, .loading, .entering]
  | dumps : (x.handler (viewOf a)).2 = .decline → x.target.isSome = true →
      Course a r x d [.dumping r (viewAfter a x), .handling r, .loading, .entering]
  | consults : (x.handler (viewOf a)).2 = .decline →
      Course a r x d (.consulting r :: reported a r x)
  | leaves : (x.handler (viewOf a)).2 = .decline →
      Course a r x d (.leaving r (some d) :: .consulting r :: reported a r x)
  | passes : (x.handler (viewOf a)).2 = .decline →
      Course a r x d
        (.passing (some d) :: .leaving r (some d) :: .consulting r :: reported a r x)

/-- How far the activation of a fault has come, and what it has done. -/
structure Underway (past : List Moment) (s : State) (o : OsThread) (below : List Activation)
    (a : Activation) (r : Nat) (x : Registration) (d : Disposition) (doing : Doing) : Prop where
  /-- It stands where it has begun, with the registers that the signal has saved. -/
  stands : Stands s o below { a with doing := doing }
  course : Course a r x d (doing :: deeds o below.length past)
  /-- The handler has been called once, for this fault, if that is behind. -/
  calls : callsBy o below.length past =
    if .handling r ∈ deeds o below.length past then [callFor o a x] else []
  /-- The snapshot is all that it has done to the disk, and it has changed no action. -/
  spares : ∀ m ∈ past, ∀ p, deed? o below.length m = some p →
    m.after.actions = m.before.actions ∧ ((∀ v, p ≠ .dumping r v) → m.after.disk = m.before.disk)

/-- An activation ends, and its thread goes on with these registers. -/
structure Concludes (s s' : State) (o : OsThread) (below : List Activation) (a : Activation)
    (after : Context) (e : Ending) : Prop where
  outcome : s'.outcomes = ⟨o, a.kind, a.address, a.saved, after, e⟩ :: s.outcomes
  below : s'.activations.get o = below
  handled : s'.handled = s.handled
  disk : s'.disk = s.disk
  ended : s'.ended = s.ended

/-- The registers of a view are those of the thread afterwards, and the others are left alone. -/
structure Restores (v : View) (before after : Context) : Prop where
  ip : after.word .rip = v.ip
  frame : after.word .rbp = v.frame
  stack : after.word .rsp = v.stack
  thread : after.word .rbx = v.thread
  others : ∀ q, q ≠ .rip → q ≠ .rbp → q ≠ .rsp → q ≠ .rbx → after.word q = before.word q

/-- A fault is handed on to an action, with its signal, its address and all its registers. -/
structure HandsOn (s s' : State) (o : OsThread) (below : List Activation) (a : Activation)
    (d : Disposition) : Prop where
  default : d = .default → s'.actions a.kind = .default ∧
    (∀ k, k ≠ a.kind → s'.actions k = s.actions k) ∧
    Concludes s s' o below a a.saved (.passed (some d))
  ignore : d = .ignore → s'.ended = some .abort ∧ s'.outcomes = s.outcomes
  calls : d = .plain ∨ d = .detailed → s'.actions = s.actions ∧
    Concludes s s' o below a a.saved (.passed (some d))
  /-- Whoever was there before looks for a registration too. -/
  ours : d = .ours → s'.activations.get o = { a with doing := .entering } :: below

/-- The next step of an activation can be taken, and what it does. -/
structure GetsOn (s : State) (o : OsThread) (below : List Activation) (a : Activation) (r : Nat)
    (x : Registration) (d : Disposition) (doing : Doing) : Prop where
  goesOn : doing.isLast = false → (∀ v, doing ≠ .dumping r v) →
    (doing = .loading → s.active = some r) → ∃ s' p, s.step (.handle o) = some s' ∧
      s'.ended = none ∧ s'.activations.get o = { a with doing := p } :: below
  /-- Only a walk that breaks off ends the process. -/
  dumps : ∀ v, doing = .dumping r v → ∃ target s', x.target = some target ∧
    s.step (.handle o) = some s' ∧ s'.disk = (written s o v target).2 ∧
    ((written s o v target).1 = .broken → s'.ended = some .abort ∧ s'.outcomes = s.outcomes) ∧
    ((written s o v target).1 ≠ .broken → s'.ended = none ∧
      s'.activations.get o = { a with doing := .consulting r } :: below)
  resumes : ∀ v, doing = .resuming r v → ∃ s' after, s.step (.handle o) = some s' ∧
    s'.actions = s.actions ∧ Concludes s s' o below a after .resumed ∧
    Restores (viewAfter a x) a.saved after
  passes : ∀ was, doing = .passing was → ∃ s', s.step (.handle o) = some s' ∧
    HandsOn s s' o below a d

/-- What a fault comes to, with an activation that has come so far. -/
structure Effect (past : List Moment) (s : State) (o : OsThread) (below : List Activation)
    (a : Activation) (r : Nat) (x : Registration) (d : Disposition) (doing : Doing) : Prop
    extends Underway past s o below a r x d doing where
  once : (doing :: deeds o below.length past).Nodup
  /-- What the handler is shown. -/
  view : viewOf a = ⟨a.saved.word .rip, a.saved.word .rbp, a.saved.word .rsp, a.saved.word .rbx,
    if a.kind = .segv then 11 else 7, a.address⟩
  getsOn : s.IsRunning → s.activations.get o = { a with doing := doing } :: below →
    GetsOn s o below a r x d doing

variable {s s' s₁ s₂ t : State} {l : Label} {o : OsThread} {r : Nat} {k : Kind} {d : Disposition}
  {x : Registration} {a b : Activation} {above below rest : List Activation} {p doing : Doing}
  {done : List Doing} {past past₂ : List Moment} {m : Moment} {v : View}

/-! ## Whose step it is -/

theorem deed?_of_ne (hl : l ≠ .handle o) (n : Nat) : deed? o n ⟨s, l, s'⟩ = none := by
  unfold deed?
  split
  · rename_i x b rest hx _
    refine if_neg fun e => hl ?_
    rw [← e.1]
    exact hx
  · rfl

/-- It is the innermost activation that goes on. -/
theorem deed?_of_above (ha : s.activations.get o = above ++ a :: below) (hn : above ≠ []) :
    deed? o below.length ⟨s, l, s'⟩ = none := by
  unfold deed?
  split
  · rename_i x b rest hl hb
    refine if_neg fun ⟨e, hr⟩ => ?_
    subst e
    have hlen : (b :: rest).length = (above ++ a :: below).length := congrArg _ (hb.symm.trans ha)
    have habove : 0 < above.length := List.length_pos_iff.mpr hn
    simp only [List.length_append, List.length_cons] at hlen
    omega
  · rfl

theorem deed?_of_innermost (ha : s.activations.get o = a :: below) :
    deed? o below.length ⟨s, .handle o, s'⟩ = some a.doing := by
  simp only [deed?, ha, and_self, if_true]

/-- A step of the activations of an OS thread is one of the innermost one. -/
theorem Stands.step (h : Stands s o below a) (hs : s.step l = some s') (he : s'.ended = none) :
    (deed? o below.length ⟨s, l, s'⟩ = none ∧ Stands s' o below a) ∨
      (l = .handle o ∧ s.activations.get o = a :: below ∧
        ((∃ t doing, Goes s o a t doing ∧ s' = t.goOn o a doing) ∨
          ∃ t c e, Ends s a t c e ∧ s' = t.conclude o a c e)) := by
  obtain ⟨above, ha⟩ := h
  cases step_transition hs with
  | moves hm => exact .inl ⟨deed?_of_ne (by cases hm <;> nofun) _, above, ha⟩
  | alters hm => exact .inl ⟨deed?_of_ne (by nofun) _, above, by cases hm <;> exact ha⟩
  | avoids | violates => exact .inl ⟨deed?_of_ne (by nofun) _, above, ha⟩
  | stops => cases he
  | @takes q k address saved =>
    refine .inl ⟨deed?_of_ne (by nofun) _, ?_⟩
    unfold Stands
    rw [Row.get_modify]
    split
    · rename_i e
      subst e
      exact ⟨⟨k, address, saved, .entering⟩ :: above, by rw [ha]; rfl⟩
    · exact ⟨above, ha⟩
  | @goes q b rest t doing hb hg =>
    by_cases e : q = o
    · subst e
      cases above with
      | nil =>
        obtain ⟨rfl, rfl⟩ := List.cons.inj (hb.symm.trans ha)
        exact .inr ⟨rfl, ha, .inl ⟨t, doing, hg, rfl⟩⟩
      | cons c above =>
        refine .inl ⟨deed?_of_above ha nofun, { b with doing := doing } :: above, ?_⟩
        rw [get_goOn, if_pos rfl, hg.alike.activations, ha]
        rfl
    · refine .inl ⟨deed?_of_ne (by rintro ⟨⟩; exact e rfl) _, above, ?_⟩
      rw [get_goOn, if_neg (Ne.symm e), hg.alike.activations]
      exact ha
  | @ends q b rest t c e' hb hg =>
    by_cases e : q = o
    · subst e
      cases above with
      | nil =>
        obtain ⟨rfl, rfl⟩ := List.cons.inj (hb.symm.trans ha)
        exact .inr ⟨rfl, ha, .inr ⟨t, c, e', hg, rfl⟩⟩
      | cons _ above =>
        refine .inl ⟨deed?_of_above ha nofun, above, ?_⟩
        rw [get_conclude, if_pos rfl, hg.alike.activations, ha]
        rfl
    · refine .inl ⟨deed?_of_ne (by rintro ⟨⟩; exact e rfl) _, above, ?_⟩
      rw [get_conclude, if_neg (Ne.symm e), hg.alike.activations]
      exact ha

/-! ## The course of an activation -/

/-- What an activation goes on to, having found the registration. -/
theorem Course.next (hc : Course a r x d (p :: done)) (hx : Holds s r x a.kind d)
    (hg : Goes s o { a with doing := p } t doing) (hl : p = .loading → s.active = some r)
    (hp : p.isLast = false) : Course a r x d (doing :: p :: done) := by
  obtain ⟨previous, hr⟩ := hx.registered
  cases hg with
  | enters hd =>
    obtain rfl : p = .entering := hd
    cases hc
    exact .loads
  | finds hd ha =>
    obtain rfl : p = .loading := hd
    cases hc
    obtain rfl := Option.some.inj (ha.symm.trans (hl rfl))
    exact .handles
  | misses hd ha =>
    obtain rfl : p = .loading := hd
    cases ha.symm.trans (hl rfl)
  | @resumes q y hd hy hh =>
    obtain rfl : p = .handling q := hd
    cases hc
    obtain rfl := Option.some.inj (hr.symm.trans hy)
    exact .resumes hh
  | @reports q y hd hy hh ht =>
    obtain rfl : p = .handling q := hd
    cases hc
    obtain rfl := Option.some.inj (hr.symm.trans hy)
    exact .dumps hh ht
  | @declines q y hd hy hh ht =>
    obtain rfl : p = .handling q := hd
    cases hc
    obtain rfl := Option.some.inj (hr.symm.trans hy)
    have he : reported a r x = [.handling r, .loading, .entering] := by
      rw [reported, show x.target = none from ht]
      rfl
    exact he ▸ .consults hh
  | @dumps q v y _ _ _ hd =>
    obtain rfl : p = .dumping q v := hd
    cases hc with
    | dumps hh ht =>
      have he : reported a r x = [.dumping r (viewAfter a x), .handling r, .loading, .entering] := by
        rw [reported, if_pos ht]
        rfl
      exact he ▸ .consults hh
  | @consults q hd =>
    obtain rfl : p = .consulting q := hd
    cases hc with
    | consults hh =>
      rw [show s.recorded? r a.kind = some d from hx.recorded]
      exact .leaves hh
  | @leaves q was hd =>
    obtain rfl : p = .leaving q was := hd
    cases hc with
    | leaves hh => exact .passes hh
  | @recurs was hd =>
    obtain rfl : p = .passing was := hd
    cases hp

theorem Course.handling {q : Nat} (hc : Course a r x d (.handling q :: done)) :
    q = r ∧ done = [.loading, .entering] := by
  cases hc
  exact ⟨rfl, rfl⟩

theorem Course.dumping {q : Nat} (hc : Course a r x d (.dumping q v :: done)) :
    q = r ∧ v = viewAfter a x ∧ x.target.isSome = true := by
  cases hc with
  | dumps _ ht => exact ⟨rfl, rfl, ht⟩

theorem Course.resuming {q : Nat} (hc : Course a r x d (.resuming q v :: done)) :
    q = r ∧ v = viewAfter a x := by
  cases hc
  exact ⟨rfl, rfl⟩

theorem Course.passing {was : Option Disposition} (hc : Course a r x d (.passing was :: done)) :
    was = some d := by
  cases hc
  rfl

/-- Nothing is done twice. -/
theorem Course.nodup (hc : Course a r x d done) : done.Nodup := by
  have hr : (reported a r x).Nodup := by
    unfold reported
    split <;> simp
  have hconsulting : .consulting r ∉ reported a r x := by
    unfold reported
    split <;> simp
  have hleaving (was : Option Disposition) : .leaving r was ∉ reported a r x := by
    unfold reported
    split <;> simp
  have hpassing (was : Option Disposition) : .passing was ∉ reported a r x := by
    unfold reported
    split <;> simp
  cases hc with
  | consults | leaves | passes => simp [hr, hconsulting, hleaving, hpassing]
  | _ => simp

/-! ## What a step of the activation does -/

theorem callsAt_of_eq (h : s'.handled = s.handled) : callsAt ⟨s, l, s'⟩ = [] := by
  simp [callsAt, h]

theorem callsAt_of_cons {c : HandlerCall} (h : s'.handled = c :: s.handled) :
    callsAt ⟨s, l, s'⟩ = [c] := by
  simp [callsAt, h]

/-- The handler is called where the activation is about to call it, and nowhere else. -/
theorem Goes.calls (hg : Goes s o { a with doing := p } t doing) (hx : Holds s r x k d)
    (hp : ∀ q, p = .handling q → q = r) :
    callsAt ⟨s, l, t.goOn o b doing⟩ = if p = .handling r then [callFor o a x] else [] := by
  obtain ⟨previous, hr⟩ := hx.registered
  cases hg with
  | @resumes q y hd hy | @reports q y hd hy | @declines q y hd hy =>
    obtain rfl : p = .handling q := hd
    obtain rfl := hp q rfl
    obtain rfl := Option.some.inj (hr.symm.trans hy)
    rw [if_pos rfl]
    exact callsAt_of_cons rfl
  | enters hd | finds hd | misses hd | dumps hd | consults hd | leaves hd | recurs hd =>
    rw [if_neg fun e => by rw [show p = _ from hd] at e; cases e]
    exact callsAt_of_eq rfl

theorem Goes.spares (hg : Goes s o { a with doing := p } t doing) :
    t.actions = s.actions ∧ ((∀ q v, p ≠ .dumping q v) → t.disk = s.disk) := by
  cases hg with
  | @dumps q v y _ _ _ hd => exact ⟨rfl, fun hp => absurd hd (hp q v)⟩
  | _ => exact ⟨rfl, fun _ => rfl⟩

theorem deeds_cons (n : Nat) (m : Moment) (past : List Moment) :
    deeds o n (m :: past) = (deed? o n m).toList ++ deeds o n past := by
  unfold deeds
  cases h : deed? o n m with
  | none => rw [List.filterMap_cons_none h]; rfl
  | some p => rw [List.filterMap_cons_some h]; rfl

namespace Underway

theorem start (ha : s.activations.get o = a :: below) (he : a.doing = .entering) :
    Underway [] s o below a r x d .entering where
  stands := ⟨[], by rw [← he]; exact ha⟩
  course := .enters
  calls := rfl
  spares := List.forall_mem_nil _

/-- The step of somebody else. -/
theorem waits (h : Underway past s o below a r x d doing)
    (hn : deed? o below.length ⟨s, l, s'⟩ = none)
    (hst : Stands s' o below { a with doing := doing }) :
    Underway (⟨s, l, s'⟩ :: past) s' o below a r x d doing where
  stands := hst
  course := by
    rw [deeds_cons, hn]
    exact h.course
  calls := by
    rw [deeds_cons, callsBy, List.flatMap_cons, hn]
    exact h.calls
  spares := by
    refine List.forall_mem_cons.mpr ⟨fun p hp => ?_, h.spares⟩
    cases hn.symm.trans hp

/-- The activation goes on. -/
theorem goes (h : Underway past s o below a r x d p) (hx : Holds s r x a.kind d)
    (ha : s.activations.get o = { a with doing := p } :: below)
    (hg : Goes s o { a with doing := p } t doing) (hl : p = .loading → s.active = some r)
    (hp : p.isLast = false) :
    Underway (⟨s, .handle o, t.goOn o { a with doing := p } doing⟩ :: past)
      (t.goOn o { a with doing := p } doing) o below a r x d doing where
  stands := by
    refine ⟨[], ?_⟩
    rw [get_goOn, if_pos rfl, hg.alike.activations, ha]
    rfl
  course := by
    rw [deeds_cons, deed?_of_innermost ha]
    exact h.course.next hx hg hl hp
  calls := by
    rw [callsBy, List.flatMap_cons, deed?_of_innermost ha, Option.isSome_some, if_pos rfl,
      hg.calls hx fun q e => (e ▸ h.course).handling.1, deeds_cons, deed?_of_innermost ha]
    by_cases e : p = .handling r
    · have hn := (e ▸ h.course).handling.2
      have hc : callsBy o below.length past = [] := by
        rw [h.calls, hn]
        rfl
      rw [if_pos e, if_pos (by simp [e]), ← callsBy, hc]
      rfl
    · rw [if_neg e, List.nil_append, ← callsBy, h.calls]
      simp [Ne.symm e]
  spares := by
    refine List.forall_mem_cons.mpr ⟨fun q hq => ?_, h.spares⟩
    obtain rfl := Option.some.inj ((deed?_of_innermost ha).symm.trans hq)
    refine ⟨hg.spares.1, fun hv => hg.spares.2 fun q v e => hv v ?_⟩
    obtain ⟨rfl, -⟩ := (e ▸ h.course).dumping
    exact e

theorem step (h : Underway past s o below a r x d p) (hx : Holds s r x a.kind d)
    (hs : s.step l = some s') (he : s'.ended = none)
    (hl : ∀ q ∈ deeds o below.length (⟨s, l, s'⟩ :: past), q.isLast = false)
    (ha : deed? o below.length ⟨s, l, s'⟩ = some .loading → s.active = some r) :
    ∃ doing, Underway (⟨s, l, s'⟩ :: past) s' o below a r x d doing := by
  rcases h.stands.step hs he with ⟨hn, hst⟩ | ⟨rfl, hi, ⟨t, doing, hg, rfl⟩ | ⟨t, c, e, hg, rfl⟩⟩
  · exact ⟨p, h.waits hn hst⟩
  · rw [deed?_of_innermost hi] at ha
    have hp : p.isLast = false := hl p (by rw [deeds_cons, deed?_of_innermost hi]; simp)
    exact ⟨doing, h.goes hx hi hg (fun e => ha (congrArg some e)) hp⟩
  · have hp : p.isLast = false := hl p (by rw [deeds_cons, deed?_of_innermost hi]; simp)
    cases hg with
    | dismissed hd | resumed hd | defaults hd | chains hd =>
      rw [show p = _ from hd] at hp
      cases hp

end Underway

/-! ## How it gets on -/

theorem viewOf_eq (a : Activation) : viewOf a = ⟨a.saved.word .rip, a.saved.word .rbp,
    a.saved.word .rsp, a.saved.word .rbx, if a.kind = .segv then 11 else 7, a.address⟩ := by
  obtain ⟨k, address, saved, doing⟩ := a
  cases k <;> rfl

theorem restores_restore (v : View) (c : Context) : Restores v c (v.restore c) where
  ip := rfl
  frame := rfl
  stack := rfl
  thread := rfl
  others q h₁ h₂ h₃ h₄ := by
    simp only [View.restore, Context.withThread, Context.withRegisters, Context.word_set,
      Context.threadRegister, h₁, h₂, h₃, h₄, if_false]

theorem concludes_conclude {c : Context} {e : Ending}
    (ha : s.activations.get o = { a with doing := p } :: below) (hact : t.activations = s.activations)
    (hout : t.outcomes = s.outcomes) (hhan : t.handled = s.handled) (hdisk : t.disk = s.disk)
    (hended : t.ended = s.ended) :
    Concludes s (t.conclude o { a with doing := p } c e) o below a c e where
  outcome := by rw [conclude, hout]
  below := by
    rw [get_conclude, if_pos rfl, hact, ha]
    rfl
  handled := hhan
  disk := hdisk
  ended := hended

theorem handsOn_passOn (ha : s.activations.get o = { a with doing := p } :: below)
    (d : Disposition) : HandsOn s (s.passOn o { a with doing := p } (some d)) o below a d where
  default := by
    rintro rfl
    refine ⟨if_pos rfl, fun k hk => if_neg hk, ?_⟩
    exact concludes_conclude (t := s.setAction a.kind .default) ha rfl rfl rfl rfl rfl
  ignore := by
    rintro rfl
    exact ⟨rfl, rfl⟩
  calls := by
    rintro (rfl | rfl)
    · exact ⟨rfl, concludes_conclude ha rfl rfl rfl rfl rfl⟩
    · exact ⟨rfl, concludes_conclude ha rfl rfl rfl rfl rfl⟩
  ours := by
    rintro rfl
    show (s.goOn o { a with doing := p } .entering).activations.get o = _
    rw [get_goOn, if_pos rfl, ha]
    rfl

/-- A handler that has been called leaves the activation something to do. -/
theorem runHandler_goOn (s : State) (o : OsThread) (b : Activation) (r : Nat) (y : Registration) :
    ∃ q, s.runHandler o b r y = (s.called o b y).goOn o b q := by
  unfold runHandler
  cases hh : (y.handler (viewOf b)).2 with
  | resume => exact ⟨.resuming r (viewAfter b y), by simp only [called, viewAfter, hh]⟩
  | decline =>
    exact ⟨if y.target.isSome then .dumping r (viewAfter b y) else .consulting r, by
      simp only [called, viewAfter, hh]⟩

theorem Underway.getsOn (h : Underway past s o below a r x d doing) (hx : Holds s r x a.kind d)
    (hr : s.IsRunning) (ha : s.activations.get o = { a with doing := doing } :: below) :
    GetsOn s o below a r x d doing where
  goesOn hp hv hl := by
    have hgo (t : State) (q : Doing) (ht : t.activations = s.activations) :
        (t.goOn o { a with doing := doing } q).activations.get o = { a with doing := q } :: below := by
      rw [get_goOn, if_pos rfl, ht, ha]
      rfl
    rw [step_handle hr]
    simp only [State.handle, ha]
    cases doing with
    | entering => exact ⟨_, _, rfl, hr.1, hgo _ _ rfl⟩
    | loading => exact ⟨_, _, rfl, hr.1, hgo _ _ rfl⟩
    | handling q =>
      obtain ⟨rfl, -⟩ := h.course.handling
      obtain ⟨previous, hy⟩ := hx.registered
      obtain ⟨p, hq⟩ := runHandler_goOn s o { a with doing := .handling q } q
        { x with previous := previous }
      simp only [hy, Option.map_some, hq]
      exact ⟨_, p, rfl, hr.1, hgo _ _ rfl⟩
    | dumping q v =>
      obtain ⟨rfl, -⟩ := h.course.dumping
      exact absurd rfl (hv v)
    | consulting q => exact ⟨_, _, rfl, hr.1, hgo _ _ rfl⟩
    | leaving q was => exact ⟨_, _, rfl, hr.1, hgo _ _ rfl⟩
    | dismissing | resuming | passing => cases hp
  dumps v hd := by
    subst hd
    obtain ⟨-, -, ht⟩ := h.course.dumping
    obtain ⟨target, ht⟩ := Option.isSome_iff_exists.mp ht
    obtain ⟨previous, hy⟩ := hx.registered
    have hp : Reports s o { a with doing := .dumping r v } r v target := ⟨⟨_, ha⟩, rfl, _, hy, ht⟩
    refine ⟨target, _, ht, hp.step hr, disk_dump .., fun hb => ?_, fun hb => ?_⟩
    · unfold written at hb
      unfold dump
      split
      · exact ⟨rfl, rfl⟩
      · rename_i hn hw
        rw [hw] at hb
        exact absurd hb hn
    · rw [dump_of_unbroken hb, get_goOn, if_pos rfl, ha]
      exact ⟨hr.1, rfl⟩
  resumes v hd := by
    subst hd
    obtain ⟨-, rfl⟩ := h.course.resuming
    rw [step_handle hr]
    simp only [State.handle, ha]
    exact ⟨_, _, rfl, rfl,
      concludes_conclude (t := { s with inFlight := s.inFlight - 1 }) ha rfl rfl rfl rfl rfl,
      restores_restore ..⟩
  passes was hd := by
    subst hd
    obtain rfl := h.course.passing
    rw [step_handle hr]
    simp only [State.handle, ha]
    exact ⟨_, rfl, handsOn_passOn ha d⟩

/-! ## Whole runs -/

theorem step_taken {address : UInt64} {saved : Context} (hk : s.actions k = .ours)
    (hn : ∀ b ∈ s.activations.get o, b.kind ≠ k) (hs : s.step (.fault o k address saved) = some s') :
    s'.activations.get o = ⟨k, address, saved, .entering⟩ :: s.activations.get o := by
  cases step_transition hs with
  | moves hm => cases hm
  | takes =>
    rw [Row.get_modify, if_pos rfl]
  | avoids _ hd hc =>
    rw [hk] at hd
    subst hd
    rcases hc with hc | hc <;> cases hc
  | stops hst =>
    cases hst with
    | nests hb =>
      obtain ⟨b, hb, he⟩ := hb
      exact absurd he (hn b hb)
    | kills hd => rcases hd with hd | hd <;> cases hk.symm.trans hd

theorem underway_of_run {actions : Kind → Disposition} {disk : Disk} {time : Snapshot.Time}
    {memory : Memory} (h : Machine.Run State.step (.start actions disk time memory) past s₁)
    (hx : Holds s₁ r x a.kind d) (ha : s₁.activations.get o = a :: below) (he : a.doing = .entering)
    (h' : Machine.Run State.step s₁ past₂ s) (hs : s.ended = none)
    (hl : ∀ p ∈ deeds o below.length past₂, p.isLast = false)
    (hr : ∀ m ∈ past₂, deed? o below.length m = some .loading → m.before.active = some r) :
    ∃ doing, Underway past₂ s o below a r x d doing := by
  induction h' with
  | start => exact ⟨.entering, .start ha he⟩
  | @step past₂ s s' l h' hs' ih =>
    rw [List.forall_mem_cons] at hr
    have hl' : ∀ p ∈ deeds o below.length past₂, p.isLast = false := fun p hp =>
      hl p (by rw [deeds_cons]; exact List.mem_append_right _ hp)
    obtain ⟨p, hu⟩ := ih (running_of_step hs').1 hl' hr.2
    exact hu.step (holds_of_run h hx h') hs' hs hl hr.1

/-- **The effect of a fault** that is taken while a registration is published and has recorded both
actions, if it is still published when the activation looks for it. The handler is called once, with the
registers, the signal and the address of the fault. If it resumes, its registers are those of the thread
afterwards. If it declines, a snapshot is taken exactly if there is a directory, and the fault goes to
the action that the install has replaced for its signal, once, with all registers unchanged. Only the
end of the process keeps it from that, by a snapshot whose walk breaks off. -/
theorem effect_of_run {actions : Kind → Disposition} {disk : Disk} {time : Snapshot.Time}
    {memory : Memory} {address : UInt64} {saved : Context}
    (h : Machine.Run State.step (.start actions disk time memory) past s₁) (hi : s₁.Installed r)
    (hk : s₁.actions k = .ours) (hn : ∀ b ∈ s₁.activations.get o, b.kind ≠ k)
    (hs : s₁.step (.fault o k address saved) = some s₂)
    (h' : Machine.Run State.step s₂ past₂ s) (he : s.ended = none)
    (hl : ∀ p ∈ deeds o (s₁.activations.get o).length past₂, p.isLast = false)
    (hr : ∀ m ∈ past₂, deed? o (s₁.activations.get o).length m = some .loading →
      m.before.active = some r) :
    ∃ x d doing, IsOrdered past x ∧ s₁.registrations[r]? = some x ∧ HasReplaced past r k d ∧
      (∀ e, HasReplaced past r k e → e = d) ∧
      Effect past₂ s o (s₁.activations.get o) ⟨k, address, saved, .entering⟩ r x d doing := by
  have hb := booked_of_run h
  obtain ⟨d, hd⟩ := Option.isSome_iff_exists.mp (hi.recorded k)
  obtain ⟨x, hx, -⟩ := Option.bind_eq_some_iff.mp hd
  have hx₁ : Holds s₁ r x k d := ⟨⟨x.previous, hx⟩, hd⟩
  have h₂ := h.step _ hs
  obtain ⟨doing, hu⟩ := underway_of_run (a := ⟨k, address, saved, .entering⟩) h₂ (hx₁.step hb hs)
    (step_taken hk hn hs) rfl h' he hl hr
  refine ⟨x, d, doing, (ordered_of_run h).registered x (List.mem_of_getElem? hx), hx,
    hb.recorded _ _ _ hd, fun e hd' => hb.once _ _ _ _ hd' (hb.recorded _ _ _ hd), ?_⟩
  exact {
    toUnderway := hu
    once := hu.course.nodup
    view := viewOf_eq _
    getsOn := hu.getsOn (holds_of_run h₂ (hx₁.step hb hs) h') }

/-! ### Declined faults -/

/-- Thread 0 has installed a handler. -/
def installing (h : Handler) : List Label :=
  .ask 0 (.install 1 h (some [0x2F, 0x64]) 3) :: List.replicate 8 (.manage 0)

/-- While a fault is being handled, a fault of the other signal is handled on top of it. -/
def nested : List Label :=
  List.replicate 2 (.handle 0) ++ .fault 0 .bus 32 onStack :: List.replicate 11 (.handle 0)

theorem effect_nested : ∃ past s₁ s₂ past₂ s x d,
    Machine.Run State.step furnished past s₁ ∧ s₁.Installed 0 ∧ s₁.actions .segv = .ours ∧
    (∀ b ∈ s₁.activations.get 0, b.kind ≠ .segv) ∧
    s₁.step (.fault 0 .segv 16 onStack) = some s₂ ∧ Machine.Run State.step s₂ past₂ s ∧
    s.ended = none ∧ s.outcomes.map (·.ending) = [.passed (some .detailed)] ∧
    (∀ p ∈ deeds 0 (s₁.activations.get 0).length past₂, p.isLast = false) ∧
    (∀ m ∈ past₂, deed? 0 (s₁.activations.get 0).length m = some .loading →
      m.before.active = some 0) ∧
    ∃ doing, Effect past₂ s 0 (s₁.activations.get 0) ⟨.segv, 16, onStack, .entering⟩ 0 x d doing := by
  obtain ⟨past, s₁, h, hp⟩ := Machine.exists_run State.step furnished
    (fun _ s₁ => s₁.active = some 0 ∧ (s₁.recorded? 0 .segv).isSome ∧ (s₁.recorded? 0 .bus).isSome ∧
      s₁.actions .segv = .ours ∧ (s₁.activations.get 0).length = 0 ∧
      (s₁.step (.fault 0 .segv 16 onStack)).any fun s₂ =>
        (Machine.replay State.step nested [] s₂).any fun ⟨past₂, s⟩ =>
          s.ended = none ∧ s.outcomes.map (·.ending) = [.passed (some .detailed)] ∧
          (∀ p ∈ deeds 0 0 past₂, p.isLast = false) ∧
          past₂.all fun m => deed? 0 0 m = some .loading → m.before.active = some 0)
    (installing scribbler) (by decide +kernel)
  simp only [decide_eq_true_eq, Option.any_eq_true] at hp
  obtain ⟨ha, hsegv, hbus, hk, hlen, s₂, hs, ⟨past₂, s⟩, hr, he, ho, hl, hload⟩ := hp
  have hi : s₁.Installed 0 := ⟨ha, fun k => by cases k <;> assumption⟩
  have hn : ∀ b ∈ s₁.activations.get 0, b.kind ≠ .segv := by
    rw [List.length_eq_zero_iff.mp hlen]
    exact List.forall_mem_nil _
  have h' := Machine.Run.start.replay hr
  simp only [List.all_eq_true, decide_eq_true_eq] at hload
  have hl' : ∀ p ∈ deeds 0 (s₁.activations.get 0).length past₂, p.isLast = false := by
    rw [hlen]
    exact hl
  have hload' : ∀ m ∈ past₂, deed? 0 (s₁.activations.get 0).length m = some .loading →
      m.before.active = some 0 := by
    rw [hlen]
    exact hload
  obtain ⟨x, d, doing, -, -, -, -, hf⟩ := effect_of_run h hi hk hn hs h' he hl' hload'
  exact ⟨past, s₁, s₂, past₂, s, x, d, h, hi, hk, hn, hs, h', he, ho, hl', hload', doing, hf⟩

/-- Where a handler leaves the last frame pointer there is, and declines, the walk of the snapshot breaks
off. So the process ends, and the action that the install has replaced is not called. -/
theorem effect_cut_short : ∃ past s, Machine.Run State.step furnished past s ∧
    HasReplaced past 0 .segv .detailed ∧ s.handled.map (·.action) = [.decline] ∧
    s.outcomes.map (·.ending) = [] ∧ s.ended = some .abort := by
  obtain ⟨past, s, h, hp⟩ := Machine.exists_run State.step furnished
    (fun _ s => s.recorded? 0 .segv = some .detailed ∧ s.handled.map (·.action) = [.decline] ∧
      s.outcomes.map (·.ending) = [] ∧ s.ended = some .abort)
    (toSnapshot wrecker ++ [.handle 0]) (by decide +kernel)
  simp only [decide_eq_true_eq] at hp
  exact ⟨past, s, h, (booked_of_run h).recorded _ _ _ hp.1, hp.2⟩

end VmHost.Fault
