import VmHost.Proofs.Inspect.Engagement

/-!
# The registers of a stopped thread

Whoever holds a thread stopped can read its registers and write others, as often as it likes. What it
reads is what it has written last, or else what the signal has saved. The thread goes on with these
registers, and with all others as they were. A visitor sees the saved registers once, and the thread goes
on with them.

This needs that no handler is on its way to an answer, or parked, when the slot is aimed (`IsClear`).
Otherwise the registers may be those of another thread (`stops_other`).

* `Visited`: how often an inspection has called a visitor, for every place of its inspector.
* `Run.steady`: what the holder reads, what visitors see, and how the thread goes on.
-/
namespace VmHost.Inspect

open State

/-- The calls of visitors that an OS thread makes at a step. -/
def visitsAt (o : OsThread) (m : Moment) : List (OsThread × Identity × Registers) :=
  match m.label with
  | .advance x =>
    if x = o then m.after.visits.take (m.after.visits.length - m.before.visits.length) else []
  | _ => []

/-- The calls of visitors that an OS thread has made, the last one first. -/
def visitsBy (o : OsThread) (past : List Moment) : List (OsThread × Identity × Registers) :=
  past.flatMap (visitsAt o)

namespace Inspecting

/-- The target is let go, or has been. -/
def IsThrough : Inspecting → Bool
  | .resuming | .draining | .unlocking .resumed | .out (some .resumed) => true
  | _ => false

/-- The target is held. -/
def IsHolding : Inspecting → Prop
  | .holding .. | .overwriting .. | .marking .. => True
  | _ => False

end Inspecting

/-- How many steps the handler of a stopped thread has to go. -/
def Handling.left : Handling → Nat
  | .parked => 5
  | .checking => 4
  | .reloading .ip _ => 3
  | .reloading .frame _ => 2
  | .reloading .stack _ => 1
  | _ => 0

/-- A thread goes on with the registers that were written last, if any, and with the others unchanged. -/
structure GoesOn (before after : Context) (set : Option Registers) : Prop where
  registers : after.registers = set.getD before.registers
  others : ∀ r, r ≠ .rip → r ≠ .rbp → r ≠ .rsp → after.word r = before.word r

/-- What an inspection has shown to a visitor. -/
structure Visited (past₂ : List Moment) (s : State) (o : OsThread) (q : Request) : Prop where
  holds : (s.inspectors.get o).IsHolding → q.visiting = false
  set : q.visiting = true → lastSet? o past₂ = none
  /-- A visitor is called once, when the target can be let go, and not at all before or otherwise. -/
  count : (visitsBy o past₂).length =
    if q.visiting ∧ (s.inspectors.get o).IsThrough then 1 else 0

/-- The registers of a target, after the run `past₂` since the slot was aimed at it. -/
structure Steady (past past₂ : List Moment) (s : State) (o : OsThread) (q : Request) : Prop
    extends Visited past₂ s o q where
  /-- As long as the target is held, it is parked and does not go on. -/
  stays : (s.inspectors.get o).IsHolding ∨ s.inspectors.get o = .resuming →
    s.IsParked q.target ∧ s.step (.handle q.target) = none
  /-- What the holder reads are the registers that it has written last, or those that the signal has
  saved. The machine context of the target is unchanged meanwhile. -/
  held : ∀ r, s.held? o = some r → ∃ c, interrupted? q.target (past₂ ++ past) = some c ∧
    (s.subjects.get q.target).context = c ∧ r = (lastSet? o past₂).getD c.registers
  /-- When the target may go on, it is on its way, -/
  drains : s.inspectors.get o = .draining → s.slot.phase = .resume → s.violation = none →
    s.IsParked q.target ∧ ∃ s', s.step (.handle q.target) = some s' ∧
      (s'.IsParked q.target → (s'.handler q.target).left < (s.handler q.target).left)
  /-- and it goes on with these registers, and all others as the signal has saved them. -/
  leaves : ∀ s', s.inspectors.get o = .draining → s.step (.handle q.target) = some s' →
    s.IsParked q.target → ¬ s'.IsParked q.target →
    ∃ c, interrupted? q.target (past₂ ++ past) = some c ∧
      GoesOn c (s'.subjects.get q.target).context (lastSet? o past₂)
  /-- What a visitor is shown are the registers that the signal has saved. -/
  shown : ∀ later m earlier, past₂ = later ++ m :: earlier → ∀ x ∈ visitsAt o m,
    m.before.IsParked q.target ∧ ∃ c, interrupted? q.target (earlier ++ past) = some c ∧
      x = (o, q.target, c.registers)

variable {s₀ s₁ s₂ s s' : State} {l : Label} {o x : OsThread} {t : Identity} {p : Inspecting}
  {past past₂ : List Moment} {q : Request} {set : Option Registers}

/-! ## Calls of visitors -/

theorem visitsAt_of_eq (h : s'.visits = s.visits) : visitsAt o ⟨s, l, s'⟩ = [] := by
  unfold visitsAt
  split
  · rw [h, Nat.sub_self, List.take_zero]
    split <;> rfl
  · rfl

/-- A step of an inspection calls a visitor and lets the target go, or changes nothing about whether the
target has been let go, unless the target was held. -/
theorem visits_of_step (hp : (s.inspectors.get o).IsEngaged ∨ (s.inspectors.get o).IsOver)
    (hs : s.step l = some s') (hl : ∀ c q, l ≠ .ask o c q) :
    (visitsAt o ⟨s, l, s'⟩ = [] ∧
      ((s'.inspectors.get o).IsThrough = (s.inspectors.get o).IsThrough ∨
        (s.inspectors.get o).IsHolding)) ∨
    ∃ q k got, s.inspectors.get o = .capturing q k got ∧ k.next? = none ∧ q.visiting = true ∧
      s'.inspectors.get o = .resuming ∧
      visitsAt o ⟨s, l, s'⟩ = [(o, q.target, k.put got (k.of s.slot.registers))] := by
  cases step_transition hs with
  | @moves x l p hm =>
    refine .inl ⟨visitsAt_of_eq rfl, ?_⟩
    rw [get_moveTo]
    split
    · rename_i e
      subst e
      cases hm with
      | asks => exact absurd rfl (hl _ _)
      | finds hi | finished hi | resolves hi | unresolved hi =>
        rw [hi] at hp
        rcases hp with hp | hp <;> exact hp.elim
      | rewrites hi | resumes hi =>
        rw [hi]
        exact .inr trivial
      | refused hi | times hi | overflows hi | meets hi | waits hi | wonders hi | persists hi
      | despairs hi | answered hi | captures hi | holds hi | drains hi =>
        rw [hi]
        exact .inl rfl
    · exact .inl rfl
  | @writes x f p hw =>
    refine .inl ⟨visitsAt_of_eq rfl, ?_⟩
    rw [get_moveTo]
    split
    · rename_i e
      subst e
      cases hw with
      | aims hi | clears hi | arms hi | disarms hi | withdraws hi | resets hi | resumes hi =>
        rw [hi]
        exact .inl rfl
      | overwrites hi | overwritten hi | marks hi =>
        rw [hi]
        exact .inr trivial
    · exact .inl rfl
  | locks hi | signals hi =>
    refine .inl ⟨visitsAt_of_eq rfl, .inl ?_⟩
    rw [get_moveTo]
    split
    · rename_i e
      rw [e, hi]
      rfl
    · rfl
  | @unlocks x r hi =>
    refine .inl ⟨visitsAt_of_eq rfl, .inl ?_⟩
    rw [get_moveTo]
    split
    · rename_i e
      rw [e, hi]
      cases r <;> rfl
    · rfl
  | @shows x q k got hi hk hv =>
    by_cases e : o = x
    · subst e
      refine .inr ⟨q, k, got, hi, hk, hv, by rw [get_moveTo, if_pos rfl], ?_⟩
      simp [visitsAt, State.moveTo]
    · refine .inl ⟨if_neg (Ne.symm e), .inl ?_⟩
      rw [get_moveTo, if_neg e]
  | delivers | reads | stores | restores | strays | happens | passes | violates =>
    exact .inl ⟨visitsAt_of_eq rfl, .inl rfl⟩

/-- Nobody holds a target but by a request that is no visit. -/
theorem isHolding_of_step (hs : s.step l = some s') (hp : (s'.inspectors.get o).IsHolding) :
    (s.inspectors.get o).IsHolding ∨
      ∃ q, (s.inspectors.get o).request? = some q ∧ (s.inspectors.get o).IsEngaged ∧
        q.visiting = false := by
  rcases step_turn hs o with ⟨f, ht, -⟩ | ⟨he, -⟩
  · generalize s'.inspectors.get o = p at ht hp
    cases ht with
    | moves hm =>
      cases hm with
      | holds hi _ hv => exact .inr ⟨_, by rw [hi]; rfl, by rw [hi]; trivial, hv⟩
      | rewrites hi =>
        rw [hi]
        exact .inl trivial
      | _ => exact hp.elim
    | writes hw =>
      cases hw with
      | overwrites hi | overwritten hi | marks hi =>
        rw [hi]
        exact .inl trivial
      | _ => exact hp.elim
    | locks | unlocks | signals | shows => exact hp.elim
  · rw [he] at hp
    exact .inl hp

/-- Only the holder of a target writes registers. -/
theorem setAfter_of_not_isHolding (hs : s.step l = some s') (hp : ¬ (s.inspectors.get o).IsHolding) :
    setAfter o set l = set := by
  cases step_transition hs with
  | @moves x l p hm =>
    by_cases e : x = o
    · subst e
      cases hm with
      | rewrites hi =>
        rw [hi] at hp
        exact absurd trivial hp
      | _ => rfl
    · exact hm.setAfter e
  | happens hh => cases hh <;> rfl
  | violates hb => cases hb <;> rfl
  | _ => rfl

namespace Visited

theorem start (hp : s.inspectors.get o = .clearing q) : Visited [] s o q where
  holds hh := by
    rw [hp] at hh
    exact hh.elim
  set _ := rfl
  count := by
    rw [hp]
    exact (if_neg fun h => by cases h.2).symm

theorem step (hv : Visited past₂ s o q) (hs : s.step l = some s')
    (hp : (s.inspectors.get o).IsEngaged ∨ (s.inspectors.get o).IsOver)
    (hq : ∀ q', (s.inspectors.get o).IsEngaged → (s.inspectors.get o).request? = some q' → q' = q)
    (hl : ∀ c q, l ≠ .ask o c q) : Visited (⟨s, l, s'⟩ :: past₂) s' o q where
  holds hh := by
    rcases isHolding_of_step hs hh with hh | ⟨q', hr, he, hf⟩
    · exact hv.holds hh
    · exact hq q' he hr ▸ hf
  set ht := by
    refine (setAfter_of_not_isHolding hs fun hh => ?_).trans (hv.set ht)
    cases ht.symm.trans (hv.holds hh)
  count := by
    have hcons : visitsBy o (⟨s, l, s'⟩ :: past₂) = visitsAt o ⟨s, l, s'⟩ ++ visitsBy o past₂ :=
      List.flatMap_cons ..
    rw [hcons, List.length_append, hv.count]
    rcases visits_of_step hp hs hl with ⟨hn, ht | hh⟩ | ⟨q', k, got, hi, -, hv', hi', hn⟩
    · rw [hn, ht]
      exact Nat.zero_add _
    · have hf := hv.holds hh
      rw [hn, hf]
      rfl
    · obtain rfl : q' = q := hq q' (by rw [hi]; trivial) (by rw [hi]; rfl)
      rw [hn, hi, hi', hv']
      rfl

end Visited

/-! ## The handler of a target that may go on -/

theorem goesOn_rewritten (c : Context) (set : Option Registers) : GoesOn c (rewritten c set) set := by
  cases set with
  | none => exact ⟨rfl, fun _ _ _ _ => rfl⟩
  | some r =>
    refine ⟨Context.registers_withRegisters c r, fun q h₁ h₂ h₃ => ?_⟩
    show (c.withRegisters r).word q = c.word q
    simp only [Context.withRegisters, Context.word_set, h₁, h₂, h₃, if_false]

theorem step_handle (h : s.violation = none) : s.step (.handle t) = s.handle t := by
  unfold State.step
  rw [h]
  rfl

/-- A thread that is parked while the phase is not paused can go on, and gets nearer to its way out. -/
theorem handle_parked (hv : s.violation = none) (hf : s.slot.phase ≠ .paused)
    (hp : s.IsParked t) : ∃ s', s.step (.handle t) = some s' ∧
      (s'.IsParked t → (s'.handler t).left < (s.handler t).left) := by
  rw [step_handle hv]
  unfold IsParked at hp
  have hx : (s.subjects.get t).handler = s.handler t := rfl
  cases hh : s.handler t with
  | out | entered | matching | storing | clearing | answering =>
    rw [hh] at hp
    exact hp.elim
  | parked =>
    simp only [State.handle, hx, hh, if_neg hf]
    refine ⟨_, rfl, fun _ => ?_⟩
    rw [handler_moveHandler, if_pos rfl]
    decide
  | checking =>
    simp only [State.handle, hx, hh]
    refine ⟨_, rfl, fun _ => ?_⟩
    rw [handler_moveHandler, if_pos rfl]
    split <;> decide
  | reloading k got =>
    simp only [State.handle, hx, hh]
    cases k with
    | ip | frame =>
      refine ⟨_, rfl, fun _ => ?_⟩
      rw [handler_moveHandler, if_pos rfl]
      exact Nat.lt_succ_self _
    | stack =>
      refine ⟨_, rfl, fun _ => ?_⟩
      rw [handler_onSubject, if_pos rfl]
      exact Nat.lt_succ_self _
  | releasing =>
    simp only [State.handle, hx, hh]
    refine ⟨_, rfl, fun hp' => ?_⟩
    rw [IsParked, handler_moveHandler, if_pos rfl] at hp'
    exact hp'.elim

namespace Engaged

theorem drains (he : Engaged past s o q set) (hp : s.inspectors.get o = .draining) :
    (s.handler q.target).Drains s.slot set (interrupted? q.target past)
      (s.subjects.get q.target).context := by
  have hpl := he.place
  rw [hp] at hpl
  exact hpl

/-- The target of a draining inspector is parked as long as the phase says that it may go on. -/
theorem parked (he : Engaged past s o q set) (hp : s.inspectors.get o = .draining)
    (hf : s.slot.phase = .resume) : s.IsParked q.target := by
  unfold IsParked
  have hd := he.drains hp
  generalize s.handler q.target = h at hd ⊢
  cases hd with
  | waits _ _ hh => rcases hh with rfl | rfl <;> trivial
  | reloads | releases => trivial
  | gone hf' => cases hf.symm.trans hf'

/-- A thread leaves its handler with the registers that were written last. -/
theorem leaves (he : Engaged past s o q set) (hp : s.inspectors.get o = .draining)
    (hs : s.step (.handle q.target) = some s') (hh : s.IsParked q.target)
    (hn : ¬ s'.IsParked q.target) : ∃ c, interrupted? q.target past = some c ∧
      GoesOn c (s'.subjects.get q.target).context set := by
  have hd := he.drains hp
  have hrel : s.handler q.target = .releasing ∧
      (s'.subjects.get q.target).context = (s.subjects.get q.target).context := by
    cases step_transition hs with
    | moves hm => cases hm
    | reads hr =>
      refine absurd ?_ hn
      rw [IsParked, handler_moveHandler, if_pos rfl]
      exact hr.isParked.mp hh
    | stores hw =>
      cases hw with
      | releases hr => exact ⟨hr, context_moveHandler ..⟩
      | stores hr | stored hr | clears hr | answers hr =>
        rw [IsParked, hr] at hh
        exact hh.elim
    | restores =>
      refine absurd ?_ hn
      rw [IsParked, handler_onSubject, if_pos rfl]
      trivial
    | happens hh => cases hh
    | violates hb => cases hb
  rw [hrel.1] at hd
  cases hd with
  | waits _ _ hh => rcases hh with hh | hh <;> cases hh
  | releases _ hc hnow =>
    refine ⟨_, hc, ?_⟩
    rw [hrel.2, hnow]
    exact goesOn_rewritten ..
  | gone _ hh => exact absurd trivial hh

/-- A target that is held waits for the phase to change. -/
theorem stays (he : Engaged past s o q set)
    (hp : (s.inspectors.get o).IsHolding ∨ s.inspectors.get o = .resuming) :
    s.IsParked q.target ∧ s.step (.handle q.target) = none := by
  have hh : (s.handler q.target).IsHeld s.slot := by
    have hpl := he.place
    cases hi : s.inspectors.get o <;> rw [hi] at hp hpl
    case holding | overwriting | marking | resuming => exact hpl.1
    all_goals rcases hp with hp | hp <;> cases hp
  refine ⟨by rw [IsParked, hh.parked]; trivial, ?_⟩
  have hx : (s.subjects.get q.target).handler = s.handler q.target := rfl
  unfold State.step
  split
  · rfl
  · simp only [State.handle, hx, hh.parked, if_pos hh.phase]

theorem held (he : Engaged past s o q set) (hk : Kept past s) {r : Registers}
    (hr : s.held? o = some r) : ∃ c, interrupted? q.target past = some c ∧
      (s.subjects.get q.target).context = c ∧ r = set.getD c.registers := by
  obtain ⟨q', hp⟩ : ∃ q', s.inspectors.get o = .holding q' r := by
    unfold held? at hr
    split at hr
    · rename_i q' r' hp
      cases hr
      exact ⟨q', hp⟩
    · cases hr
  have hpl := he.place
  rw [hp] at hpl
  obtain ⟨hh, -, he⟩ := hpl
  have hc := hk q.target (by simp [hh.parked]) (by simp [hh.parked])
  exact ⟨_, hc, rfl, he⟩

/-- What a visitor is shown. -/
theorem shown (he : Engaged past s o q set) (hk : Kept past s) {k : Slice} {got : Registers}
    {q' : Request} (hp : s.inspectors.get o = .capturing q' k got) (hn : k.next? = none) :
    q' = q ∧ s.IsParked q.target ∧ ∃ c, interrupted? q.target past = some c ∧
      k.put got (k.of s.slot.registers) = c.registers := by
  have hpl := he.place
  rw [hp] at hpl
  obtain ⟨-, -, hh, hw, ha⟩ := hpl
  have hc := hk q.target (by simp [hh.parked]) (by simp [hh.parked])
  refine ⟨he.request q' (by rw [hp]; rfl), by rw [IsParked, hh.parked]; trivial, _, hc, ?_⟩
  rw [hw]
  exact ha.all hn

end Engaged

/-! ## Whole runs -/

theorem Run.visited (h : Run s₀ past s₁) (h₀ : s₀.Quiet) (hp : s₁.inspectors.get o = .aiming q)
    (hc : s₁.IsClear) (hs : s₁.step (.advance o) = some s₂) (h' : Run s₂ past₂ s)
    (hn : ∀ m ∈ past₂, ∀ c q', m.label ≠ .ask o c q') : Visited past₂ s o q := by
  induction h' with
  | start =>
    refine .start ?_
    rw [step_aiming hp hs, get_moveTo, if_pos rfl]
  | @step past₂ s s' l h' hs' ih =>
    rw [List.forall_mem_cons] at hn
    obtain ⟨hi, he⟩ := Run.engaged h h₀ hp hc hs h' hn.2
    exact (ih hn.2).step hs' hi (fun q' hi' => (he hi').request q') hn.1

/-- **The registers of a stopped thread.** Whatever else happens once an inspector has aimed the slot,
with no handler ahead or parked, the holder of the target reads what it has written last, or else what
the signal has saved, and this is what the target goes on with. A visitor is called once if the
inspection succeeds, and not at all if it fails. -/
theorem Run.steady (h : Run s₀ past s₁) (h₀ : s₀.Quiet) (hp : s₁.inspectors.get o = .aiming q)
    (hc : s₁.IsClear) (hs : s₁.step (.advance o) = some s₂) (h' : Run s₂ past₂ s)
    (hn : ∀ m ∈ past₂, ∀ c q', m.label ≠ .ask o c q') :
    Steady (⟨s₁, .advance o, s₂⟩ :: past) past₂ s o q := by
  have hr : Run s₀ (past₂ ++ ⟨s₁, .advance o, s₂⟩ :: past) s := (h.step _ hs).append h'
  have he := (Run.engaged h h₀ hp hc hs h' hn).2
  exact {
    toVisited := Run.visited h h₀ hp hc hs h' hn
    stays := fun hi => by
      refine (he ?_).stays hi
      cases hp' : s.inspectors.get o <;> rw [hp'] at hi <;>
        first | trivial | (rcases hi with hi | hi <;> cases hi)
    held := fun r hr' => by
      refine (he ?_).held (hr.kept h₀) hr'
      unfold held? at hr'
      split at hr'
      · rename_i hi
        rw [hi]
        trivial
      · cases hr'
    drains := fun hi hf hv => by
      have hpark := (he (by rw [hi]; trivial)).parked hi hf
      exact ⟨hpark, handle_parked hv (by rw [hf]; nofun) hpark⟩
    leaves := fun s' hi => (he (by rw [hi]; trivial)).leaves hi
    shown := by
      rintro later m earlier rfl x hx
      obtain ⟨hr', hs'⟩ := h'.split
      have hn' : ∀ m ∈ earlier, ∀ c q', m.label ≠ .ask o c q' := fun m hm =>
        hn m (List.mem_append_right _ (List.mem_cons_of_mem _ hm))
      have hl : ∀ c q', m.label ≠ .ask o c q' := hn m (List.mem_append_right _ List.mem_cons_self)
      obtain ⟨hi, he⟩ := Run.engaged h h₀ hp hc hs hr' hn'
      have hr₀ : Run s₀ (earlier ++ ⟨s₁, .advance o, s₂⟩ :: past) m.before :=
        (h.step _ hs).append hr'
      rcases visits_of_step hi hs' hl with ⟨hv, -⟩ | ⟨q', k, got, hi', hk, -, -, hv⟩
      · rw [hv] at hx
        cases hx
      · rw [hv] at hx
        obtain ⟨rfl, hpark, c, hc, hw⟩ := (he (by rw [hi']; trivial)).shown (hr₀.kept h₀) hi' hk
        exact ⟨hpark, c, hc, by rw [List.mem_singleton.mp hx, hw]⟩ }

/-! ### A thread that is sent elsewhere -/

theorem isClear_of_cells (h : ∀ x ∈ s.subjects.cells, x.handler = .out) : s.IsClear := by
  intro t
  have ht : s.handler t = .out := Row.forall_get (p := fun x : Subject => x.handler = .out) rfl h t
  rw [IsParked, ht]
  exact ⟨id, id⟩

/-- Thread 0 has stopped thread 1 and sends it elsewhere, twice, while strangers send signals. It lets
the thread go, and the thread has put the registers into its machine context. -/
def sentElsewhere : List Label :=
  List.replicate 3 (.advance 0) ++ .deliver 1 :: List.replicate 7 (.handle 1) ++
    List.replicate 5 (.advance 0) ++ .overwrite 0 ⟨1, 2, 3⟩ :: List.replicate 4 (.advance 0) ++
    [.stray 1, .stray 2, .deliver 2, .handle 2, .overwrite 0 ⟨7, 8, 9⟩] ++
    List.replicate 4 (.advance 0) ++ [.resume 0, .advance 0] ++ List.replicate 5 (.handle 1)

theorem steady_sentElsewhere : ∃ past s₁ s₂ past₂ s, Run trio past s₁ ∧ trio.Quiet ∧
    s₁.inspectors.get 0 = .aiming ⟨1, 5, false⟩ ∧ s₁.IsClear ∧ s₁.step (.advance 0) = some s₂ ∧
    Run s₂ past₂ s ∧ (∀ m ∈ past₂, ∀ c q', m.label ≠ .ask 0 c q') ∧
    s.saved 1 = ⟨7, 8, 9⟩ ∧ lastSet? 0 past₂ = some ⟨7, 8, 9⟩ ∧
    Steady (⟨s₁, .advance 0, s₂⟩ :: past) past₂ s 0 ⟨1, 5, false⟩ := by
  obtain ⟨past, s₁, h, hp⟩ := Machine.exists_run State.step trio
    (fun _ s₁ => s₁.inspectors.get 0 = .aiming ⟨1, 5, false⟩ ∧
      (∀ x ∈ s₁.subjects.cells, x.handler = .out) ∧
      (s₁.step (.advance 0)).any fun s₂ =>
        (Machine.replay State.step sentElsewhere [] s₂).any fun ⟨past₂, s⟩ =>
          (past₂.all fun m => match m.label with | .ask .. => false | _ => true) ∧
          s.saved 1 = ⟨7, 8, 9⟩ ∧ lastSet? 0 past₂ = some ⟨7, 8, 9⟩)
    (.ask 0 0 ⟨1, 5, false⟩ :: List.replicate 3 (.advance 0)) (by decide +kernel)
  simp only [decide_eq_true_eq, Option.any_eq_true, List.all_eq_true] at hp
  obtain ⟨hi, hc, s₂, hs, ⟨past₂, s⟩, hr, hn, hw, hl⟩ := hp
  have hn' : ∀ m ∈ past₂, ∀ c q', m.label ≠ .ask 0 c q' := by
    intro m hm c q' he
    have := hn m hm
    rw [he] at this
    cases this
  have h' := Machine.Run.start.replay hr
  exact ⟨past, s₁, s₂, past₂, s, h, quiet_trio, hi, isClear_of_cells hc, hs, h', hn', hw, hl,
    Run.steady h quiet_trio hi (isClear_of_cells hc) hs h' hn'⟩

end VmHost.Inspect
