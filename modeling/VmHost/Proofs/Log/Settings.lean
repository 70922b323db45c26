import VmHost.Log.Settings
import VmHost.Proofs.Run

/-!
# Who decides about the log

The threshold and the flush switch come from the environment unless they are set by hand. The
environment is read where one of them is looked at first. It is not read any more once the threshold has
been set by hand; but setting the flush switch by hand does not keep it from being read. So a flush
switch that is set before the first look is lost, unless the threshold is set in between.

* `Run.governed`: the environment is read once at most; what the threshold and the flush switch are, as
  functions of what has been done; and when a flush switch that is set by hand stays.
* `flush_lost`: one that does not.
-/
namespace VmHost.Log

namespace Settings

/-- The settings after an operation, which can always be carried out. -/
def step (env : Environment) (s : Settings) (op : Op) : Option Settings := some (op.after env s)

abbrev Moment := Machine.Moment Settings Op

/-- Everything that a process has done with its log settings. -/
abbrev Run (env : Environment) (past : List Moment) (s : Settings) : Prop :=
  Machine.Run (step env) start past s

/-- The environment is read at a step. -/
def readsAt (m : Moment) : Bool := m.label.reads m.before

/-- The threshold that was set by hand last. -/
def lastLevel? : List Moment → Option Level
  | [] => none
  | m :: past =>
    match m.label with
    | .setLevel l => some l
    | _ => lastLevel? past

/-- The flush switch as it was decided last, by hand or by a reading of the environment. -/
def lastFlush? (env : Environment) : List Moment → Option Bool
  | [] => none
  | m :: past =>
    match m.label with
    | .setFlush b => some b
    | _ => if readsAt m then some (env.switch flushVariable false) else lastFlush? env past

/-- The threshold that the environment asks for. -/
def wantedLevel (env : Environment) : Level := (env.read? levelVariable Level.parse?).getD .info

/-- What the settings are after a run. -/
structure Governed (env : Environment) (past : List Moment) (s : Settings) : Prop where
  /-- The environment is read once at most. -/
  once : past.countP readsAt ≤ 1
  /-- The threshold is the one set last by hand, else that of the environment. -/
  level : Op.level.answer env s = .level ((lastLevel? past).getD (wantedLevel env))
  shown : ∀ l, (Op.enabled l).answer env s =
    .bool (l.shownAt ((lastLevel? past).getD (wantedLevel env)))
  /-- The flush switch is what was decided last, as long as the environment is not read just now. -/
  flush : Op.flush.answer env s =
    .bool (if s.ready then (lastFlush? env past).getD false else env.switch flushVariable false)
  /-- A flush switch that is set by hand is what is found until it is set again, exactly if the environment
  is not read meanwhile, or asks for the same. -/
  kept : ∀ b past₂ t, Machine.Run (step env) ((Op.setFlush b).after env s) past₂ t →
    (∀ m ∈ past₂, ∀ b', m.label ≠ .setFlush b') →
    (Op.flush.answer env t = .bool b ↔
      (t.ready = true ∧ ∀ m ∈ past₂, readsAt m = false) ∨ env.switch flushVariable false = b)

/-- What the settings have to do with what was done. -/
structure Traced (env : Environment) (past : List Moment) (s : Settings) : Prop where
  once : past.countP readsAt ≤ if s.ready then 1 else 0
  level : (s.prepare env).level = (lastLevel? past).getD (wantedLevel env)
  flush : s.flush = (lastFlush? env past).getD false

variable {env : Environment} {past : List Moment} {s t : Settings} {op : Op}

/-! ## One step -/

theorem prepare_of_ready (h : s.ready = true) : s.prepare env = s := if_pos h

theorem ready_prepare : (s.prepare env).ready = true := by
  unfold prepare
  split
  · assumption
  · rfl

theorem prepare_prepare : (s.prepare env).prepare env = s.prepare env := prepare_of_ready ready_prepare

theorem reads_of_ready (h : s.ready = true) : op.reads s = false := by
  unfold Op.reads
  rw [h, Bool.not_true, Bool.and_false]

/-- The environment does not matter again. -/
theorem ready_after (h : s.ready = true) : (op.after env s).ready = true := by
  unfold Op.after
  simp only [prepare_of_ready h, ite_self]
  cases op <;> first | exact h | rfl

theorem ready_of_reads (h : op.reads s = true) : (op.after env s).ready = true := by
  unfold Op.reads at h
  rw [Bool.and_eq_true] at h
  unfold Op.after
  simp only [h.1, if_true]
  cases op <;> first | exact ready_prepare | rfl

/-- The threshold, if it is looked at afterwards. -/
theorem level_after : ((op.after env s).prepare env).level =
    match op with
    | .setLevel l => l
    | _ => (s.prepare env).level := by
  cases op with
  | setLevel => rfl
  | setFlush b =>
    show ((s.setFlush b).prepare env).level = (s.prepare env).level
    unfold prepare setFlush load
    dsimp only
    split <;> rfl
  | prepare | level | flush | print => exact congrArg Settings.level prepare_prepare
  | enabled l | log l =>
    unfold Op.after
    simp only
    split
    · rw [prepare_prepare]
    · rfl

theorem flush_after : (op.after env s).flush =
    match op with
    | .setFlush b => b
    | _ => if op.reads s then env.switch flushVariable false else s.flush := by
  unfold Op.after Op.reads prepare
  cases op <;> cases hr : s.ready <;> simp [Op.looks, setLevel, setFlush, load, hr] <;> split <;> rfl

/-- The flush switch, if it is looked at. -/
theorem flush_prepare :
    (s.prepare env).flush = if s.ready then s.flush else env.switch flushVariable false := by
  unfold prepare
  split <;> rfl

theorem lastFlush?_cons : lastFlush? env (⟨s, op, t⟩ :: past) =
    match op with
    | .setFlush b => some b
    | _ => if op.reads s then some (env.switch flushVariable false) else lastFlush? env past :=
  rfl

namespace Traced

theorem start : Traced env [] .start where
  once := Nat.zero_le _
  level := rfl
  flush := rfl

theorem step (ht : Traced env past s) : Traced env (⟨s, op, op.after env s⟩ :: past) (op.after env s) where
  once := by
    have hle := ht.once
    rw [List.countP_cons]
    show _ + (if op.reads s = true then 1 else 0) ≤ _
    cases hr : s.ready with
    | true =>
      rw [reads_of_ready hr, ready_after hr]
      rw [hr] at hle
      exact hle
    | false =>
      rw [hr] at hle
      split
      · rename_i h
        rw [ready_of_reads h]
        exact Nat.add_le_add_right hle 1
      · exact Nat.le_trans hle (Nat.zero_le _)
  level := by
    rw [level_after, ht.level]
    cases op <;> rfl
  flush := by
    rw [flush_after, ht.flush]
    rw [lastFlush?_cons]
    cases op <;> first | rfl | (dsimp only; split <;> rfl)

end Traced

/-! ## Whole runs -/

theorem Run.traced (h : Run env past s) : Traced env past s := by
  induction h with
  | start => exact .start
  | step op _ hs ih =>
    obtain rfl := Option.some.inj hs
    exact ih.step

/-- The flush switch is as it was in the beginning, or as it was read. -/
theorem flush_of_run (h : Machine.Run (step env) s past t)
    (hn : ∀ m ∈ past, ∀ b, m.label ≠ .setFlush b) :
    t.flush = if past.any readsAt then env.switch flushVariable false else s.flush := by
  induction h with
  | start => rfl
  | @step past u _ op _ hs ih =>
    rw [List.forall_mem_cons] at hn
    obtain rfl := Option.some.inj hs
    have hop : (op.after env u).flush =
        if op.reads u then env.switch flushVariable false else u.flush := by
      rw [flush_after]
      cases op with
      | setFlush b => exact absurd rfl (hn.1 b)
      | _ => rfl
    rw [hop, ih hn.2, List.any_cons]
    show _ = if (op.reads u || past.any readsAt) = true then _ else _
    cases op.reads u <;> rfl

theorem flush_kept_iff {b : Bool} (h : Machine.Run (step env) (s.setFlush b) past t)
    (hn : ∀ m ∈ past, ∀ b', m.label ≠ .setFlush b') :
    Op.flush.answer env t = .bool b ↔
      (t.ready = true ∧ ∀ m ∈ past, readsAt m = false) ∨ env.switch flushVariable false = b := by
  have hf : t.flush = if past.any readsAt then env.switch flushVariable false else b :=
    flush_of_run h hn
  show Answer.bool (t.prepare env).flush = _ ↔ _
  rw [Answer.bool.injEq, flush_prepare, hf]
  cases t.ready with
  | false => simp
  | true =>
    cases ha : past.any readsAt with
    | false =>
      rw [List.any_eq_false] at ha
      simp only [if_true, Bool.false_eq_true, if_false, true_iff]
      exact .inl ⟨trivial, fun m hm => Bool.eq_false_iff.mpr (ha m hm)⟩
    | true =>
      obtain ⟨m, hm, hr⟩ := List.any_eq_true.mp ha
      simp only [if_true]
      refine ⟨.inr, fun hk => hk.resolve_left fun hk => ?_⟩
      cases (hk.2 m hm).symm.trans hr

/-- **Who decides about the log**, for every environment and after every run of a process. -/
theorem Run.governed (h : Run env past s) : Governed env past s where
  once := by
    have hle := h.traced.once
    split at hle <;> omega
  level := congrArg Answer.level h.traced.level
  shown l := by
    rw [← h.traced.level]
    cases l <;> rfl
  flush := by
    show Answer.bool (s.prepare env).flush = _
    rw [flush_prepare, h.traced.flush]
  kept _ _ _ hr hn := flush_kept_iff hr hn

/-! ### What is set first -/

/-- The environment asks for the threshold `debug`, and not for flushing. -/
def asking : Environment := ⟨[(levelVariable, [0x64, 0x65, 0x62, 0x75, 0x67])]⟩

/-- The flush switch is set when a line has been logged. -/
theorem governed_asking : ∃ past s, Run asking past s ∧
    past.map (·.label) = [.setFlush true, .log .debug] ∧
    Op.level.answer asking s = .level .debug ∧ Op.flush.answer asking s = .bool true ∧
    Governed asking past s := by
  obtain ⟨past, s, h, hp⟩ := Machine.exists_run (step asking) .start
    (fun past s => past.map (·.label) = [.setFlush true, .log .debug] ∧
      Op.level.answer asking s = .level .debug ∧ Op.flush.answer asking s = .bool true)
    [.log .debug, .setFlush true] (by decide +kernel)
  simp only [decide_eq_true_eq] at hp
  exact ⟨past, s, h, hp.1, hp.2.1, hp.2.2, Run.governed h⟩

/-- A flush switch that is set first of all is lost: the next look reads the environment, and replaces
it. -/
theorem flush_lost : ∃ past s, Run asking past s ∧ past.map (·.label) = [.setFlush true] ∧
    Op.flush.answer asking s = .bool false := by
  obtain ⟨past, s, h, hp⟩ := Machine.exists_run (step asking) .start
    (fun past s => past.map (·.label) = [.setFlush true] ∧ Op.flush.answer asking s = .bool false)
    [.setFlush true] (by decide +kernel)
  simp only [decide_eq_true_eq] at hp
  exact ⟨past, s, h, hp⟩

end Settings
end VmHost.Log
