import VmHost.Monitor.Client
import VmHost.Proofs.Monitor.Blocking
import VmHost.Proofs.Monitor.Episode

/-!
# Worlds and runs

A step of a world is a call of a thread, a change of values without a call, or a step of the monitors
(`World.Turn`, `World.step_iff`). A `World.History` is a world that can be reached together with what
its monitors have done. Since each OS thread passes the identity of its own number only, that is a
disciplined run, and what holds in all of these holds for the monitors of a world
(`World.History.run`).
-/
namespace VmHost.Monitor.World

open State

variable {Shared Own : Type} [Inhabited Own]

/-- What a step of a thread can be. -/
inductive Turn (client : Client Shared Own) (w : World Shared Own) (o : OsThread) :
    World Shared Own → Prop
  | calls {r c shared own m} : w.monitors.point o = .rest r →
      client w.shared (w.own.get o) r = .call c shared own →
      w.monitors.step (.call o o c) = some m → Turn client w o ⟨m, shared, w.own.set o own⟩
  | changes {r shared own} : w.monitors.point o = .rest r → w.monitors.violation = none →
      client w.shared (w.own.get o) r = .change shared own →
      Turn client w o ⟨w.monitors, shared, w.own.set o own⟩
  | advances {m} : w.monitors.step (.advance o) = some m → Turn client w o ⟨m, w.shared, w.own⟩

variable {client : Client Shared Own} {w v w₀ : World Shared Own} {o : OsThread}
  {r : Option Reply}

theorem step_rest (hv : w.monitors.violation = none) (hr : w.monitors.point o = .rest r) :
    w.step client o = w.move client o r := by
  simp [step, hv, hr]

theorem step_busy (hv : w.monitors.violation = none) (hr : ∀ r, w.monitors.point o ≠ .rest r) :
    w.step client o = (w.monitors.step (.advance o)).map fun m => { w with monitors := m } := by
  unfold step
  rw [hv]
  cases hp : w.monitors.point o with
  | rest r => exact absurd hp (hr r)
  | _ => rfl

/-- The steps that a thread can take are those of the list. -/
theorem step_iff : w.step client o = some v ↔ Turn client w o v := by
  constructor
  · intro h
    have hv : w.monitors.violation = none := by
      unfold step at h
      split at h
      · cases h
      · rename_i hv
        simpa using hv
    by_cases hr : ∃ r, w.monitors.point o = .rest r
    · obtain ⟨r, hr⟩ := hr
      rw [step_rest hv hr, move] at h
      split at h
      · rename_i c shared own hc
        obtain ⟨m, hm, rfl⟩ := Option.map_eq_some_iff.mp h
        exact .calls hr hc hm
      · rename_i shared own hc
        cases h
        exact .changes hr hv hc
      · cases h
    · rw [step_busy hv fun r e => hr ⟨r, e⟩] at h
      obtain ⟨m, hm, rfl⟩ := Option.map_eq_some_iff.mp h
      exact .advances hm
  · intro h
    cases h with
    | calls hr hc hm => simp [step_rest (step_violation hm) hr, move, hc, hm]
    | changes hr hv hc => simp [step_rest hv hr, move, hc]
    | advances hm => simp [step_busy (step_violation hm) (busy_of_advance hm).1, hm]

/-- A thread at rest goes on if its client has something to do. -/
theorem step_of_move (hv : w.monitors.violation = none) (hr : w.monitors.point o = .rest r)
    (hc : client w.shared (w.own.get o) r ≠ .stop) : ∃ v, w.step client o = some v := by
  cases hm : client w.shared (w.own.get o) r with
  | call c shared own => exact ⟨_, step_iff.mpr (.calls hr hm (step_call hv hr))⟩
  | change shared own => exact ⟨_, step_iff.mpr (.changes hr hv hm)⟩
  | stop => exact absurd hm hc

/-! ## What the monitors have done -/

/-- What the monitors do in the next step of a thread, if they do anything. -/
def label? (client : Client Shared Own) (w : World Shared Own) (o : OsThread) : Option Label :=
  match w.monitors.point o with
  | .rest r =>
    match client w.shared (w.own.get o) r with
    | .call c .. => some (.call o o c)
    | _ => none
  | _ => some (.advance o)

/-- A world that can be reached from a first one, and the steps of the monitors on the way to it, the
last one first. -/
inductive History (client : Client Shared Own) (w₀ : World Shared Own) :
    List Moment → World Shared Own → Prop
  | start : History client w₀ [] w₀
  | step {past : List Moment} {w v : World Shared Own} (o : OsThread) :
    History client w₀ past w → w.step client o = some v →
    History client w₀ (((w.label? client o).map (⟨w.monitors, ·, v.monitors⟩)).toList ++ past) v

variable {past newer : List Moment}

theorem label?_busy (hr : ∀ r, w.monitors.point o ≠ .rest r) :
    w.label? client o = some (.advance o) := by
  unfold label?
  cases hp : w.monitors.point o with
  | rest r => exact absurd hp (hr r)
  | _ => rfl

/-- In the step of a thread, the monitors take a step that fits its number, or none. -/
theorem step_label? (h : w.step client o = some v) :
    (∃ l, w.label? client o = some l ∧ l.Fits id ∧ w.monitors.step l = some v.monitors) ∨
      w.label? client o = none ∧ v.monitors = w.monitors := by
  cases step_iff.mp h with
  | @calls _ c _ _ _ hr hc hm => exact .inl ⟨.call o o c, by simp [label?, hr, hc], fun _ => rfl, hm⟩
  | changes hr _ hc => exact .inr ⟨by simp [label?, hr, hc], rfl⟩
  | advances hm => exact .inl ⟨.advance o, label?_busy (busy_of_advance hm).1, trivial, hm⟩

/-- The monitors of a world have a disciplined run. -/
theorem History.run (h : History client w₀ past w) (h₀ : w₀.monitors = .start) :
    Run id past w.monitors := by
  induction h with
  | start => exact h₀ ▸ .start
  | step o _ hs ih =>
    rcases step_label? hs with ⟨l, hl, hf, hm⟩ | ⟨hl, hm⟩ <;> rw [hl]
    · exact ih.step l hf hm
    · rw [hm]
      exact ih

/-- The worlds that can be reached are those that have a history. -/
theorem reachable_iff : Reachable client w₀ w ↔ ∃ past, History client w₀ past w := by
  constructor
  · intro h
    induction h with
    | refl => exact ⟨[], .start⟩
    | step o _ hs ih =>
      obtain ⟨past, hp⟩ := ih
      exact ⟨_, hp.step o hs⟩
  · rintro ⟨past, h⟩
    induction h with
    | start => exact .refl
    | step o _ hs ih => exact ih.step o hs

/-- The worlds on the way have been reached before. -/
theorem History.older (h : History client w₀ (newer ++ past) w) : ∃ u, History client w₀ past u := by
  generalize e : newer ++ past = all at h
  induction h generalizing newer with
  | start => exact ⟨w₀, by simpa [(List.append_eq_nil_iff.mp e).2] using .start⟩
  | @step all w v o h hs ih =>
    cases newer with
    | nil =>
      obtain rfl : past = _ := e
      exact ⟨v, h.step o hs⟩
    | cons x newer =>
      cases hl : w.label? client o with
      | none =>
        rw [hl] at e
        exact ih e
      | some l =>
        rw [hl] at e
        exact ih (List.cons.inj e).2

/-! ## Worlds without a step -/

/-- No thread has a step. -/
def Stuck (client : Client Shared Own) (w : World Shared Own) : Prop :=
  ∀ o v, w.step client o ≠ some v

theorem Stuck.monitors (h : w.Stuck client) : w.monitors.Stuck := fun o _ hs =>
  h o _ (step_iff.mpr (.advances hs))

theorem isOver_iff : w.isOver client o = true ↔
    ∃ r, w.monitors.point o = .rest r ∧ client w.shared (w.own.get o) r = .stop := by
  unfold isOver
  cases w.monitors.point o with
  | rest r => cases hc : client w.shared (w.own.get o) r <;> simp [hc]
  | _ => simp

/-- Who rests where nobody has a step has nothing to do any more. -/
theorem Stuck.isOver (h : w.Stuck client) (hv : w.monitors.violation = none)
    (hr : w.monitors.point o = .rest r) : w.isOver client o = true := by
  refine isOver_iff.mpr ⟨r, hr, Classical.byContradiction fun hc => ?_⟩
  obtain ⟨v, hs⟩ := step_of_move hv hr hc
  exact h o v hs

/-! ## Taking turns -/

theorem Reachable.round (h : Reachable client w₀ w) (n : Nat) :
    Reachable client w₀ (w.round client n).2 := by
  induction n with
  | zero => exact h
  | succ n ih =>
    simp only [World.round]
    split
    · rename_i hs
      exact ih.step n hs
    · exact ih

/-- A world that threads reach taking turns. -/
theorem Reachable.turns (h : Reachable client w₀ w) (n fuel : Nat) :
    Reachable client w₀ (World.run client n fuel w) := by
  induction fuel generalizing w with
  | zero => exact h
  | succ fuel ih =>
    have hw := h.round n
    simp only [World.run]
    split <;> rename_i e <;> rw [e] at hw
    · exact ih hw
    · exact hw

end VmHost.Monitor.World
