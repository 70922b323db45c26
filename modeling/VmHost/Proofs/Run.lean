/-!
# Runs of a machine

A machine is given by what happens at a label, if it can happen. A `Run` is everything that has
happened since a first state. `Run.split` takes it apart at one of its steps, and `exists_run` finds a
run with a given end by taking the steps of a list of labels.
-/
namespace VmHost.Machine

variable {σ α : Type}

/-- A step that was taken, with the states before and after it. -/
structure Moment (σ α : Type) where
  before : σ
  label : α
  after : σ

/-- All runs from a first state: the steps, the last one first, and the state reached. -/
inductive Run (step : σ → α → Option σ) (s₀ : σ) : List (Moment σ α) → σ → Prop
  | start : Run step s₀ [] s₀
  | step {past : List (Moment σ α)} {s t : σ} (l : α) : Run step s₀ past s → step s l = some t →
      Run step s₀ (⟨s, l, t⟩ :: past) t

/-- The run that goes on with these labels, if there is one. -/
def replay (step : σ → α → Option σ) :
    List α → List (Moment σ α) → σ → Option (List (Moment σ α) × σ)
  | [], past, s => some (past, s)
  | l :: ls, past, s => (step s l).bind fun t => replay step ls (⟨s, l, t⟩ :: past) t

variable {step : σ → α → Option σ} {s₀ s t : σ} {past past' later earlier : List (Moment σ α)}
  {m : Moment σ α} {ls : List α}

/-- A step of a run was taken in a state that the run had reached. -/
theorem Run.split (h : Run step s₀ (later ++ m :: earlier) s) :
    Run step s₀ earlier m.before ∧ step m.before m.label = some m.after := by
  induction later generalizing s with
  | nil =>
    cases h with
    | step l hr hs => exact ⟨hr, hs⟩
  | cons x later ih =>
    cases h with
    | step l hr _ => exact ih hr

theorem Run.of_mem (h : Run step s₀ past s) (hm : m ∈ past) :
    ∃ earlier, Run step s₀ earlier m.before ∧ step m.before m.label = some m.after := by
  obtain ⟨later, earlier, rfl⟩ := List.append_of_mem hm
  exact ⟨earlier, h.split⟩

/-- A run goes on with a run from its end. -/
theorem Run.append (h : Run step s₀ past s) (h' : Run step s past' t) :
    Run step s₀ (past' ++ past) t := by
  induction h' with
  | start => exact h
  | step l _ hs ih => exact ih.step l hs

theorem Run.replay (h : Run step s₀ past s) (hr : replay step ls past s = some (past', t)) :
    Run step s₀ past' t := by
  induction ls generalizing past s with
  | nil =>
    cases hr
    exact h
  | cons l ls ih =>
    unfold Machine.replay at hr
    cases hs : step s l with
    | none => simp [hs] at hr
    | some u =>
      rw [hs] at hr
      exact ih (h.step l hs) hr

/-- A list of labels that leads to the end that is asked for. -/
theorem exists_run (step : σ → α → Option σ) (s₀ : σ) (p : List (Moment σ α) → σ → Bool)
    (ls : List α) (h : (replay step ls [] s₀).any (fun r => p r.1 r.2)) :
    ∃ past s, Run step s₀ past s ∧ p past s = true := by
  cases hr : replay step ls [] s₀ with
  | none => simp [hr] at h
  | some r =>
    rw [hr] at h
    exact ⟨r.1, r.2, Run.start.replay hr, h⟩

end VmHost.Machine
