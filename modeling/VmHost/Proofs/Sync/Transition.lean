import VmHost.Sync.Event

/-!
# What one step of an event can do

`Transition s l t` lists the outcomes of `State.step`: what a step needed, and the whole state after
it. Three steps touch more than the thread that takes them: a setter that finds the word clear, the
setter's call to the kernel, which ends every sleep, and a resetter. All other steps of a thread are in
`Moves`.

* `step_transition`: a step that can be taken is one of the list.
-/
namespace VmHost.Event

namespace State

variable {s : State} {o x : OsThread} {p : Point}

@[simp] theorem get_moveTo :
    (s.moveTo o p).threads.get x = if x = o then p else s.threads.get x := Row.get_set ..

theorem get_wake : (s.threads.map wake).get x = wake (s.threads.get x) := Row.get_map _ _ rfl _

end State

open State

/-- An OS thread goes on without writing the word and without waking anybody. -/
inductive Moves (s : State) (o : OsThread) : Point → Prop
  /-- Another setter was here before, and has woken all or is about to. -/
  | relies : s.threads.get o = .swapping → s.signaled = true → Moves s o (.out none)
  | times {ms} : s.threads.get o = .timing ms → Moves s o (.reading (some (s.now + ms)))
  | sees {d} : s.threads.get o = .reading d → s.signaled = true → Moves s o (.out (some true))
  | misses {d} : s.threads.get o = .reading (some d) → s.signaled = false → Moves s o (.weighing d)
  | lingers : s.threads.get o = .reading none → s.signaled = false → Moves s o (.dozing none)
  | expires {d} : s.threads.get o = .weighing d → d ≤ s.now → Moves s o (.out (some false))
  | stays {d} : s.threads.get o = .weighing d → s.now < d → Moves s o (.dozing (some d))
  | sleeps {d} : s.threads.get o = .dozing d → s.signaled = false → Moves s o (.asleep d)
  /-- The kernel sees the signal that the thread has not seen. -/
  | returns {d} : s.threads.get o = .dozing d → s.signaled = true → Moves s o (.reading d)

/-- What a step needs, and the state after it. -/
inductive Transition (s : State) : Label → State → Prop
  | calls {o op a} : s.threads.get o = .out a → Transition s (.call o op) (s.moveTo o (first op))
  | moves {o p} : Moves s o p → Transition s (.advance o) (s.moveTo o p)
  | swaps {o} : s.threads.get o = .swapping → s.signaled = false →
      Transition s (.advance o) ({ s with signaled := true }.moveTo o .waking)
  | wakes {o} : s.threads.get o = .waking →
      Transition s (.advance o) ({ s with threads := s.threads.map wake }.moveTo o (.out none))
  | clears {o} : s.threads.get o = .clearing →
      Transition s (.advance o) ({ s with signaled := false }.moveTo o (.out none))
  | rouses {o d} : s.threads.get o = .asleep d →
      Transition s (.rouse o) (s.moveTo o (.reading d))
  | passes {ms} : Transition s (.pass ms) { s with now := s.now + ms }

variable {s t : State} {o : OsThread} {l : Label}

theorem advance_transition (h : s.advance o = some t) : Transition s (.advance o) t := by
  unfold advance at h
  cases hp : s.threads.get o with
  | out a | asleep d => simp [hp] at h
  | swapping =>
    simp only [hp, Option.some.injEq] at h
    subst h
    cases hw : s.signaled with
    | true =>
      have he : { s with signaled := true } = s := by rw [← hw]
      rw [he]
      exact .moves (.relies hp hw)
    | false => exact .swaps hp hw
  | waking =>
    simp only [hp, Option.some.injEq] at h
    subst h
    exact .wakes hp
  | clearing =>
    simp only [hp, Option.some.injEq] at h
    subst h
    exact .clears hp
  | timing ms =>
    simp only [hp, Option.some.injEq] at h
    subst h
    exact .moves (.times hp)
  | reading d =>
    simp only [hp, Option.some.injEq] at h
    subst h
    cases hw : s.signaled with
    | true => exact .moves (.sees hp hw)
    | false =>
      cases d with
      | none => exact .moves (.lingers hp hw)
      | some d => exact .moves (.misses hp hw)
  | weighing d =>
    simp only [hp, Option.some.injEq] at h
    subst h
    split
    · exact .moves (.expires hp ‹_›)
    · exact .moves (.stays hp (Nat.lt_of_not_le ‹_›))
  | dozing d =>
    simp only [hp, Option.some.injEq] at h
    subst h
    cases hw : s.signaled with
    | true => exact .moves (.returns hp hw)
    | false => exact .moves (.sleeps hp hw)

theorem step_transition (h : s.step l = some t) : Transition s l t := by
  cases l with
  | call o op =>
    simp only [step] at h
    split at h
    · rename_i a ha
      obtain rfl := Option.some.inj h
      exact .calls ha
    · cases h
  | advance o => exact advance_transition h
  | rouse o =>
    simp only [step] at h
    split at h
    · rename_i d hd
      obtain rfl := Option.some.inj h
      exact .rouses hd
    · cases h
  | pass ms =>
    obtain rfl := Option.some.inj h
    exact .passes

end VmHost.Event
