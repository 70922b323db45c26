import VmHost.Executable
import VmHost.Host

/-!
# Starting threads

A thread is started with a stack of its own, whose size the operating system may refuse, or an OS
thread that runs already is adopted. Both leave a line in the log with the number of the thread.
-/
namespace VmHost.Host

/-- The size of the unusable page at the end of a stack. -/
def guardSize : Nat := 4096

/-- The error number of a refusal to create an OS thread with a stack of this size, with its
text. -/
def refusal? (stack : Nat) : Option (Int × String) :=
  if UInt64.size ≤ stack + guardSize then some (22, "Invalid argument (os error 22)")
  else if commitLimit ≤ stack then some (11, "Resource temporarily unavailable (os error 11)")
  else none

/-- Starts thread number `id`.
mirrors `Thread.start` -/
def startThread (h : Host) (id stack : Nat) : Except Error Unit × Host :=
  match refusal? stack with
  | some (errno, text) =>
    (.error (.exhausted ⟨.thread, errno⟩),
      h.log .warn ("failed to start thread " ++ toString id ++ ": " ++ text))
  | none => (.ok (), h.log .debug ("started thread " ++ toString id))

/-- Starts so many threads with a stack of this size, numbered from `first` on. -/
def startThreads (h : Host) (first count stack : Nat) : Host :=
  (List.range count).foldl (fun h k => (h.startThread (first + k) stack).2) h

/-- Adopts the OS thread on which the process began as thread number `id`.
mirrors `Thread.attach` -/
def attachThread (h : Host) (id : Nat) : Host := h.log .debug ("attached thread " ++ toString id)

end VmHost.Host
