import VmHost.Snapshot.Disk

/-!
# Where a path leads

A directory may be written with any number of slashes at its end, and a file in it by one slash and a
name after the directory without them.

* `enter_empty`: slashes at the end of a path to a directory change nothing (`directory?_slashes`), and
  nothing but slashes leads to the root (`directory?_root`).
* `resolve?_child`: a name after a path is found in the directory that the path leads to.
* `entry?_add`, `append_add`: a new file is all that changes.
-/
namespace VmHost.Disk

variable {d : Disk} {p q : Path} {a b name : Bytes} {cs : List Bytes}

/-! ## Components -/

theorem components_ne_nil (a : Bytes) : components a ≠ [] := by
  cases a with
  | nil => nofun
  | cons x a =>
    rw [components]
    split
    · nofun
    · split <;> nofun

theorem components_append (a b : Bytes) :
    components (a ++ slash :: b) = components a ++ components b := by
  induction a with
  | nil => simp [components]
  | cons x a ih =>
    rw [List.cons_append, components, components, ih]
    split
    · rfl
    · cases h : components a with
      | nil => exact absurd h (components_ne_nil a)
      | cons c cs => rfl

theorem components_eq_singleton (h : slash ∉ a) : components a = [a] := by
  induction a with
  | nil => rfl
  | cons x a ih =>
    obtain ⟨hx, ha⟩ := List.ne_and_not_mem_of_not_mem_cons h
    rw [components, if_neg (Ne.symm hx), ih ha]

/-! ## Following components -/

theorem followAll_append (p : Path) (cs es : List Bytes) :
    d.followAll p (cs ++ es) = (d.followAll p cs).bind (d.followAll · es) := by
  induction cs generalizing p with
  | nil => rfl
  | cons c cs ih => simp only [List.cons_append, followAll, ih, Option.bind_assoc]

/-- The directory that components lead to. -/
def enter (d : Disk) (p : Path) (cs : List Bytes) : Option Path :=
  (d.followAll p cs).filter d.isDirectory

/-- The directory that a path names. -/
def directory? (d : Disk) (path : Bytes) : Option Path := (d.resolve? path).filter d.isDirectory

/-- The name of an entry: not empty, of one component, and none of those that lead elsewhere. -/
structure IsName (name : Bytes) : Prop where
  nonempty : name ≠ []
  noSlash : slash ∉ name
  noDot : name ≠ [0x2E]
  noDots : name ≠ [0x2E, 0x2E]
  fits : name.length ≤ nameLimit

theorem follow_nil (p : Path) : d.follow p [] = if d.isDirectory p then some p else none := by
  rw [follow]
  split <;> simp_all

theorem follow_name (h : IsName name) (p : Path) :
    d.follow p name = if d.isDirectory p then some (p ++ [name]) else none := by
  rw [follow, if_neg (not_or.mpr ⟨h.nonempty, h.noDot⟩), if_neg h.noDots,
    if_neg (Nat.not_lt.mpr h.fits)]
  split <;> simp_all

/-- An entry of a directory is found in it. -/
theorem followAll_name (h : IsName name) (p : Path) (cs : List Bytes) :
    d.followAll p (cs ++ [name]) = (d.enter p cs).map (· ++ [name]) := by
  rw [followAll_append, enter]
  cases d.followAll p cs with
  | none => rfl
  | some q =>
    simp only [Option.bind_some, followAll, follow_name h, Option.filter_some]
    split <;> rfl

/-- Slashes at the end change nothing. -/
theorem enter_empty (p : Path) (cs : List Bytes) (k : Nat) :
    d.enter p (cs ++ List.replicate k []) = d.enter p cs := by
  induction k generalizing cs with
  | zero => rw [List.replicate_zero, List.append_nil]
  | succ k ih =>
    rw [List.replicate_succ, List.append_cons, ih, enter, enter, followAll_append]
    cases d.followAll p cs with
    | none => rfl
    | some q =>
      simp only [Option.bind_some, followAll, follow_nil, Option.filter_some]
      split <;> simp_all

/-! ## Following paths -/

theorem components_append_slashes (a : Bytes) (k : Nat) :
    components (a ++ List.replicate k slash) = components a ++ List.replicate k [] := by
  induction k generalizing a with
  | zero => simp
  | succ k ih =>
    rw [List.replicate_succ, components_append, ← List.nil_append (List.replicate k slash), ih,
      List.replicate_succ]
    rfl

/-- Where a path starts. -/
def origin (d : Disk) (path : Bytes) : Path := if path.head? = some slash then [] else d.working

theorem resolve?_eq (hn : a ≠ []) (hl : a.length < pathLimit) :
    d.resolve? a = d.followAll (d.origin a) (components a) :=
  if_neg (not_or.mpr ⟨hn, Nat.not_le.mpr hl⟩)

/-- A path to a directory may have slashes at its end. They do not matter for the entries of the
directory, even if there is nothing else. -/
theorem origin_child {k : Nat} (hn : a ++ List.replicate k slash ≠ []) :
    d.origin (a ++ slash :: name) = d.origin (a ++ List.replicate k slash) := by
  cases a with
  | cons x a => rfl
  | nil =>
    cases k with
    | zero => exact absurd rfl hn
    | succ k => rfl

/-- An entry is found in the directory that the path before its name leads to. -/
theorem resolve?_child {k : Nat} (h : IsName name) (hn : a ++ List.replicate k slash ≠ [])
    (hd : (a ++ List.replicate k slash).length < pathLimit)
    (hl : (a ++ slash :: name).length < pathLimit) :
    d.resolve? (a ++ slash :: name) =
      (d.directory? (a ++ List.replicate k slash)).map (· ++ [name]) := by
  rw [resolve?_eq (by simp) hl, origin_child hn, components_append, components_eq_singleton h.noSlash,
    followAll_name h, directory?, resolve?_eq hn hd, components_append_slashes, ← enter, enter_empty]

/-- Slashes at the end of a path to a directory do not matter. -/
theorem directory?_slashes {k : Nat} (hn : a ≠ []) (hl : (a ++ List.replicate k slash).length < pathLimit) :
    d.directory? (a ++ List.replicate k slash) = d.directory? a := by
  have ha : a.length < pathLimit := Nat.lt_of_le_of_lt (by simp) hl
  have ho : d.origin (a ++ List.replicate k slash) = d.origin a := by
    cases a with
    | nil => exact absurd rfl hn
    | cons x a => rfl
  rw [directory?, resolve?_eq (by simp [hn]) hl, ho, components_append_slashes, ← enter, enter_empty,
    enter, ← resolve?_eq hn ha, ← directory?]

/-- Nothing but slashes is a path to the root. -/
theorem directory?_root {k : Nat} (hk : k ≠ 0) (hl : k < pathLimit) :
    d.directory? (List.replicate k slash) = some [] := by
  obtain ⟨j, rfl⟩ := Nat.exists_eq_succ_of_ne_zero hk
  have hc : components (List.replicate (j + 1) slash) = [] ++ List.replicate (j + 2) [] :=
    components_append_slashes [] (j + 1)
  rw [directory?, resolve?_eq (by simp) (by simpa using hl), hc, ← enter, enter_empty]
  rfl

/-! ## New files -/

/-- The disk with one more file. -/
def add (d : Disk) (p : Path) (content : Bytes) : Disk :=
  { d with entries := (p, .file content) :: d.entries }

theorem entry?_eq_none_iff : d.entry? p = none ↔ p ≠ [] ∧ ∀ e ∈ d.entries, e.1 ≠ p := by
  rw [Disk.entry?]
  split
  · rename_i hp
    simp [hp]
  · rename_i hp
    simp only [List.lookup_eq_none_iff, bne_iff_ne, ne_eq, hp, not_false_eq_true, true_and,
      eq_comm (a := p)]

theorem entry?_add (hp : p ≠ []) (content : Bytes) :
    Disk.entry? (d.add p content) q = if q = p then some (.file content) else d.entry? q := by
  simp only [Disk.entry?, add, List.lookup_cons]
  split
  · rename_i hq
    rw [if_neg (hq ▸ hp.symm)]
  · by_cases e : q = p <;> simp [e, beq_eq_false_iff_ne.mpr]

/-- Only the new file gets the bytes. -/
theorem append_add (hp : d.entry? p = none) (a b : Bytes) :
    (d.add p a).append p b = d.add p (a ++ b) := by
  obtain ⟨-, hp⟩ := entry?_eq_none_iff.mp hp
  simp only [append, add, List.map_cons, if_true]
  congr 2
  refine (List.map_congr_left fun e he => ?_).trans (List.map_id _)
  obtain ⟨q, content | -⟩ := e
  · simp [hp _ he]
  · rfl

theorem create_eq {path : Bytes} (h : d.resolve? path = some p) :
    d.create path = if (d.entry? p).isNone then .created p (d.add p []) else .occupied := by
  simp only [create, h]
  cases d.entry? p <;> simp [add]

theorem create_failed {path : Bytes} (h : d.resolve? path = none) : d.create path = .failed := by
  rw [create, h]

theorem of_create {path : Bytes} {d' : Disk} (h : d.create path = .created p d') :
    d.entry? p = none ∧ d' = d.add p [] := by
  rw [create] at h
  split at h
  · cases h
  · split at h
    · cases h
    · rename_i hn
      cases h
      exact ⟨hn, rfl⟩

end VmHost.Disk
