import Mathlib.Algebra.Ring.Nat
import Mathlib.Data.List.Forall2
import VmHost.Call.Invocation

/-!
# How arguments reach a native function

A word stands for a value of a type by its low bits only: `NativeType.Holds` says when a register
holds that value, an integer with its sign, a floating-point number bit for bit.

Arguments are placed from left to right, so the registers of a kind hold the arguments of that kind in
their order (`placeAll_eq_ok_iff`), and the first argument without a place is the error
(`placeAll_eq_error_iff`). `Request.answered` puts the calls together: which of them enter the function
and with what, what comes back, why the others are refused, and that nothing but the low bits of the
arguments counts.
-/
namespace VmHost.Call

/-! ## Values in registers -/

namespace NativeType

variable {t : NativeType} {v w : UInt64}

/-- The number of low bits of a word that count for a value of the type. -/
def width : NativeType → Nat
  | .void => 0
  | .int8 => 8
  | .int16 => 16
  | .int32 | .single => 32
  | .int64 | .pointer | .double => 64

/-- A register holds the value that a word of the type stands for. -/
def Holds (t : NativeType) (register raw : UInt64) : Prop :=
  match t with
  | .void => register = 0
  | .single | .double => register.toNat = raw.toNat % 2 ^ t.width
  | .int8 | .int16 | .int32 | .int64 | .pointer =>
    register.toInt64.toInt = Int.bmod raw.toNat (2 ^ t.width)

/-- The two words stand for the same value of the type. -/
def Agree (t : NativeType) (v w : UInt64) : Prop := v.toNat % 2 ^ t.width = w.toNat % 2 ^ t.width

theorem toInt_signExtend {bits : Nat} (h : bits ≤ 64) (w : UInt64) :
    (signExtend bits w).toInt64.toInt = Int.bmod w.toNat (2 ^ bits) := by
  have hb : (signExtend bits w).toInt64.toInt =
      ((w.toBitVec.setWidth bits).signExtend 64).toInt := rfl
  rw [hb, BitVec.toInt_signExtend_of_le h, BitVec.toInt_setWidth, UInt64.toNat_toBitVec]

theorem toInt_toInt64 (w : UInt64) : w.toInt64.toInt = Int.bmod w.toNat (2 ^ 64) :=
  BitVec.toInt_eq_toNat_bmod w.toBitVec

theorem toNat_low (w : UInt64) : (w &&& 0xFFFFFFFF).toNat = w.toNat % 2 ^ 32 := by
  rw [UInt64.toNat_and]
  exact Nat.and_two_pow_sub_one_eq_mod w.toNat 32

/-- Widening a word gives its value. -/
theorem holds_widen (hv : t ≠ .void) (w : UInt64) : t.Holds (t.widen w) w := by
  cases t with
  | void => exact absurd rfl hv
  | int8 => exact toInt_signExtend (by decide) w
  | int16 => exact toInt_signExtend (by decide) w
  | int32 => exact toInt_signExtend (by decide) w
  | int64 => exact toInt_toInt64 w
  | pointer => exact toInt_toInt64 w
  | single => exact toNat_low w
  | double => exact (Nat.mod_eq_of_lt w.toNat_lt).symm

theorem bmod_congr {a b m : Nat} (h : a % m = b % m) : Int.bmod a m = Int.bmod b m := by
  rw [Int.bmod_def, Int.bmod_def, ← Int.natCast_emod, ← Int.natCast_emod, h]

/-- A register holds at most one value of a type. -/
theorem Holds.unique {q r : UInt64} (hq : t.Holds q v) (hr : t.Holds r w) (h : t.Agree v w) :
    q = r := by
  cases t with
  | void => exact Eq.trans hq (Eq.symm hr)
  | single | double => exact UInt64.toNat_inj.mp (Eq.trans hq (Eq.trans h (Eq.symm hr)))
  | int8 | int16 | int32 | int64 | pointer =>
    have hi : q.toInt64.toInt = r.toInt64.toInt := Eq.trans hq (Eq.trans (bmod_congr h) (Eq.symm hr))
    exact UInt64.toBitVec_inj.mp (BitVec.eq_of_toInt_eq hi)

theorem widen_congr (hv : t ≠ .void) (h : t.Agree v w) : t.widen v = t.widen w :=
  (holds_widen hv v).unique (holds_widen hv w) h

theorem isInteger_eq_false_iff : t.isInteger = false ↔ t = .void ∨ t.isFloating = true := by
  cases t <;> simp [isInteger, isFloating]

end NativeType

/-! ## Arguments in registers -/

abbrev Slot := NativeType × UInt64

/-- The argument goes into an integer register. -/
def Slot.isInteger (s : Slot) : Bool := s.1.isInteger

/-- The argument goes into a floating-point register. -/
def Slot.isFloating (s : Slot) : Bool := s.1.isFloating

/-- What the registers of a kind hold for a list of arguments. -/
def images (isKind : Slot → Bool) (slots : List Slot) : List UInt64 :=
  (slots.filter isKind).map fun s => s.1.widen s.2

/-- There is a register for every argument. -/
structure Placed (types : List NativeType) : Prop where
  void : .void ∉ types
  integers : types.countP (·.isInteger) ≤ integerRegisters
  floats : types.countP (·.isFloating) ≤ floatingRegisters

/-- The refusal of an argument for which there is no register. -/
def misplaced (t : NativeType) : Error :=
  if t = .void then .invalidArgument "void argument"
  else if t.isFloating then .unsupported "too many floating-point arguments"
  else .unsupported "too many integer arguments"

namespace RegisterFile

variable {r r' : RegisterFile} {s : Slot} {slots : List Slot} {e : Error}

theorem eq_of_words (hi : r.integers = r'.integers) (hf : r.floats = r'.floats) : r = r' := by
  cases r
  cases r'
  cases hi
  cases hf
  rfl

theorem images_single (isKind : Slot → Bool) :
    images isKind [s] = if isKind s then [s.1.widen s.2] else [] := by
  rw [images, List.filter_singleton]
  cases isKind s <;> rfl

/-- An argument takes the next register of its kind. -/
theorem place_eq_ok_iff : r.place s.1 s.2 = .ok r' ↔
    s.1 ≠ .void ∧ r'.integers = r.integers ++ images Slot.isInteger [s] ∧
      r'.floats = r.floats ++ images Slot.isFloating [s] := by
  have hk : Slot.isInteger s = true ↔ s.1 ≠ .void ∧ ¬ s.1.isFloating = true := by
    rw [← Bool.not_eq_false, Slot.isInteger, NativeType.isInteger_eq_false_iff, not_or]
  rw [images_single, images_single, place]
  by_cases hv : s.1 = .void
  · simp [hv]
  rw [if_neg hv]
  by_cases hf : s.1.isFloating = true
  · have hs : Slot.isFloating s = true := hf
    rw [if_pos hf, if_neg fun h => (hk.mp h).2 hf, if_pos hs, List.append_nil]
    split
    · rw [Except.ok.injEq]
      exact ⟨fun h => h ▸ ⟨hv, rfl, rfl⟩, fun h => eq_of_words h.2.1.symm h.2.2.symm⟩
    · rename_i hl
      refine iff_of_false nofun fun h => hl ?_
      have hr := r'.floats_le
      rwa [h.2.2, List.length_append] at hr
  · have hs : ¬ Slot.isFloating s = true := hf
    rw [if_neg hf, if_pos (hk.mpr ⟨hv, hf⟩), if_neg hs, List.append_nil]
    split
    · rw [Except.ok.injEq]
      exact ⟨fun h => h ▸ ⟨hv, rfl, rfl⟩, fun h => eq_of_words h.2.1.symm h.2.2.symm⟩
    · rename_i hl
      refine iff_of_false nofun fun h => hl ?_
      have hr := r'.integers_le
      rwa [h.2.1, List.length_append] at hr

theorem place_error (h : r.place s.1 s.2 = .error e) : e = misplaced s.1 := by
  rw [place] at h
  rw [misplaced]
  grind

theorem images_cons (isKind : Slot → Bool) :
    images isKind (s :: slots) = images isKind [s] ++ images isKind slots := by
  rw [images, ← List.singleton_append, List.filter_append, List.map_append]
  rfl

theorem length_images (isKind : Slot → Bool) :
    (images isKind slots).length = slots.countP isKind := by
  rw [images, List.length_map, List.countP_eq_length_filter]

/-- **The order of arguments.** Each kind of register takes the arguments of its kind, in their
order. -/
theorem placeAll_eq_ok_iff : r.placeAll slots = .ok r' ↔
    (∀ s ∈ slots, s.1 ≠ .void) ∧ r'.integers = r.integers ++ images Slot.isInteger slots ∧
      r'.floats = r.floats ++ images Slot.isFloating slots := by
  induction slots generalizing r with
  | nil =>
    simp only [placeAll, Except.ok.injEq, images, List.filter_nil, List.map_nil, List.append_nil]
    exact ⟨fun h => h ▸ ⟨nofun, rfl, rfl⟩, fun h => eq_of_words h.2.1.symm h.2.2.symm⟩
  | cons s slots ih =>
    rw [placeAll, images_cons Slot.isInteger, images_cons Slot.isFloating, List.forall_mem_cons,
      ← List.append_assoc, ← List.append_assoc]
    cases hp : r.place s.1 s.2 with
    | ok r₁ =>
      obtain ⟨hv, hi, hf⟩ := place_eq_ok_iff.mp hp
      rw [← hi, ← hf]
      simpa [hv] using ih
    | error e =>
      refine iff_of_false nofun fun ⟨⟨hv, _⟩, hi, hf⟩ => ?_
      -- The registers that all arguments take have room for the first one.
      have hil := r'.integers_le
      have hfl := r'.floats_le
      rw [hi, List.length_append] at hil
      rw [hf, List.length_append] at hfl
      have ho : r.place s.1 s.2 = .ok ⟨r.integers ++ images Slot.isInteger [s],
          r.floats ++ images Slot.isFloating [s], by omega, by omega⟩ :=
        place_eq_ok_iff.mpr ⟨hv, rfl, rfl⟩
      cases hp.symm.trans ho

/-- The first argument without a place is the error. -/
theorem placeAll_eq_error_iff : r.placeAll slots = .error e ↔
    ∃ before s after r', slots = before ++ s :: after ∧ r.placeAll before = .ok r' ∧
      r'.place s.1 s.2 = .error e := by
  induction slots generalizing r with
  | nil => simp [placeAll]
  | cons s slots ih =>
    rw [placeAll]
    cases hp : r.place s.1 s.2 with
    | ok r₁ =>
      simp only [ih]
      constructor
      · rintro ⟨before, s', after, r', rfl, hb, he⟩
        exact ⟨s :: before, s', after, r', rfl, by simpa only [placeAll, hp] using hb, he⟩
      · rintro ⟨before, s', after, r', hs, hb, he⟩
        cases before with
        | nil =>
          cases hs
          cases hb
          cases hp.symm.trans he
        | cons b before =>
          cases hs
          exact ⟨before, s', after, r', rfl, by simpa only [placeAll, hp] using hb, he⟩
    | error e' =>
      simp only [Except.error.injEq]
      constructor
      · rintro rfl
        exact ⟨[], s, slots, r, rfl, rfl, hp⟩
      · rintro ⟨before, s', after, r', hs, hb, he⟩
        cases before with
        | nil =>
          cases hs
          cases hb
          exact Except.error.inj (hp.symm.trans he)
        | cons b before =>
          cases hs
          simp only [placeAll, hp] at hb
          cases hb

theorem placeAll_append {more : List Slot} (h : r.placeAll slots = .ok r') :
    r.placeAll (slots ++ more) = r'.placeAll more := by
  induction slots generalizing r with
  | nil =>
    cases h
    rfl
  | cons s slots ih =>
    rw [placeAll] at h
    rw [List.cons_append, placeAll]
    cases hp : r.place s.1 s.2 with
    | ok r₁ =>
      rw [hp] at h
      exact ih h
    | error e =>
      rw [hp] at h
      cases h

theorem placeAll_single (r : RegisterFile) (s : Slot) : r.placeAll [s] = r.place s.1 s.2 := by
  rw [placeAll]
  cases r.place s.1 s.2 <;> rfl

/-- All arguments are placed exactly if there is a register for each. -/
theorem exists_marshal_iff : (∃ r, marshal slots = .ok r) ↔ Placed (slots.map (·.1)) := by
  have hi : (slots.map (·.1)).countP (·.isInteger) = (images Slot.isInteger slots).length := by
    rw [length_images, List.countP_map]
    rfl
  have hf : (slots.map (·.1)).countP (·.isFloating) = (images Slot.isFloating slots).length := by
    rw [length_images, List.countP_map]
    rfl
  have hv : .void ∉ slots.map (·.1) ↔ ∀ s ∈ slots, s.1 ≠ .void := by
    rw [List.mem_map, not_exists]
    exact forall_congr' fun s => not_and
  constructor
  · rintro ⟨r, hr⟩
    obtain ⟨hn, hri, hrf⟩ := placeAll_eq_ok_iff.mp hr
    refine ⟨hv.mpr hn, ?_, ?_⟩
    · have hl := r.integers_le
      rwa [hri, show empty.integers = [] from rfl, List.nil_append, ← hi] at hl
    · have hl := r.floats_le
      rwa [hrf, show empty.floats = [] from rfl, List.nil_append, ← hf] at hl
  · intro h
    exact ⟨⟨images Slot.isInteger slots, images Slot.isFloating slots, hi ▸ h.integers,
      hf ▸ h.floats⟩, placeAll_eq_ok_iff.mpr ⟨hv.mp h.void, rfl, rfl⟩⟩

/-- Arguments are refused exactly if there is a first one for which there is no register. -/
theorem marshal_eq_error_iff : marshal slots = .error e ↔
    ∃ before s after, slots = before ++ s :: after ∧ Placed (before.map (·.1)) ∧
      ¬ Placed ((before ++ [s]).map (·.1)) ∧ e = misplaced s.1 := by
  have hone : ∀ {before r'} (s : Slot), marshal before = .ok r' →
      marshal (before ++ [s]) = r'.place s.1 s.2 := fun s h => by
    rw [marshal, placeAll_append h, placeAll_single]
  rw [marshal, placeAll_eq_error_iff]
  constructor
  · rintro ⟨before, s, after, r', hs, hb, he⟩
    refine ⟨before, s, after, hs, exists_marshal_iff.mp ⟨r', hb⟩, fun hp => ?_, place_error he⟩
    obtain ⟨r'', hr⟩ := exists_marshal_iff.mpr hp
    cases he.symm.trans ((hone s hb).symm.trans hr)
  · rintro ⟨before, s, after, hs, hb, hn, rfl⟩
    obtain ⟨r', hr⟩ := exists_marshal_iff.mpr hb
    refine ⟨before, s, after, r', hs, hr, ?_⟩
    cases hp : r'.place s.1 s.2 with
    | ok r'' => exact absurd (exists_marshal_iff.mp ⟨r'', (hone s hr).trans hp⟩) hn
    | error e => rw [place_error hp]

/-- Arguments that stand for the same values are placed alike. -/
theorem placeAll_congr {slots' : List Slot}
    (h : List.Forall₂ (fun s s' => s.1 = s'.1 ∧ s.1.Agree s.2 s'.2) slots slots') :
    r.placeAll slots = r.placeAll slots' := by
  induction h generalizing r with
  | nil => rfl
  | @cons s s' _ _ hs _ ih =>
    have hp : r.place s.1 s.2 = r.place s'.1 s'.2 := by
      rw [← hs.1]
      by_cases hv : s.1 = .void
      · simp only [place, hv, ↓reduceIte]
      · simp only [place, NativeType.widen_congr hv hs.2]
    rw [placeAll, placeAll, hp]
    cases r.place s'.1 s'.2 with
    | ok r₁ => exact ih
    | error _ => rfl

end RegisterFile

/-- The registers hold these arguments, each kind in the order of the arguments, and nothing else. -/
structure Loaded (slots : List Slot) (r : RegisterFile) : Prop where
  integer : ∀ k (s : Slot), (slots.filter Slot.isInteger)[k]? = some s →
    s.1.Holds (r.integer k) s.2
  float : ∀ k (s : Slot), (slots.filter Slot.isFloating)[k]? = some s → s.1.Holds (r.float k) s.2
  unusedInteger : ∀ k, slots.countP Slot.isInteger ≤ k → r.integer k = 0
  unusedFloat : ∀ k, slots.countP Slot.isFloating ≤ k → r.float k = 0

theorem holds_images {isKind : Slot → Bool} {slots : List Slot} {k : Nat} {s : Slot}
    (hv : ∀ s ∈ slots, s.1 ≠ .void) (h : (slots.filter isKind)[k]? = some s) :
    s.1.Holds ((images isKind slots).getD k 0) s.2 := by
  have hm : s ∈ slots := (List.mem_filter.mp (List.mem_of_getElem? h)).1
  rw [List.getD_eq_getElem?_getD, images, List.getElem?_map, h]
  exact NativeType.holds_widen (hv s hm) s.2

theorem getD_images {isKind : Slot → Bool} {slots : List Slot} {k : Nat}
    (h : slots.countP isKind ≤ k) : (images isKind slots).getD k 0 = 0 := by
  rw [List.getD_eq_getElem?_getD, List.getElem?_eq_none (by rwa [RegisterFile.length_images])]
  rfl

theorem loaded_of_marshal {slots : List Slot} {r : RegisterFile}
    (h : RegisterFile.marshal slots = .ok r) : Loaded slots r := by
  obtain ⟨hv, hi, hf⟩ := RegisterFile.placeAll_eq_ok_iff.mp h
  have hi : r.integers = images Slot.isInteger slots := hi
  have hf : r.floats = images Slot.isFloating slots := hf
  constructor <;> intro k
  · intro s hs
    rw [RegisterFile.integer, hi]
    exact holds_images hv hs
  · intro s hs
    rw [RegisterFile.float, hf]
    exact holds_images hv hs
  · intro hk
    rw [RegisterFile.integer, hi]
    exact getD_images hk
  · intro hk
    rw [RegisterFile.float, hf]
    exact getD_images hk

/-! ## Calls -/

def Results.word (r : Results) (t : NativeType) : UInt64 := if t.isFloating then r.float else r.integer

theorem Results.holds_take (r : Results) (t : NativeType) : t.Holds (r.take t) (r.word t) := by
  by_cases hv : t = .void
  · subst hv
    rfl
  · rw [take, if_neg hv]
    exact NativeType.holds_widen hv _

namespace Request

variable {q : Request} {callee : Callee} {e : Error}

def slots (q : Request) : List Slot := q.types.zip q.arguments

/-- There is a function, and the counts and the size agree. -/
structure IsRegular (q : Request) : Prop where
  callee : q.callee ≠ none
  counts : q.arguments.length = q.types.length
  size : q.bufferSize = slotSize * q.arguments.length

/-- What is wrong with a call in the first place. The arguments are looked at last, from left to
right. -/
inductive Refused (q : Request) : Error → Prop
  | null : q.callee = none → Refused q (.invalidArgument "null function pointer")
  | counts : q.callee ≠ none → q.arguments.length ≠ q.types.length →
      Refused q (.invalidArgument "argument and type counts differ")
  | size : q.callee ≠ none → q.arguments.length = q.types.length →
      q.bufferSize ≠ slotSize * q.arguments.length →
      Refused q (.invalidArgument "buffer size does not match argument count")
  | argument {before : List NativeType} {t : NativeType} {after : List NativeType} :
      q.IsRegular → q.types = before ++ t :: after → Placed before → ¬ Placed (before ++ [t]) →
      Refused q (misplaced t)

theorem IsRegular.map_slots (h : q.IsRegular) : q.slots.map (·.1) = q.types :=
  List.map_fst_zip (Nat.le_of_eq h.counts.symm)

/-- A regular call comes down to its arguments. -/
theorem IsRegular.invoke_eq (h : q.IsRegular) (hc : q.callee = some callee) :
    q.invoke = match RegisterFile.marshal q.slots with
      | .error e => ⟨[], .error e⟩
      | .ok registers => ⟨[registers], .ok ((callee registers).take q.result)⟩ := by
  have hs := h.size
  rw [Nat.mul_comm] at hs
  cases hm : RegisterFile.marshal q.slots with
  | error e | ok registers =>
    rw [slots] at hm
    simp only [invoke, hc, h.counts, hs, ne_eq, not_true_eq_false, ↓reduceIte, hm]

/-- A call with which nothing is wrong enters the function once. -/
theorem IsRegular.entered (h : q.IsRegular) (hp : Placed q.types) :
    ∃ callee registers, q.callee = some callee ∧
      q.invoke = ⟨[registers], .ok ((callee registers).take q.result)⟩ ∧
      Loaded q.slots registers := by
  obtain ⟨callee, hc⟩ := Option.ne_none_iff_exists'.mp h.callee
  obtain ⟨registers, hr⟩ := RegisterFile.exists_marshal_iff.mpr (h.map_slots.symm ▸ hp)
  refine ⟨callee, registers, hc, ?_, loaded_of_marshal hr⟩
  rw [h.invoke_eq hc, hr]

/-- A call with which something is wrong does not enter the function. -/
theorem Refused.invoke_eq (h : q.Refused e) : q.invoke = ⟨[], .error e⟩ := by
  cases h with
  | null hc => simp only [invoke, hc]
  | counts hc hn =>
    obtain ⟨callee, hc⟩ := Option.ne_none_iff_exists'.mp hc
    simp only [invoke, hc, hn, ne_eq, not_false_eq_true, ↓reduceIte]
  | size hc hn hs =>
    obtain ⟨callee, hc⟩ := Option.ne_none_iff_exists'.mp hc
    rw [Nat.mul_comm] at hs
    simp only [invoke, hc, hn, ne_eq, not_true_eq_false, ↓reduceIte, hn ▸ hs, not_false_eq_true]
  | @argument before t after hr ht hb hp =>
    obtain ⟨callee, hc⟩ := Option.ne_none_iff_exists'.mp hr.callee
    obtain ⟨slots, rest, hl, rfl, hm⟩ := List.map_eq_append_iff.mp (hr.map_slots.trans ht)
    obtain ⟨s, more, rfl, rfl, rfl⟩ := List.map_eq_cons_iff.mp hm
    have he : RegisterFile.marshal q.slots = .error (misplaced s.1) :=
      RegisterFile.marshal_eq_error_iff.mpr
        ⟨slots, s, more, hl, hb, by rwa [List.map_append], rfl⟩
    rw [hr.invoke_eq hc, he]

/-- A call is regular and has a place for every argument, or is refused. -/
theorem sound_or_refused (q : Request) : (q.IsRegular ∧ Placed q.types) ∨ ∃ e, q.Refused e := by
  by_cases hc : q.callee = none
  · exact .inr ⟨_, .null hc⟩
  by_cases hn : q.arguments.length = q.types.length
  · by_cases hs : q.bufferSize = slotSize * q.arguments.length
    · have hr : q.IsRegular := ⟨hc, hn, hs⟩
      cases hm : RegisterFile.marshal q.slots with
      | ok r => exact .inl ⟨hr, hr.map_slots ▸ RegisterFile.exists_marshal_iff.mp ⟨r, hm⟩⟩
      | error e =>
        obtain ⟨before, s, after, hl, hb, hp, -⟩ := RegisterFile.marshal_eq_error_iff.mp hm
        rw [List.map_append] at hp
        have ht : q.types = before.map (·.1) ++ s.1 :: after.map (·.1) := by
          rw [← hr.map_slots, hl, List.map_append]
          rfl
        exact .inr ⟨_, .argument hr ht hb hp⟩
    · exact .inr ⟨_, .size hc hn hs⟩
  · exact .inr ⟨_, .counts hc hn⟩

/-- The words of the two calls stand for the same arguments. -/
def Alike (p q : Request) : Prop :=
  p.callee = q.callee ∧ p.types = q.types ∧ p.bufferSize = q.bufferSize ∧ p.result = q.result ∧
    p.arguments.length = q.arguments.length ∧
    List.Forall₂ (fun s s' : Slot => s.1 = s'.1 ∧ s.1.Agree s.2 s'.2) p.slots q.slots

structure Answered (q : Request) : Prop where
  /-- It succeeds exactly if it is regular and every argument has a place. -/
  succeeds : (∃ w, q.invoke.outcome = .ok w) ↔ q.IsRegular ∧ Placed q.types
  /-- Then the function has been entered once, with the arguments in the registers, and what it has
  left in the result register comes back. -/
  entered : q.IsRegular → Placed q.types → ∃ callee registers w, q.callee = some callee ∧
    q.invoke = ⟨[registers], .ok w⟩ ∧ Loaded q.slots registers ∧
    q.result.Holds w ((callee registers).word q.result)
  /-- Otherwise the error is what is wrong in the first place, -/
  refused : ∀ e, q.invoke.outcome = .error e ↔ q.Refused e
  /-- and the function has not been entered. -/
  untouched : ¬ (q.IsRegular ∧ Placed q.types) → q.invoke.entries = []
  /-- Only the low bits of the arguments count. -/
  alike : ∀ p : Request, p.Alike q → p.invoke = q.invoke

/-- **Calling a native function.** A call enters its function exactly once, with the values of its
arguments in the registers of their kinds, or not at all, with the first thing that is wrong as the
error. -/
theorem answered (q : Request) : q.Answered where
  succeeds := by
    constructor
    · rintro ⟨w, hw⟩
      rcases q.sound_or_refused with hs | ⟨e, he⟩
      · exact hs
      · rw [he.invoke_eq] at hw
        cases hw
    · rintro ⟨hr, hp⟩
      obtain ⟨_, _, -, hi, -⟩ := hr.entered hp
      exact ⟨_, by rw [hi]⟩
  entered hr hp := by
    obtain ⟨callee, registers, hc, hi, hl⟩ := hr.entered hp
    exact ⟨callee, registers, _, hc, hi, hl, Results.holds_take _ _⟩
  refused e := by
    refine ⟨fun he => ?_, fun he => by rw [he.invoke_eq]⟩
    rcases q.sound_or_refused with ⟨hr, hp⟩ | ⟨e', he'⟩
    · obtain ⟨_, _, -, hi, -⟩ := hr.entered hp
      rw [hi] at he
      cases he
    · rw [he'.invoke_eq] at he
      cases he
      exact he'
  untouched hn := by
    rcases q.sound_or_refused with hs | ⟨e, he⟩
    · exact absurd hs hn
    · rw [he.invoke_eq]
  alike p := by
    rintro ⟨hc, ht, hb, hr, hl, hs⟩
    have hm : RegisterFile.marshal p.slots = RegisterFile.marshal q.slots :=
      RegisterFile.placeAll_congr hs
    rw [slots, slots, ht] at hm
    simp only [invoke, hc, ht, hb, hr, hl, hm]

end Request
end VmHost.Call
