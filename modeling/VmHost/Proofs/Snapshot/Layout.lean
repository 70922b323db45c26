import Mathlib.Data.Nat.Digits.Defs
import VmHost.Proofs.Snapshot.Frames

/-!
# The text of a snapshot

`heading` and `frameLine` are the lines of a snapshot. No line is longer than the room for it, whatever
the numbers are (`length_faultPieces_le`, `length_registerPieces`, `length_framePieces_le`), so the
file has them in full (`content_eq`).

`report_of_create` says what the lines are about: the registers of the fault, and the frames of a walk
that came to an end. The words of the registers can be read off the file (`registers_of_content`).
-/
namespace VmHost

/-! ## Words in hexadecimal digits -/

namespace Text

/-- The character of a hexadecimal digit. -/
def digit (d : Fin 16) : Char := Nat.digitChar d.val

/-- The text is `0x` and sixteen hexadecimal digits, and these have the value of the word. -/
def IsHex (cs : List Char) (w : UInt64) : Prop :=
  ∃ ds : List (Fin 16), ds.length = 16 ∧ cs = '0' :: 'x' :: ds.map digit ∧
    Nat.ofDigits 16 (ds.reverse.map Fin.val) = w.toNat

theorem hexFixed_eq (width n : Nat) : ∃ ds : List (Fin 16), ds.length = width ∧
    hexFixed width n = ds.map digit ∧
    Nat.ofDigits 16 (ds.reverse.map Fin.val) = n % 16 ^ width := by
  induction width generalizing n with
  | zero => exact ⟨[], rfl, rfl, (Nat.mod_one n).symm⟩
  | succ width ih =>
    obtain ⟨ds, hl, hd, hv⟩ := ih (n / 16)
    refine ⟨ds ++ [⟨n % 16, Nat.mod_lt n (by decide)⟩], ?_, ?_, ?_⟩
    · rw [List.length_append, hl]
      rfl
    · rw [hexFixed, hd, List.map_append]
      rfl
    · rw [List.reverse_append, List.reverse_singleton, List.singleton_append, List.map_cons,
        Nat.ofDigits_cons, hv, Nat.pow_succ', Nat.mod_mul]

theorem isHex_hexWord (w : UInt64) : IsHex (hexWord w) w := by
  obtain ⟨ds, hl, hd, hv⟩ := hexFixed_eq 16 w.toNat
  refine ⟨ds, hl, by rw [hexWord, hd], ?_⟩
  rw [hv, Nat.mod_eq_of_lt]
  exact w.toNat_lt

theorem digit_injective : Function.Injective digit := by
  have h : ∀ d e : Fin 16, digit d = digit e → d = e := by decide +kernel
  exact fun d e => h d e

theorem IsHex.unique {cs : List Char} {v w : UInt64} (hv : IsHex cs v) (hw : IsHex cs w) : v = w := by
  obtain ⟨ds, -, rfl, hv⟩ := hv
  obtain ⟨es, -, he, hw⟩ := hw
  have hd : ds = es :=
    List.map_injective_iff.mpr digit_injective (List.cons.inj (List.cons.inj he).2).2
  rw [← UInt64.toNat_inj, ← hv, ← hw, hd]

theorem isPlain_hexWord (w : UInt64) : IsPlain (hexWord w) := by
  obtain ⟨ds, -, hd, -⟩ := isHex_hexWord w
  have hp : ∀ d, (digit d).toNat < 128 := by decide +kernel
  rw [hd]
  intro c hc
  rcases List.mem_cons.mp hc with rfl | hc
  · decide
  rcases List.mem_cons.mp hc with rfl | hc
  · decide
  obtain ⟨d, -, rfl⟩ := List.mem_map.mp hc
  exact hp d

theorem isPlain_signedDecimal (i : Int) : IsPlain (signedDecimal i) := by
  have hd : IsPlain (decimal i.natAbs) := fun c hc => by
    have h := isDigit_of_mem_decimal hc
    simp only [Char.isDigit, Bool.and_eq_true, decide_eq_true_eq, UInt32.le_iff_toNat_le,
      Char.toNat_val] at h
    exact Nat.lt_of_le_of_lt h.2 (by decide)
  rw [signedDecimal]
  split
  · exact List.forall_mem_cons.mpr ⟨by decide, hd⟩
  · exact hd

theorem length_signedDecimal_le {i : Int} (h : i.natAbs < 10 ^ 20) :
    (signedDecimal i).length ≤ 21 := by
  have hd := length_decimal_le (by decide) h
  rw [signedDecimal]
  split
  · exact Nat.succ_le_succ hd
  · exact Nat.le_succ_of_le hd

theorem signedDecimal_natCast (n : Nat) : signedDecimal n = decimal n := by
  rw [signedDecimal, if_neg (by omega), Int.natAbs_natCast]

end Text

namespace Snapshot

open Text

variable {v w : Fault.View} {tid : Int} {k : Nat} {a : UInt64} {pieces : List Bytes}

/-! ## Lines in their buffer -/

/-- A line fits into its buffer. -/
def IsWhole (pieces : List Bytes) : Prop := ((Buffer.empty lineRoom).writeAll pieces).1 = true

theorem isWhole_of_length (h : pieces.flatten.length ≤ lineRoom) : IsWhole pieces :=
  (Buffer.writeAll_empty h).1

theorem line_eq (h : pieces.flatten.length ≤ lineRoom) : line pieces = pieces.flatten :=
  (Buffer.writeAll_empty h).2

theorem length_word (w : UInt64) : (word w).length = 18 := by
  rw [word, length_encode (isPlain_hexWord w), length_hexWord]

theorem length_number_le {i : Int} (h : i.natAbs < 10 ^ 20) : (number i).length ≤ 21 := by
  rw [number, length_encode (isPlain_signedDecimal i)]
  exact length_signedDecimal_le h

theorem word_injective : Function.Injective word := fun v w h => by
  have hw := isHex_hexWord w
  rw [← encode_injective h] at hw
  exact (isHex_hexWord v).unique hw

theorem length_faultPieces_le (hs : v.signal.natAbs < 10 ^ 20) (ht : tid.natAbs < 10 ^ 20) :
    (faultPieces v tid).flatten.length ≤ lineRoom := by
  have h1 : (bytes "hostsys crash snapshot\nsignal: ").length = 31 := by decide +kernel
  have h2 : (bytes "\naddress: ").length = 10 := by decide +kernel
  have h3 : (bytes "\ntid: ").length = 6 := by decide +kernel
  have h4 : (bytes "\n").length = 1 := by decide +kernel
  have hs := length_number_le hs
  have ht := length_number_le ht
  simp only [faultPieces, List.flatten_cons, List.flatten_nil, List.length_append, List.length_nil,
    length_word, h1, h2, h3, h4, lineRoom]
  omega

theorem length_registerPieces (v : Fault.View) : (registerPieces v).flatten.length = 125 := by
  have h1 : (bytes "ip: ").length = 4 := by decide +kernel
  have h2 : (bytes "\nframe: ").length = 8 := by decide +kernel
  have h3 : (bytes "\nstack: ").length = 8 := by decide +kernel
  have h4 : (bytes "\nthread-register (").length = 18 := by decide +kernel
  have h5 : (bytes Context.threadRegisterName).length = 3 := by decide +kernel
  have h6 : (bytes "): ").length = 3 := by decide +kernel
  have h7 : (bytes "\nframes:\n").length = 9 := by decide +kernel
  simp only [registerPieces, List.flatten_cons, List.flatten_nil, List.length_append, List.length_nil,
    length_word, h1, h2, h3, h4, h5, h6, h7]

theorem length_registerPieces_le (v : Fault.View) : (registerPieces v).flatten.length ≤ lineRoom :=
  Nat.le_trans (Nat.le_of_eq (length_registerPieces v)) (by decide)

theorem length_framePieces_le (hk : k < 10 ^ 20) (a : UInt64) :
    (framePieces k a).flatten.length ≤ lineRoom := by
  have h1 : (bytes "  #").length = 3 := by decide +kernel
  have h2 : (bytes " ").length = 1 := by decide +kernel
  have h3 : (bytes "\n").length = 1 := by decide +kernel
  have hn := length_number_le (i := k) (by rwa [Int.natAbs_natCast])
  simp only [framePieces, List.flatten_cons, List.flatten_nil, List.length_append, List.length_nil,
    length_word, h1, h2, h3, lineRoom]
  omega

/-! ## Lines of text -/

/-- Lines as bytes. -/
def text (lines : List (List Char)) : Bytes := encode (lines.flatMap (· ++ ['\n']))

/-- The lines about the fault. -/
def heading (v : Fault.View) (tid : Int) : List (List Char) :=
  ["hostsys crash snapshot".toList,
    "signal: ".toList ++ signedDecimal v.signal,
    "address: ".toList ++ hexWord v.address,
    "tid: ".toList ++ signedDecimal tid,
    "ip: ".toList ++ hexWord v.ip,
    "frame: ".toList ++ hexWord v.frame,
    "stack: ".toList ++ hexWord v.stack,
    "thread-register (rbx): ".toList ++ hexWord v.thread,
    "frames:".toList]

def frameLine (k : Nat) (address : UInt64) : List Char :=
  "  #".toList ++ (decimal k ++ ' ' :: hexWord address)

/-- The lines of frames, numbered from `k` on. -/
def numbered (k : Nat) (addresses : List UInt64) : List (List Char) :=
  (addresses.zipIdx k).map fun x => frameLine x.2 x.1

theorem text_append (l m : List (List Char)) : text (l ++ m) = text l ++ text m := by
  rw [text, List.flatMap_append, encode_append, text, text]

theorem flatten_framePieces (k : Nat) (a : UInt64) :
    (framePieces k a).flatten = text [frameLine k a] := by
  simp [framePieces, text, frameLine, number, word, bytes, encode, signedDecimal_natCast]

theorem flatten_pieces (v : Fault.View) (tid : Int) :
    (faultPieces v tid).flatten ++ (registerPieces v).flatten = text (heading v tid) := by
  simp [faultPieces, registerPieces, text, heading, number, word, bytes, encode,
    Context.threadRegisterName]

theorem frameLines_eq {addresses : List UInt64} (h : k + addresses.length ≤ 10 ^ 20) :
    frameLines k addresses = text (numbered k addresses) := by
  induction addresses generalizing k with
  | nil => rfl
  | cons a addresses ih =>
    rw [List.length_cons] at h
    rw [frameLines, line_eq (length_framePieces_le (by omega) a), flatten_framePieces,
      ih (by omega), ← text_append]
    rfl

theorem numbered_append (k : Nat) (l m : List UInt64) :
    numbered k (l ++ m) = numbered k l ++ numbered (k + l.length) m := by
  rw [numbered, List.zipIdx_append, List.map_append, numbered, numbered]

/-- **The text of a snapshot.** Nothing is cut off. -/
theorem content_eq (hs : v.signal.natAbs < 10 ^ 20) (ht : tid.natAbs < 10 ^ 20)
    {returns : List UInt64} (hr : (v.ip :: returns).length ≤ 10 ^ 20) :
    content v tid returns = text (heading v tid ++ numbered 0 (v.ip :: returns)) := by
  rw [content, line_eq (length_faultPieces_le hs ht), line_eq (length_registerPieces_le v),
    flatten_pieces, frameLines_eq (by rwa [Nat.zero_add]), text_append]

theorem faultPieces_congr (hs : v.signal = w.signal) (ha : v.address = w.address) (tid : Int) :
    faultPieces v tid = faultPieces w tid := by
  rw [faultPieces, faultPieces, hs, ha]

theorem word_append_inj {a b : UInt64} {l m : Bytes} (h : word a ++ l = word b ++ m) :
    a = b ∧ l = m := by
  obtain ⟨hw, hr⟩ := List.append_inj h ((length_word a).trans (length_word b).symm)
  exact ⟨word_injective hw, hr⟩

/-- Of two snapshots of the same fault with the same text, the registers are the same. -/
theorem registers_of_content {l m : List UInt64} (hs : v.signal = w.signal)
    (ha : v.address = w.address) (h : content v tid l = content w tid m) :
    v.registers = w.registers ∧ v.thread = w.thread := by
  rw [content, content, faultPieces_congr hs ha, List.append_assoc, List.append_assoc,
    line_eq (length_registerPieces_le v), line_eq (length_registerPieces_le w)] at h
  obtain ⟨hr, -⟩ := List.append_inj (List.append_cancel_left h)
    ((length_registerPieces v).trans (length_registerPieces w).symm)
  simp only [registerPieces, List.flatten_cons, List.flatten_nil] at hr
  obtain ⟨hi, hr⟩ := word_append_inj (List.append_cancel_left hr)
  obtain ⟨hf, hr⟩ := word_append_inj (List.append_cancel_left hr)
  obtain ⟨hk, hr⟩ := word_append_inj (List.append_cancel_left hr)
  have hr := List.append_cancel_left (List.append_cancel_left (List.append_cancel_left hr))
  obtain ⟨ht, -⟩ := word_append_inj hr
  exact ⟨by rw [Fault.View.registers, Fault.View.registers, hi, hf, hk], ht⟩

/-! ## What a snapshot says -/

/-- What the file of a snapshot says about a fault. -/
structure Report (t : Target) (v : Fault.View) (tid : Int) (mem : Memory) (file : Bytes)
    (fs : List Frame) : Prop where
  /-- There are the registers, the instruction pointer and the return addresses of frames, -/
  lines : file = text (heading v tid ++ numbered 0 (v.ip :: fs.map (·.ret)))
  /-- of which no line was too long for its buffer, -/
  whole : IsWhole (faultPieces v tid) ∧ IsWhole (registerPieces v) ∧
    ∀ k a, k < t.maxFrames.toNat → IsWhole (framePieces k a)
  /-- and in which words are written with sixteen digits. -/
  words : ∀ w : UInt64, IsHex (hexWord w) w
  /-- The frames lead from that of the fault to those of its callers, -/
  trail : Trail mem v.stack v.frame fs
  /-- as many as were asked for or as there are. -/
  bounded : (v.ip :: fs.map (·.ret)).length ≤ t.maxFrames.toNat
  ends : Ends mem v.stack (t.maxFrames.toNat - 1) v.frame fs
  /-- The file of a snapshot of the same fault with fewer frames is the beginning of this one. -/
  starts : ∀ (t' : Target) (d d' : Disk) (p : Path) (now : Time), t'.maxFrames ≤ t.maxFrames →
    t'.createFile d now.millis = some (p, d') → ∃ file', file' <+: file ∧
      Disk.entry? (write t' d now v tid mem).2 p = some (.file file')

theorem content_isPrefix {l m : List UInt64} (hs : v.signal.natAbs < 10 ^ 20)
    (ht : tid.natAbs < 10 ^ 20) (hm : (v.ip :: m).length ≤ 10 ^ 20) (h : l <+: m) :
    content v tid l <+: content v tid m := by
  obtain ⟨rest, rfl⟩ := h
  have hl : (v.ip :: l).length ≤ 10 ^ 20 := by
    simp only [List.length_cons, List.length_append] at hm ⊢
    omega
  rw [content_eq hs ht hm, content_eq hs ht hl, ← List.cons_append, numbered_append,
    ← List.append_assoc, text_append (heading v tid ++ _)]
  exact List.prefix_append _ _

/-- **What a snapshot says.** A snapshot whose file has been created, and whose walk does not come to
the last frame pointer, is a full report of the fault. -/
theorem report_of_create {t : Target} {dir : Bytes} {frames : UInt64} {d d' : Disk} {p : Path}
    {now : Time} (hc : Target.create dir frames = .ok t)
    (hf : t.createFile d now.millis = some (p, d'))
    (hs : -2 ^ 31 ≤ v.signal ∧ v.signal < 2 ^ 31) (ht : -2 ^ 63 ≤ tid ∧ tid < 2 ^ 63)
    {mem : Memory} (hm : ¬ Meets mem v.stack (t.maxFrames.toNat - 1) v.frame lastPointer) :
    (write t d now v tid mem).1 = .written ∧ ∃ file fs,
      Disk.entry? (write t d now v tid mem).2 p = some (.file file) ∧ Report t v tid mem file fs := by
  have hs : v.signal.natAbs < 10 ^ 20 := by omega
  have ht : tid.natAbs < 10 ^ 20 := by omega
  have hn : t.maxFrames.toNat < 10 ^ 20 := Nat.lt_trans t.maxFrames.toNat_lt (by decide)
  have h1 := Target.one_le_maxFrames hc
  have hb : (walk t v mem).broken = false := by
    rw [← Bool.not_eq_true]
    exact fun hb => hm ((run_broken_iff ..).mp hb).2
  obtain ⟨fs, htr, hl, hr, he⟩ := run_trail mem v.stack v.frame (t.maxFrames.toNat - 1)
  have hw : (walk t v mem).returns = fs.map (·.ret) := hr
  have hlen : (v.ip :: fs.map (·.ret)).length ≤ t.maxFrames.toNat := by
    rw [List.length_cons, List.length_map]
    omega
  refine ⟨by rw [write_eq hf, hb]; rfl, content v tid (fs.map (·.ret)), fs,
    by rw [entry?_write hf, hw], ?_⟩
  exact {
    lines := content_eq hs ht (by omega)
    whole := ⟨isWhole_of_length (length_faultPieces_le hs ht),
      isWhole_of_length (length_registerPieces_le v),
      fun k a hk => isWhole_of_length (length_framePieces_le (by omega) a)⟩
    words := isHex_hexWord
    trail := htr
    bounded := hlen
    ends := he hb
    starts := fun t' d d' p now hle hf' => by
      refine ⟨_, content_isPrefix hs ht (by omega) ?_, entry?_write hf' v tid mem⟩
      rw [← hw, walk, walk, returns_take mem v.stack v.frame
        (Nat.sub_le_sub_right (UInt64.le_iff_toNat_le.mp hle) 1)]
      exact List.take_prefix _ _ }

theorem report_sound : ∃ d' file fs,
    Target.create [0x2F, 0x64] 3 = .ok ⟨[0x2F, 0x64], 3⟩ ∧
    Target.createFile ⟨[0x2F, 0x64], 3⟩ roomyDisk (Time.millis ⟨5, 0⟩) =
      some ([[0x64], fileName 5000 0], d') ∧
    (-2 ^ 31 ≤ faultAtBase.signal ∧ faultAtBase.signal < 2 ^ 31) ∧
    (-2 ^ 63 ≤ (41237 : Int) ∧ (41237 : Int) < 2 ^ 63) ∧
    ¬ Meets soundMemory faultAtBase.stack 2 faultAtBase.frame lastPointer ∧
    Disk.entry? (write ⟨[0x2F, 0x64], 3⟩ roomyDisk ⟨5, 0⟩ faultAtBase 41237 soundMemory).2
      [[0x64], fileName 5000 0] = some (.file file) ∧
    Report ⟨[0x2F, 0x64], 3⟩ faultAtBase 41237 soundMemory file fs := by
  have hc : Target.create [0x2F, 0x64] 3 = .ok ⟨[0x2F, 0x64], 3⟩ := by decide +kernel
  have hf : Target.createFile ⟨[0x2F, 0x64], 3⟩ roomyDisk (Time.millis ⟨5, 0⟩) =
      some ([[0x64], fileName 5000 0], roomyDisk.add [[0x64], fileName 5000 0] []) := by decide +kernel
  have hs : -2 ^ 31 ≤ faultAtBase.signal ∧ faultAtBase.signal < 2 ^ 31 := by decide
  have ht : -2 ^ 63 ≤ (41237 : Int) ∧ (41237 : Int) < 2 ^ 63 := by decide
  have hm : ¬ Meets soundMemory faultAtBase.stack 2 faultAtBase.frame lastPointer := fun h => by
    have hb := (run_broken_iff _ _ _ _).mpr ⟨by decide, h⟩
    revert hb
    decide +kernel
  obtain ⟨-, file, fs, he, hr⟩ := report_of_create hc hf hs ht hm
  exact ⟨_, file, fs, hc, hf, hs, ht, hm, he, hr⟩

end Snapshot
end VmHost
