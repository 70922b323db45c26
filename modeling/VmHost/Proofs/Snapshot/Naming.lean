import Mathlib.Algebra.Ring.Nat
import VmHost.Proofs.Snapshot.Place
import VmHost.Snapshot.Target

/-!
# The names of snapshots

A name is put together from the time, the number of the attempt and fixed characters, none of which is
a digit. So the two numbers can be read off it (`fileName_injective`), and it is the name of an entry
(`isName_fileName`).

The limit on the length of a directory leaves room for every name: the path fits into its buffer and
is read up to the zero byte at its end (`Target.path_eq`, `Target.untilZero_path`). It leads into the
directory that was given, whatever slashes were taken off that (`Target.resolve?_path`).
-/
namespace VmHost

/-! ## Texts as bytes -/

namespace Text

variable {cs : List Char} {b : UInt8}

theorem encode_append (cs ds : List Char) : encode (cs ++ ds) = encode cs ++ encode ds :=
  List.flatMap_append

theorem encode_injective : Function.Injective encode := fun cs ds h => by
  have hb : cs.utf8Encode = ds.utf8Encode := congrArg List.toByteArray h
  have hd := congrArg ByteArray.utf8Decode? hb
  simpa [List.utf8Decode?_utf8Encode] using hd

/-- Every character is a byte of its own. -/
def IsPlain (cs : List Char) : Prop := ∀ c ∈ cs, c.toNat < 128

theorem encode_eq_map (h : IsPlain cs) : encode cs = cs.map fun c => UInt8.ofNat c.toNat := by
  induction cs with
  | nil => rfl
  | cons c cs ih =>
    obtain ⟨hc, hs⟩ := List.forall_mem_cons.mp h
    have hb : String.utf8EncodeChar c = [UInt8.ofNat c.toNat] := by
      rw [String.utf8EncodeChar, if_pos (by simpa using Nat.le_of_lt_succ hc)]
      rfl
    rw [encode, List.flatMap_cons, hb, List.map_cons, List.singleton_append, ← ih hs, encode]

theorem length_encode (h : IsPlain cs) : (encode cs).length = cs.length := by
  rw [encode_eq_map h, List.length_map]

theorem toNat_of_mem_encode (h : IsPlain cs) (hb : b ∈ encode cs) : ∃ c ∈ cs, b.toNat = c.toNat := by
  rw [encode_eq_map h] at hb
  obtain ⟨c, hc, rfl⟩ := List.mem_map.mp hb
  refine ⟨c, hc, UInt8.toNat_ofNat_of_lt (Nat.lt_trans (h c hc) (by decide))⟩

theorem isDigit_of_mem_decimal {n : Nat} {c : Char} (h : c ∈ decimal n) : c.isDigit = true :=
  Nat.isDigit_of_mem_toDigits (by decide) (by decide) h

theorem decimal_injective : Function.Injective decimal := fun m n h => by
  rw [← Nat.ofDigitChars_ten_toDigits (n := m), ← Nat.ofDigitChars_ten_toDigits (n := n)]
  exact congrArg (Nat.ofDigitChars 10 · 0) h

theorem length_decimal_le {n e : Nat} (he : 0 < e) (h : n < 10 ^ e) : (decimal n).length ≤ e :=
  (Nat.length_toDigits_le_iff (by decide) he).mpr h

/-- Digits before something else are told from it. -/
theorem takeWhile_decimal (n : Nat) {c : Char} (hc : c.isDigit = false) (cs : List Char) :
    (decimal n ++ c :: cs).takeWhile Char.isDigit = decimal n := by
  rw [List.takeWhile_append_of_pos fun c => isDigit_of_mem_decimal,
    List.takeWhile_cons_of_neg (by simp [hc]), List.append_nil]

end Text

namespace Snapshot

open Text

/-! ## The names -/

/-- What comes after the time in the name of a file. -/
def ending (attempt : Nat) : List Char :=
  (if attempt = 0 then [] else '-' :: decimal attempt) ++ ".dump".toList

/-- The name of the file for a time, in characters. -/
def nameChars (millis attempt : Nat) : List Char :=
  "crash-".toList ++ (decimal millis ++ ending attempt)

theorem nameChars_eq (millis attempt : Nat) :
    nameChars millis attempt = "crash-".toList ++ (decimal millis ++ ending attempt) := by
  -- Comparing the two sides as they stand would read the text character by character.
  delta nameChars
  rfl

/-- The name of the file for a time. -/
def fileName (millis attempt : Nat) : Bytes := encode (nameChars millis attempt)

variable {m n k l : Nat}

theorem ending_eq_cons (n : Nat) : ∃ c cs, ending n = c :: cs ∧ c.isDigit = false := by
  rw [ending]
  split
  · exact ⟨'.', _, rfl, rfl⟩
  · exact ⟨'-', _, rfl, rfl⟩

theorem ending_injective : Function.Injective ending := fun k l h => by
  have hh := List.append_cancel_right h
  split at hh <;> split at hh
  · rename_i hk hl
    exact hk.trans hl.symm
  · cases hh
  · cases hh
  · exact decimal_injective (List.cons.inj hh).2

/-- Names of different times or attempts are different. -/
theorem fileName_injective (h : fileName m k = fileName n l) : m = n ∧ k = l := by
  have hn : decimal m ++ ending k = decimal n ++ ending l :=
    List.append_cancel_left (encode_injective h)
  have hd : decimal m = decimal n := by
    obtain ⟨c, cs, hk, hc⟩ := ending_eq_cons k
    obtain ⟨d, ds, hl, hd⟩ := ending_eq_cons l
    rw [← takeWhile_decimal m hc cs, ← hk, hn, hl, takeWhile_decimal n hd]
  rw [hd] at hn
  exact ⟨decimal_injective hd, ending_injective (List.append_cancel_left hn)⟩

theorem mem_nameChars {c : Char} (h : c ∈ nameChars m k) :
    c.isDigit = true ∨ c ∈ "crash-.dump".toList := by
  have hs : "crash-".toList ⊆ "crash-.dump".toList ∧ ".dump".toList ⊆ "crash-.dump".toList := by
    decide
  simp only [nameChars_eq, ending, List.mem_append] at h
  rcases h with h | h | h | h
  · exact .inr (hs.1 h)
  · exact .inl (isDigit_of_mem_decimal h)
  · split at h
    · cases h
    · rcases List.mem_cons.mp h with rfl | h
      · exact .inr (by decide)
      · exact .inl (isDigit_of_mem_decimal h)
  · exact .inr (hs.2 h)

/-- The characters of a name are printable, and none of them is a slash. -/
theorem toNat_of_mem_nameChars {c : Char} (h : c ∈ nameChars m k) :
    0 < c.toNat ∧ c.toNat < 128 ∧ c.toNat ≠ 0x2F := by
  rcases mem_nameChars h with h | h
  · simp only [Char.isDigit, Bool.and_eq_true, decide_eq_true_eq, UInt32.le_iff_toNat_le,
      Char.toNat_val] at h
    have h0 : 48 ≤ c.toNat := h.1
    have h9 : c.toNat ≤ 57 := h.2
    omega
  · have hd : "crash-.dump".toList.all
        (fun c => 0 < c.toNat ∧ c.toNat < 128 ∧ c.toNat ≠ 0x2F) = true := by decide
    exact of_decide_eq_true (List.all_eq_true.mp hd c h)

theorem isPlain_nameChars (m k : Nat) : IsPlain (nameChars m k) :=
  fun _ h => (toNat_of_mem_nameChars h).2.1

theorem length_nameChars_le (hm : m < 2 ^ 64) (hk : k < attempts) :
    (nameChars m k).length ≤ 34 := by
  have h1 : (decimal m).length ≤ 20 := length_decimal_le (by decide) (by omega)
  have h2 : (ending k).length ≤ 8 := by
    have : (decimal k).length ≤ 2 := length_decimal_le (by decide) (Nat.lt_trans hk (by decide))
    rw [ending, List.length_append]
    split
    · simp
    · simp
      omega
  rw [nameChars_eq, List.length_append, List.length_append]
  have : "crash-".toList.length = 6 := rfl
  omega

theorem length_fileName_le (hm : m < 2 ^ 64) (hk : k < attempts) : (fileName m k).length ≤ 34 := by
  rw [fileName, length_encode (isPlain_nameChars m k)]
  exact length_nameChars_le hm hk

theorem not_mem_fileName (m k : Nat) : 0 ∉ fileName m k ∧ Disk.slash ∉ fileName m k := by
  constructor
  · intro h
    obtain ⟨c, hc, e⟩ := toNat_of_mem_encode (isPlain_nameChars m k) h
    exact Nat.ne_of_lt (toNat_of_mem_nameChars hc).1 e
  · intro h
    obtain ⟨c, hc, e⟩ := toNat_of_mem_encode (isPlain_nameChars m k) h
    exact (toNat_of_mem_nameChars hc).2.2 e.symm

theorem isName_fileName (hm : m < 2 ^ 64) (hk : k < attempts) : Disk.IsName (fileName m k) := by
  have hc : Char.toNat 'c' ∈ (fileName m k).map UInt8.toNat := by
    rw [fileName, encode_eq_map (isPlain_nameChars m k)]
    exact List.mem_cons_self
  refine ⟨?_, (not_mem_fileName m k).2, ?_, ?_, Nat.le_trans (length_fileName_le hm hk) (by decide)⟩
  all_goals
    intro e
    rw [e] at hc
    revert hc
    decide

/-! ## Paths in the buffer -/

/-- Pieces for which there is room are written. -/
theorem Buffer.writeAll_eq (b : Buffer) (pieces : List Bytes)
    (h : b.bytes.length + pieces.flatten.length ≤ b.capacity) :
    (b.writeAll pieces).1 = true ∧ (b.writeAll pieces).2.bytes = b.bytes ++ pieces.flatten := by
  induction pieces generalizing b with
  | nil => simp [Buffer.writeAll]
  | cons p ps ih =>
    rw [List.flatten_cons, List.length_append] at h
    have hr : p.length ≤ b.room := by
      rw [Buffer.room]
      omega
    have hb : (b.push p).bytes = b.bytes ++ p :=
      congrArg (b.bytes ++ ·) (List.take_of_length_le hr)
    have hs := ih (b.push p) (by
      rw [hb, List.length_append]
      simp only [Buffer.push]
      omega)
    rw [hb, List.append_assoc, ← List.flatten_cons] at hs
    simpa only [Buffer.writeAll, Buffer.write, hr, decide_true] using hs

/-- An empty buffer takes any pieces that do not exceed it. -/
theorem Buffer.writeAll_empty {capacity : Nat} {pieces : List Bytes}
    (h : pieces.flatten.length ≤ capacity) :
    ((Buffer.empty capacity).writeAll pieces).1 = true ∧
      ((Buffer.empty capacity).writeAll pieces).2.bytes = pieces.flatten :=
  Buffer.writeAll_eq _ pieces (by simpa [Buffer.empty] using h)

namespace Target

variable {t : Target}

theorem flatten_pathPieces (t : Target) (m k : Nat) :
    (t.pathPieces m k).flatten = t.dir ++ Disk.slash :: fileName m k ++ [0] := by
  have hs : bytes "/crash-" = Disk.slash :: encode "crash-".toList := rfl
  have hn : (if k = 0 then [] else [bytes "-", encode (decimal k)]).flatten =
      encode (if k = 0 then [] else '-' :: decimal k) := by
    split
    · rfl
    · simp [encode, bytes]
  simp only [pathPieces, List.flatten_append, hn, fileName, nameChars_eq, ending, encode_append, hs]
  simp [bytes]

/-- The directory leaves room for every name. -/
theorem length_pathPieces_le (ht : t.dir.length ≤ dirLimit) (hm : m < 2 ^ 64) (hk : k < attempts) :
    (t.pathPieces m k).flatten.length ≤ pathRoom := by
  have hn : (fileName m k).length ≤ 34 := length_fileName_le hm hk
  have hr : dirLimit + 100 ≤ pathRoom := by decide
  rw [flatten_pathPieces, List.length_append, List.length_append, List.length_cons,
    List.length_singleton]
  omega

/-- So every path is written in full. -/
theorem path_eq (ht : t.dir.length ≤ dirLimit) (hm : m < 2 ^ 64) (hk : k < attempts) :
    t.path m k = (true, t.dir ++ Disk.slash :: fileName m k ++ [0]) := by
  obtain ⟨hw, hb⟩ := Buffer.writeAll_empty (length_pathPieces_le ht hm hk)
  rw [path, hw, hb, flatten_pathPieces]

/-- The zero byte is the end of the path. -/
theorem untilZero_path (ht : 0 ∉ t.dir) (m k : Nat) :
    untilZero (t.dir ++ Disk.slash :: fileName m k ++ [0]) = t.dir ++ Disk.slash :: fileName m k := by
  have hz : ∀ b ∈ t.dir ++ Disk.slash :: fileName m k, decide (b ≠ 0) = true := by
    intro b hb
    rw [decide_eq_true_eq]
    rintro rfl
    rcases List.mem_append.mp hb with h | h
    · exact ht h
    · rcases List.mem_cons.mp h with h | h
      · cases h
      · exact (not_mem_fileName m k).1 h
  rw [untilZero, List.takeWhile_append_of_pos hz]
  simp

end Target

/-! ## Directories -/

variable {t : Target} {dir : Bytes} {frames : UInt64} {d : Disk}

/-- The directory leaves room for the names of files, and no byte ends its path early. -/
def Fits (dir : Bytes) : Prop := dir.length ≤ dirLimit ∧ 0 ∉ dir

/-- The refusal of a directory that does not fit. -/
def misfit : Error := .invalidArgument "snapshot directory path unusable"

theorem Target.create_eq_ok_iff {t : Target} : Target.create dir frames = .ok t ↔
    dir ≠ [] ∧ Text.isUtf8 dir = true ∧ Fits dir ∧ t = ⟨trimSlashes dir, max frames 1⟩ := by
  rw [Target.create]
  split
  · rename_i hu
    exact iff_of_false nofun fun h => by simp [h.2.1] at hu
  · split
    · rename_i hd
      exact iff_of_false nofun fun h => h.1 hd
    · split
      · rename_i hf
        refine iff_of_false nofun fun h => ?_
        rcases hf with hl | hz
        · exact absurd h.2.2.1.1 (Nat.not_le.mpr hl)
        · exact h.2.2.1.2 (by simpa using hz)
      · rename_i hu hd hf
        have hf : Fits dir := by simpa [Fits] using hf
        simp only [Except.ok.injEq]
        exact ⟨fun h => ⟨hd, by simpa using hu, hf, h.symm⟩, fun h => h.2.2.2.symm⟩

theorem Target.create_misfit (hd : dir ≠ []) (hu : Text.isUtf8 dir = true) (hf : ¬ Fits dir) :
    Target.create dir frames = .error misfit := by
  have hc : dirLimit < dir.length ∨ dir.contains 0 = true := by
    by_contra hn
    exact hf (by simpa [Fits] using hn)
  rw [Target.create, if_neg (by simp [hu]), if_neg hd, if_pos hc]
  rfl

/-- The slashes at the end are all that is taken off. -/
theorem exists_slashes (dir : Bytes) :
    ∃ k, dir = trimSlashes dir ++ List.replicate k Disk.slash := by
  refine ⟨(dir.reverse.takeWhile (· = Disk.slash)).length, ?_⟩
  have h : dir.reverse.takeWhile (· = Disk.slash) =
      List.replicate (dir.reverse.takeWhile (· = Disk.slash)).length Disk.slash :=
    List.eq_replicate_iff.mpr ⟨rfl, fun b hb => by
      simpa using List.all_eq_true.mp List.all_takeWhile b hb⟩
  rw [trimSlashes, ← List.reverse_replicate, ← h, ← List.reverse_append,
    List.takeWhile_append_dropWhile, List.reverse_reverse]

theorem length_trimSlashes_le (dir : Bytes) : (trimSlashes dir).length ≤ dir.length := by
  obtain ⟨k, h⟩ := exists_slashes dir
  have hl := congrArg List.length h
  rw [List.length_append] at hl
  omega

theorem mem_of_mem_trimSlashes {b : UInt8} (h : b ∈ trimSlashes dir) : b ∈ dir := by
  obtain ⟨k, e⟩ := exists_slashes dir
  rw [e]
  exact List.mem_append_left _ h

theorem Target.fits_of_create (ht : Target.create dir frames = .ok t) : Fits t.dir := by
  obtain ⟨-, -, hf, rfl⟩ := Target.create_eq_ok_iff.mp ht
  exact ⟨Nat.le_trans (length_trimSlashes_le dir) hf.1, mt mem_of_mem_trimSlashes hf.2⟩

/-- A path names a file in the directory that was given, whatever slashes were taken off it. -/
theorem Target.resolve?_path (ht : Target.create dir frames = .ok t) (hm : m < 2 ^ 64)
    (hk : k < attempts) : d.resolve? (t.dir ++ Disk.slash :: fileName m k) =
      (d.directory? dir).map (· ++ [fileName m k]) := by
  obtain ⟨hn, -, hf, rfl⟩ := Target.create_eq_ok_iff.mp ht
  obtain ⟨j, e⟩ := exists_slashes dir
  have hl := length_fileName_le hm hk
  have hd := length_trimSlashes_le dir
  have hp : dirLimit + 100 ≤ Disk.pathLimit := by decide
  have h := Disk.resolve?_child (d := d) (a := trimSlashes dir) (k := j) (isName_fileName hm hk)
    (e ▸ hn) (e ▸ by have := hf.1; omega) (by
      have := hf.1
      simp only [List.length_append, List.length_cons]
      omega)
  rwa [← e] at h

end Snapshot
end VmHost
