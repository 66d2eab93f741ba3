import Mathlib
import RubyLayout.Memory

/-!
# Bytes of the arena

The arena is read and written through its kept prefix of bytes, which a write may first extend
with zeros. This module gives the byte-level view that hides that prefix:

* `byteAt_putBytes` is the frame law of a write: the written range reads the new bytes, every
  other offset reads what it read before;
* `readBytes_spec` says what a readable range reads, byte by byte;
* `toNat_foldl_wordBytes` is the little-endian codec: assembling the first `k` bytes of a word
  gives the word modulo `2^(8k)`.

`HoldsBytes m off b` says that the bytes `b` lie readable at the offset `off` of `m`. It is the
invariant the builders establish and the accessors consume: a write establishes it
(`holdsBytes_putBytes_self`), a write elsewhere keeps it (`holdsBytes_putBytes_of_disjoint`),
and a read of a held range returns the bytes (`readBytes_of_holdsBytes`) or the word they encode
(`readWord_of_holdsBytes`). Bytes held below an offset stay held in every memory over the same
arena that agrees with it below that offset (`HoldsBytes.of_agreesBelow`).
-/

set_option autoImplicit false
set_option relaxedAutoImplicit false

namespace RubyLayout.Memory

/-! ### Bytes through the kept prefix -/

/-- A byte is its entry in the kept prefix, or zero beyond it. -/
theorem byteAt_eq (m : Memory) (i : Nat) : m.byteAt i = (m.bytes.data[i]?).getD 0 := by
  obtain ⟨base, size, ⟨data⟩⟩ := m
  show data[i]! = data[i]?.getD 0
  rw [getElem!_def]
  cases data[i]? <;> rfl

/-- Extending the kept prefix with zeros changes no byte. -/
theorem byteAt_reserve (m : Memory) (n i : Nat) : (m.reserve n).byteAt i = m.byteAt i := by
  unfold reserve
  split
  · rw [byteAt_eq, byteAt_eq, ByteArray.data_append, Array.getElem?_append]
    split
    · rfl
    · have hnone : m.bytes.data[i]? = none := Array.getElem?_eq_none (by omega)
      rw [hnone, Array.getElem?_replicate]
      split <;> rfl
  · rfl

theorem size_reserve_ge (m : Memory) (n : Nat) : n ≤ (m.reserve n).bytes.size := by
  unfold reserve
  split
  · rw [ByteArray.size_append]
    show n ≤ m.bytes.size + (Array.replicate _ (0 : UInt8)).size
    rw [Array.size_replicate]
    omega
  · omega

@[simp] theorem base_putBytes (m : Memory) (off : Nat) (b : ByteArray) :
    (m.putBytes off b).base = m.base := by
  unfold putBytes reserve
  split <;> rfl

@[simp] theorem size_putBytes (m : Memory) (off : Nat) (b : ByteArray) :
    (m.putBytes off b).size = m.size := by
  unfold putBytes reserve
  split <;> rfl

@[simp] theorem mapped_putBytes (m : Memory) (off : Nat) (b : ByteArray) :
    (m.putBytes off b).mapped = m.mapped := by
  rw [mapped, mapped, size_putBytes]

/-- The frame law of a write: the written range reads the new bytes, the rest is unchanged. -/
theorem byteAt_putBytes (m : Memory) (off : Nat) (b : ByteArray) (i : Nat) :
    (m.putBytes off b).byteAt i =
      if off ≤ i ∧ i < off + b.size then b.data[i - off]?.getD 0 else m.byteAt i := by
  unfold putBytes
  dsimp only
  have hsize := size_reserve_ge m (off + b.size)
  generalize hd : m.reserve (off + b.size) = d at hsize
  have hb : b.data.size = b.size := rfl
  have hdz : d.bytes.data.size = d.bytes.size := rfl
  rw [byteAt_eq, ByteArray.copySlice_eq_append, ← byteAt_reserve m (off + b.size) i, hd,
    byteAt_eq d i]
  simp only [ByteArray.data_append, ByteArray.data_extract, Array.getElem?_append,
    Array.size_extract, Array.getElem?_extract, Array.size_append, hb, hdz, Nat.sub_zero,
    Nat.zero_add, Nat.min_eq_left (show off ≤ d.bytes.size by omega),
    Nat.min_eq_left (Nat.le_refl _)]
  by_cases h1 : i < off
  · have h1' : i < off + b.size := by omega
    have h1'' : ¬ off ≤ i := by omega
    simp only [h1, h1', h1'', false_and, if_true, if_false]
  · by_cases h2 : i < off + b.size
    · have h1' : off ≤ i := by omega
      have h2' : i - off < b.size := by omega
      simp only [h1, h2, h1', h2', and_self, if_true, if_false]
    · simp only [h2, and_false, if_false]
      by_cases h3 : i < d.bytes.size
      · have h3' : i - (off + b.size) < d.bytes.size - (off + b.size) := by omega
        rw [if_pos h3', Nat.add_sub_cancel' (by omega)]
      · have h3' : ¬ i - (off + b.size) < d.bytes.size - (off + b.size) := by omega
        rw [if_neg h3', Array.getElem?_eq_none (by omega)]

/-- A readable range reads its bytes one by one, zero where nothing was written. -/
theorem readBytes_spec (m : Memory) (addr : UInt64) (n : Nat) (h : m.readable addr n = true) :
    ∃ r, m.readBytes addr n = .ok r ∧ r.size = n ∧
      ∀ i, i < n → r.data[i]? = some (m.byteAt (addr.toNat - m.base.toNat + i)) := by
  refine ⟨_, if_pos h, ?_, ?_⟩
  · simp only [ByteArray.size_append, ByteArray.size_extract]
    show _ + (Array.replicate _ (0 : UInt8)).size = n
    rw [Array.size_replicate]
    omega
  · intro i hi
    simp only [ByteArray.data_append, ByteArray.data_extract, Array.getElem?_append,
      Array.size_extract, Array.getElem?_extract, byteAt_eq]
    have hsz : m.bytes.data.size = m.bytes.size := rfl
    generalize addr.toNat - m.base.toNat = off
    rw [hsz]
    by_cases hin : off + i < m.bytes.size
    · have hlt : i < min (off + min n (m.bytes.size - off)) m.bytes.size - off := by omega
      rw [if_pos hlt, if_pos hlt, Array.getElem?_eq_getElem (by rw [hsz]; exact hin)]
      rfl
    · have hlt : ¬ i < min (off + min n (m.bytes.size - off)) m.bytes.size - off := by omega
      rw [if_neg hlt, Array.getElem?_replicate, if_pos (by omega),
        Array.getElem?_eq_none (by rw [hsz]; omega)]
      rfl

theorem size_le_mapped (m : Memory) : m.size ≤ m.mapped := by
  unfold mapped roundToPages pageSize
  omega

/-! ### The little-endian word codec -/

@[simp] theorem wordBytes_size (w : UInt64) : (wordBytes w).size = 8 := by
  simp [wordBytes, ByteArray.size]

theorem wordBytes_getElem? (w : UInt64) {i : Nat} (hi : i < 8) :
    (wordBytes w).data[i]? = some (w >>> (8 * i).toUInt64).toUInt8 := by
  simp [wordBytes, List.getElem?_range hi]

/-- Assembling the first `k` little-endian bytes of a word gives the word modulo `2^(8k)`. -/
theorem toNat_foldl_wordBytes (w : UInt64) (k : Nat) (hk : k ≤ 8) :
    ((List.range k).foldl (fun acc i ↦
      acc ||| ((w >>> (8 * i).toUInt64).toUInt8.toUInt64 <<< (8 * i).toUInt64)) 0).toNat =
      w.toNat % 2 ^ (8 * k) := by
  induction k with
  | zero => simp [Nat.mod_one]
  | succ k ih =>
    rw [List.range_succ, List.foldl_append, List.foldl_cons, List.foldl_nil, UInt64.toNat_or,
      ih (by omega)]
    have h8k : (8 * k).toUInt64.toNat = 8 * k := by
      rw [Nat.toUInt64_eq, UInt64.toNat_ofNat']
      omega
    have hs : 8 * k % 64 = 8 * k := Nat.mod_eq_of_lt (by omega)
    have hpow : 2 ^ (8 * k) * 2 ^ 8 = 2 ^ (8 * (k + 1)) := by
      rw [← Nat.pow_add, Nat.mul_succ]
    have hc : w.toNat / 2 ^ (8 * k) % 2 ^ 8 < 2 ^ 8 := Nat.mod_lt _ (by decide)
    have hfit : (w.toNat / 2 ^ (8 * k) % 2 ^ 8) <<< (8 * k) < 2 ^ 64 := by
      rw [Nat.shiftLeft_eq]
      calc w.toNat / 2 ^ (8 * k) % 2 ^ 8 * 2 ^ (8 * k) < 2 ^ 8 * 2 ^ (8 * k) :=
            Nat.mul_lt_mul_of_pos_right hc (Nat.two_pow_pos _)
        _ = 2 ^ (8 * (k + 1)) := by rw [Nat.mul_comm, hpow]
        _ ≤ 2 ^ 64 := Nat.pow_le_pow_right (by decide) (by omega)
    rw [UInt64.toNat_shiftLeft, UInt8.toNat_toUInt64, UInt64.toNat_toUInt8,
      UInt64.toNat_shiftRight, h8k, hs, Nat.shiftRight_eq_div_pow, Nat.mod_eq_of_lt hfit,
      Nat.or_comm, ← Nat.shiftLeft_add_eq_or_of_lt (Nat.mod_lt _ (Nat.two_pow_pos _)),
      Nat.shiftLeft_eq, ← hpow, Nat.mod_mul, Nat.add_comm, Nat.mul_comm (2 ^ (8 * k))]

/-- Eight bytes assembled little-endian are the word whose bytes they are. -/
theorem foldl_bytes_eq {w : UInt64} (byte : Nat → UInt8)
    (hbyte : ∀ i, i < 8 → byte i = (w >>> (8 * i).toUInt64).toUInt8) :
    (List.range 8).foldl (fun acc i ↦ acc ||| ((byte i).toUInt64 <<< (8 * i).toUInt64)) 0 = w := by
  rw [List.foldl_ext _ _ _ (fun acc i hi ↦ by rw [hbyte i (List.mem_range.mp hi)])]
  apply UInt64.toNat_inj.mp
  rw [toNat_foldl_wordBytes w 8 (Nat.le_refl 8)]
  exact Nat.mod_eq_of_lt w.toNat_lt

/-! ### Held bytes -/

/-- The bytes `b` lie in the readable pages from the offset `off` and read back one by one. -/
def HoldsBytes (m : Memory) (off : Nat) (b : ByteArray) : Prop :=
  off + b.size ≤ m.mapped ∧ ∀ i, i < b.size → b.data[i]? = some (m.byteAt (off + i))

theorem holdsBytes_of_size_eq_zero {m : Memory} {off : Nat} {b : ByteArray}
    (h : off ≤ m.mapped) (hb : b.size = 0) : HoldsBytes m off b :=
  ⟨by omega, fun i hi ↦ absurd hi (by omega)⟩

theorem holdsBytes_putBytes_self {m : Memory} {off : Nat} {b : ByteArray}
    (h : off + b.size ≤ m.mapped) : HoldsBytes (m.putBytes off b) off b := by
  refine ⟨by rw [mapped_putBytes]; exact h, fun i hi ↦ ?_⟩
  rw [byteAt_putBytes, if_pos (by omega), Nat.add_sub_cancel_left,
    Array.getElem?_eq_getElem (show i < b.data.size from hi)]
  rfl

theorem holdsBytes_putBytes_of_disjoint {m : Memory} {off off' : Nat} {b c : ByteArray}
    (hb : HoldsBytes m off b) (hd : off + b.size ≤ off' ∨ off' + c.size ≤ off) :
    HoldsBytes (m.putBytes off' c) off b := by
  refine ⟨by rw [mapped_putBytes]; exact hb.1, fun i hi ↦ ?_⟩
  rw [byteAt_putBytes, if_neg (by omega)]
  exact hb.2 i hi

theorem readable_of_holdsBytes {m : Memory} {off : Nat} {b : ByteArray} {addr : UInt64}
    (hb : HoldsBytes m off b) (ha : addr.toNat = m.base.toNat + off) :
    m.readable addr b.size = true := by
  have hfit := hb.1
  simp only [readable, Bool.and_eq_true, decide_eq_true_eq]
  constructor <;> omega

/-- A held range reads back as its bytes. -/
theorem readBytes_of_holdsBytes {m : Memory} {off : Nat} {b : ByteArray} {addr : UInt64}
    (hb : HoldsBytes m off b) (ha : addr.toNat = m.base.toNat + off) :
    m.readBytes addr b.size = .ok b := by
  obtain ⟨r, hread, hsize, hget⟩ := readBytes_spec m addr b.size (readable_of_holdsBytes hb ha)
  rw [hread]
  congr 1
  apply ByteArray.ext
  apply Array.ext_getElem?
  intro i
  by_cases hi : i < b.size
  · rw [hget i hi, hb.2 i hi, ha, Nat.add_sub_cancel_left]
  · rw [Array.getElem?_eq_none (by show r.size ≤ i; omega),
      Array.getElem?_eq_none (by show b.size ≤ i; omega)]

/-- A held word reads back as itself. -/
theorem readWord_of_holdsBytes {m : Memory} {off : Nat} {w : UInt64} {addr : UInt64}
    (hb : HoldsBytes m off (wordBytes w)) (ha : addr.toNat = m.base.toNat + off) :
    m.readWord addr = .ok w := by
  have hr := readable_of_holdsBytes hb ha
  rw [wordBytes_size] at hr
  have hbyte : ∀ i, i < 8 →
      m.byteAt (addr.toNat - m.base.toNat + i) = (w >>> (8 * i).toUInt64).toUInt8 := by
    intro i hi
    have hi' := hb.2 i (by rw [wordBytes_size]; exact hi)
    rw [wordBytes_getElem? w hi] at hi'
    rw [ha, Nat.add_sub_cancel_left]
    exact (Option.some.inj hi').symm
  rw [readWord, if_pos hr]
  exact congrArg Except.ok (foldl_bytes_eq _ hbyte)

/-! ### Memories that agree below an offset -/

/-- `m'` lies over the same arena as `m` and holds the same bytes at the offsets below `hi`. -/
structure AgreesBelow (m m' : Memory) (hi : Nat) : Prop where
  base_eq : m'.base = m.base
  size_eq : m'.size = m.size
  byteAt_eq : ∀ i, i < hi → m'.byteAt i = m.byteAt i

theorem AgreesBelow.refl (m : Memory) (hi : Nat) : m.AgreesBelow m hi :=
  ⟨rfl, rfl, fun _ _ ↦ rfl⟩

/-- Bytes held below `hi` are held in every memory that agrees below `hi`. -/
theorem HoldsBytes.of_agreesBelow {m m' : Memory} {off hi : Nat} {b : ByteArray}
    (hb : HoldsBytes m off b) (ha : m.AgreesBelow m' hi) (hhi : off + b.size ≤ hi) :
    HoldsBytes m' off b := by
  refine ⟨by rw [mapped, ha.size_eq]; exact hb.1, fun i hi' ↦ ?_⟩
  rw [ha.byteAt_eq (off + i) (by omega)]
  exact hb.2 i hi'

end RubyLayout.Memory
