import RubyLayout.Cbor.Read
import RubyLayout.Proofs.Bits

/-!
# CBOR heads, written and read back

A reader works on a buffer and a position. `Stored data pos bs` says that the bytes `bs` lie in
the buffer from `pos` on; it splits along appended byte lists (`stored_append`), so what is
known about the encoding of an item carries over to the encodings of its parts.

The head of an item is its major type in the top three bits of the first byte and its argument,
written in the shortest form: below 24 in the low five bits, otherwise as 1, 2, 4 or 8
big-endian bytes after a first byte that says how many. `readBigEndian` reads back `bigEndian`
when the number fits in the bytes (`readBigEndian_of_stored`), and `readHead` reads back
`encodeHead`: the major type, the additional information `headInfo`, the argument, and the
position after the head (`readHead_of_stored`). The one head it refuses is a simple value
from 24 to 31, which the standard writes in one byte.
-/

set_option autoImplicit false
set_option relaxedAutoImplicit false

namespace RubyLayout.Cbor

/-! ### Bytes in a buffer -/

theorem toList_loop (b : ByteArray) (i : Nat) (r : List UInt8) :
    ByteArray.toList.loop b i r = r.reverse ++ b.data.toList.drop i := by
  fun_induction ByteArray.toList.loop b i r with
  | case1 i r hi ih =>
    have hi' : i < b.data.toList.length := by simpa using hi
    rw [ih, List.drop_eq_getElem_cons hi']
    simp [ByteArray.get!, getElem!_pos b.data i hi]
  | case2 i r hi =>
    rw [List.drop_eq_nil_of_le (by simpa using hi), List.append_nil]

/-- The bytes of a buffer as a list are the bytes of its array. -/
theorem byteArray_toList (b : ByteArray) : b.toList = b.data.toList := by
  rw [ByteArray.toList, toList_loop]
  rfl

/-- The bytes `bs` lie in the buffer from `pos` on, and `pos` is within the buffer. -/
def Stored (data : ByteArray) (pos : Nat) (bs : List UInt8) : Prop :=
  pos ≤ data.size ∧ bs <+: data.data.toList.drop pos

theorem stored_whole (bs : List UInt8) : Stored ⟨bs.toArray⟩ 0 bs :=
  ⟨Nat.zero_le _, by simp⟩

theorem Stored.le_size {data : ByteArray} {pos : Nat} {bs : List UInt8}
    (h : Stored data pos bs) : pos + bs.length ≤ data.size := by
  have hlen := h.2.length_le
  have hsize : data.size = data.data.size := rfl
  simp only [List.length_drop, Array.length_toList] at hlen
  have := h.1
  omega

theorem stored_append {data : ByteArray} {pos : Nat} {a b : List UInt8} :
    Stored data pos (a ++ b) ↔ Stored data pos a ∧ Stored data (pos + a.length) b := by
  constructor
  · intro h
    have hroom := h.le_size
    obtain ⟨hpos, rest, hrest⟩ := h
    rw [List.length_append] at hroom
    refine ⟨⟨hpos, b ++ rest, by rw [← List.append_assoc, hrest]⟩, ⟨by omega, rest, ?_⟩⟩
    rw [← List.drop_drop, ← hrest, List.append_assoc, List.drop_left]
  · rintro ⟨⟨hpos, t, ht⟩, -, rest, hrest⟩
    refine ⟨hpos, rest, ?_⟩
    have hdrop : (data.data.toList.drop pos).drop a.length = t := by rw [← ht, List.drop_left]
    rw [← List.drop_drop, hdrop] at hrest
    rw [← ht, ← hrest, List.append_assoc]

/-- The byte at `pos + i` of a buffer holding `bs` from `pos` on is the `i`-th byte of `bs`. -/
theorem Stored.getElem?_eq {data : ByteArray} {pos : Nat} {bs : List UInt8}
    (h : Stored data pos bs) {i : Nat} (hi : i < bs.length) :
    data.data[pos + i]? = some bs[i] := by
  obtain ⟨-, rest, hrest⟩ := h
  have hget := congrArg (fun l => l[i]?) hrest
  simp only [List.getElem?_append_left hi, List.getElem?_drop] at hget
  rw [← Array.getElem?_toList, ← hget, List.getElem?_eq_getElem hi]

theorem Stored.getElem_eq {data : ByteArray} {pos : Nat} {bs : List UInt8}
    (h : Stored data pos bs) {i : Nat} (hi : i < bs.length) (hlt : pos + i < data.size) :
    data[pos + i] = bs[i] := by
  have hget := h.getElem?_eq hi
  rw [Array.getElem?_eq_getElem hlt] at hget
  exact Option.some.inj hget

theorem Stored.get!_eq {data : ByteArray} {pos : Nat} {bs : List UInt8}
    (h : Stored data pos bs) {i : Nat} {x : UInt8} (hx : bs[i]? = some x) :
    data.get! (pos + i) = x := by
  obtain ⟨hi, hix⟩ := List.getElem?_eq_some_iff.mp hx
  have hget := h.getElem?_eq hi
  rw [hix] at hget
  have hlt : pos + i < data.data.size := by
    rcases Nat.lt_or_ge (pos + i) data.data.size with hlt | hge
    · exact hlt
    · rw [Array.getElem?_eq_none hge] at hget
      cases hget
  rw [Array.getElem?_eq_getElem hlt] at hget
  simp only [ByteArray.get!, getElem!_pos data.data (pos + i) hlt]
  exact Option.some.inj hget

/-- The bytes a buffer holds from `pos` on come out of it as they went in. -/
theorem Stored.extract {data : ByteArray} {pos : Nat} {bs : List UInt8}
    (h : Stored data pos bs) : (data.extract pos (pos + bs.length)).toList = bs := by
  obtain ⟨-, rest, hrest⟩ := h
  rw [byteArray_toList, ByteArray.data_extract, Array.toList_extract, List.extract_eq_take_drop,
    Nat.add_sub_cancel_left, ← hrest, List.take_left]

/-! ### Big-endian arguments -/

theorem length_bigEndian (count : Nat) (n : UInt64) : (bigEndian count n).length = count := by
  simp [bigEndian]

theorem getElem?_bigEndian {count : Nat} (n : UInt64) {i : Nat} (hi : i < count) :
    (bigEndian count n)[i]? = some (n >>> (8 * (count - 1 - i)).toUInt64).toUInt8 := by
  rw [List.getElem?_eq_getElem (by rw [length_bigEndian]; exact hi)]
  simp only [bigEndian, List.getElem_map, List.getElem_reverse, List.length_range,
    List.getElem_range]

/-- After `j` of its `count` bytes, reading a big-endian number has read its top `8 * j` bits. -/
theorem toNat_foldl_bigEndian {count : Nat} {n : UInt64} (hc : count ≤ 8)
    (hn : n.toNat < 2 ^ (8 * count)) {byte : Nat → UInt8}
    (hbyte : ∀ i < count, byte i = (n >>> (8 * (count - 1 - i)).toUInt64).toUInt8) :
    ∀ j ≤ count,
      ((List.range j).foldl (fun (acc : UInt64) (i : Nat) => (acc <<< 8) ||| (byte i).toUInt64) (0 : UInt64)).toNat =
      n.toNat / 2 ^ (8 * (count - j)) := by
  intro j
  induction j with
  | zero =>
    intro _
    rw [Nat.sub_zero, Nat.div_eq_of_lt hn]
    rfl
  | succ j ih =>
    intro hj
    rw [List.range_succ, List.foldl_append, List.foldl_cons, List.foldl_nil]
    have hshift : (8 * (count - 1 - j)).toUInt64.toNat % 64 = 8 * (count - 1 - j) := by
      rw [Nat.toUInt64_eq, UInt64.toNat_ofNat', Nat.mod_eq_of_lt (by omega),
        Nat.mod_eq_of_lt (by omega)]
    have hsplit : 2 ^ (8 * (count - j)) = 2 ^ (8 * (count - (j + 1))) * 2 ^ 8 := by
      rw [← Nat.pow_add]
      congr 1
      omega
    have hdiv : n.toNat / 2 ^ (8 * (count - j)) = n.toNat / 2 ^ (8 * (count - (j + 1))) / 2 ^ 8 := by
      rw [hsplit, Nat.div_div_eq_div_mul]
    have hlow : (byte j).toUInt64.toNat = n.toNat / 2 ^ (8 * (count - (j + 1))) % 2 ^ 8 := by
      rw [hbyte j (by omega), UInt8.toNat_toUInt64, UInt64.toNat_toUInt8, UInt64.toNat_shiftRight,
        hshift, Nat.shiftRight_eq_div_pow, show count - 1 - j = count - (j + 1) by omega]
    have hx : n.toNat / 2 ^ (8 * (count - (j + 1))) < 2 ^ 64 :=
      Nat.lt_of_le_of_lt (Nat.div_le_self _ _) n.toNat_lt
    have hhigh : (((List.range j).foldl (fun (acc : UInt64) (i : Nat) => (acc <<< 8) ||| (byte i).toUInt64)
        (0 : UInt64)) <<< 8).toNat =
        n.toNat / 2 ^ (8 * (count - (j + 1))) / 2 ^ 8 * 2 ^ 8 := by
      rw [UInt64.toNat_shiftLeft, ih (by omega), hdiv, Nat.shiftLeft_eq]
      exact Nat.mod_eq_of_lt (Nat.lt_of_le_of_lt (Nat.div_mul_le_self _ _) hx)
    rw [Bits.toNat_or_of_lt _ _ (k := 8) (by rw [hhigh]; exact Nat.mul_mod_left _ _)
      (by rw [hlow]; exact Nat.mod_lt _ (by decide)), hhigh, hlow]
    exact Nat.div_add_mod' _ _

/-- A number that fits in `count ≤ 8` bytes reads back from its big-endian bytes. -/
theorem readBigEndian_of_stored {data : ByteArray} {pos count : Nat} {n : UInt64}
    (h : Stored data pos (bigEndian count n)) (hc : count ≤ 8) (hn : n.toNat < 2 ^ (8 * count)) :
    readBigEndian data pos count = some n := by
  have hroom := h.le_size
  rw [length_bigEndian] at hroom
  have hbyte : ∀ i < count, data.get! (pos + i) = (n >>> (8 * (count - 1 - i)).toUInt64).toUInt8 :=
    fun i hi => h.get!_eq (getElem?_bigEndian n hi)
  have hread := toNat_foldl_bigEndian hc hn hbyte count (Nat.le_refl _)
  rw [Nat.sub_self, Nat.mul_zero, Nat.pow_zero, Nat.div_one] at hread
  unfold readBigEndian
  rw [if_pos hroom]
  exact congrArg some (UInt64.toNat_inj.mp hread)

/-! ### Heads -/

/-- The additional information of the shortest head for the argument `n`: the argument itself
below 24, else 24 to 27 for 1, 2, 4 or 8 bytes. -/
def headInfo (n : UInt64) : Nat :=
  if n < 24 then n.toNat else if n < 0x100 then 24 else if n < 0x10000 then 25
  else if n < 0x100000000 then 26 else 27

theorem headInfo_le (n : UInt64) : headInfo n ≤ 27 := by
  unfold headInfo
  split
  · have := UInt64.lt_iff_toNat_lt.mp ‹n < 24›
    simp only [UInt64.reduceToNat] at this
    omega
  · repeat' split
    all_goals omega

/-- An argument that fits a byte has a head of at most one extra byte. -/
theorem headInfo_lt_of_lt {n : UInt64} (hn : n < 0x100) : headInfo n < 25 := by
  unfold headInfo
  split
  · have := UInt64.lt_iff_toNat_lt.mp ‹n < 24›
    simp only [UInt64.reduceToNat] at this
    omega
  · omega

/-- The first byte of a head: its major type in the top three bits, the additional information
in the low five. -/
theorem firstByte_fields : ∀ m : Fin 8, ∀ x : Fin 28,
    (((m.val * 32).toUInt8 + x.val.toUInt8) >>> 5).toNat = m.val ∧
      (((m.val * 32).toUInt8 + x.val.toUInt8) &&& 31).toNat = x.val := by
  decide

/-- A head whose first byte holds the major type `m` and the additional information `info` of a
long argument, followed by its big-endian bytes, reads back. -/
theorem readHead_of_long {data : ByteArray} {pos m : Nat} {n : UInt64} (k : Nat) (hm : m < 8)
    (hk : k < 4) (hfit : n.toNat < 2 ^ (8 * 2 ^ k)) (hsimple : m = 7 → n < 24 ∨ 32 ≤ n)
    (hlong : 24 ≤ n)
    (h : Stored data pos (((m * 32).toUInt8 + (24 + k).toUInt8) :: bigEndian (2 ^ k) n)) :
    readHead data pos = .ok ⟨m, 24 + k, n, pos + 1 + 2 ^ k⟩ := by
  have hsplit := stored_append.mp (show Stored data pos ([_] ++ bigEndian (2 ^ k) n) from h)
  have hlt : pos < data.size := by have := hsplit.1.le_size; simp at this; omega
  have hfirst : data[pos] = (m * 32).toUInt8 + (24 + k).toUInt8 := by
    simpa using hsplit.1.getElem_eq (i := 0) (by simp) (by simpa using hlt)
  have hfields := firstByte_fields ⟨m, hm⟩ ⟨24 + k, by omega⟩
  have hread : readBigEndian data (pos + 1) (2 ^ k) = some n :=
    readBigEndian_of_stored (by simpa using hsplit.2)
      (Nat.pow_le_pow_right (n := 2) (by decide) (by omega : k ≤ 3)) hfit
  have hnotSimple : ¬ (24 + k = 24 ∧ m = 7 ∧ n < 32) := by
    rintro ⟨-, h7, hsmall⟩
    rcases hsimple h7 with h24 | h32
    · exact absurd hlong (UInt64.not_le.mpr h24)
    · exact absurd hsmall (UInt64.not_lt.mpr h32)
  unfold readHead
  simp only [dif_pos hlt, hfirst, hfields.1, hfields.2]
  rw [if_neg (by omega), if_pos (by omega), show 24 + k - 24 = k by omega]
  simp only [Nat.pow_eq, hread, if_neg hnotSimple]
  rfl

/-- A head written in the shortest form reads back as its major type, additional information,
argument and the position after it; only a simple value from 24 to 31 is refused. -/
theorem readHead_of_stored {data : ByteArray} {pos m : Nat} {n : UInt64} (hm : m < 8)
    (hsimple : m = 7 → n < 24 ∨ 32 ≤ n) (h : Stored data pos (encodeHead m n)) :
    readHead data pos = .ok ⟨m, headInfo n, n, pos + (encodeHead m n).length⟩ := by
  have hlen := encodeHead_length m n
  unfold encodeHead at h
  dsimp only at h
  unfold headInfo
  by_cases h24 : n < 24
  · rw [if_pos h24] at h hlen
    rw [if_pos h24, hlen]
    have hn : n.toNat < 24 := by
      have := UInt64.lt_iff_toNat_lt.mp h24
      simpa using this
    have hlt : pos < data.size := by have := h.le_size; simp at this; omega
    have hfirst : data[pos] = (m * 32).toUInt8 + n.toNat.toUInt8 := by
      simpa using h.getElem_eq (i := 0) (by simp) (by simpa using hlt)
    have hfields := firstByte_fields ⟨m, hm⟩ ⟨n.toNat, by omega⟩
    unfold readHead
    simp only [dif_pos hlt, hfirst, hfields.1, hfields.2, if_pos hn]
    simp only [Nat.toUInt64_eq, UInt64.ofNat_toNat]
    rfl
  · rw [if_neg h24] at h hlen
    rw [if_neg h24]
    have hlong : 24 ≤ n := UInt64.not_lt.mp h24
    have hN := n.toNat_lt
    by_cases h1 : n < 0x100
    · rw [if_pos h1] at h hlen
      rw [if_pos h1, hlen]
      exact readHead_of_long 0 hm (by decide) (by simpa using UInt64.lt_iff_toNat_lt.mp h1)
        hsimple hlong h
    · rw [if_neg h1] at h hlen
      rw [if_neg h1]
      by_cases h2 : n < 0x10000
      · rw [if_pos h2] at h hlen
        rw [if_pos h2, hlen]
        exact readHead_of_long 1 hm (by decide) (by simpa using UInt64.lt_iff_toNat_lt.mp h2)
          hsimple hlong h
      · rw [if_neg h2] at h hlen
        rw [if_neg h2]
        by_cases h4 : n < 0x100000000
        · rw [if_pos h4] at h hlen
          rw [if_pos h4, hlen]
          exact readHead_of_long 2 hm (by decide) (by simpa using UInt64.lt_iff_toNat_lt.mp h4)
            hsimple hlong h
        · rw [if_neg h4] at h hlen
          rw [if_neg h4, hlen]
          exact readHead_of_long 3 hm (by decide) (by simpa using hN) hsimple hlong h

end RubyLayout.Cbor
