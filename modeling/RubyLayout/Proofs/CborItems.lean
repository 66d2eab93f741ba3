import RubyLayout.Proofs.CborHeads

/-!
# CBOR items, written and read back

`Item.encode` writes an item canonically and `Cbor.read` reads one item, refusing what a strict
decoder refuses: nesting deeper than `maxNesting`, more than `maxElements` elements or pairs,
lengths past `2^63 - 1`, simple values from 24 to 31 written in two bytes. `Readable depth i`
names the items without tags or floats that stay within these limits at nesting `depth`; arrays
and maps add a level for their elements.

The reader takes back what the writer wrote. A readable item stored anywhere in a buffer reads
as itself and leaves the reader right after it, given as much fuel as its encoding has bytes
(`readItem_of_stored`); the proof is an induction on `Readable`, and for arrays and maps an inner
induction on the elements read one after another (`readCount_of_stored`). A map is read as the
flat list of its keys and values and paired up again. On its own bytes the whole reader gives
the item back (`read_encode`).
-/

set_option autoImplicit false
set_option relaxedAutoImplicit false

namespace RubyLayout.Cbor

/-- The items that read back from their canonical encoding at nesting `depth`: no tags or
floats, byte and text strings of at most `2^63 - 1` bytes, simple values other than 24 to 31,
and arrays and maps of at most `maxElements` readable elements, each adding a level of nesting
below `maxNesting`. -/
inductive Readable : Nat → Item → Prop
  | unsigned (depth : Nat) (n : UInt64) : Readable depth (.unsigned n)
  | negative (depth : Nat) (n : UInt64) : Readable depth (.negative n)
  | bytes (depth : Nat) (b : List UInt8) (hb : b.length ≤ lengthLimit.toNat) :
      Readable depth (.bytes b)
  | text (depth : Nat) (b : List UInt8) (hb : b.length ≤ lengthLimit.toNat) :
      Readable depth (.text b)
  | simple (depth : Nat) (v : UInt8) (hv : v < 24 ∨ 32 ≤ v) : Readable depth (.simple v)
  | array (depth : Nat) (items : List Item) (hd : depth < maxNesting)
      (hn : items.length ≤ maxElements) (hitems : ∀ i ∈ items, Readable (depth + 1) i) :
      Readable depth (.array items)
  | map (depth : Nat) (entries : List (Item × Item)) (hd : depth < maxNesting)
      (hn : entries.length ≤ maxElements) (hkeys : ∀ e ∈ entries, Readable (depth + 1) e.1)
      (hvalues : ∀ e ∈ entries, Readable (depth + 1) e.2) :
      Readable depth (.map entries)

/-! ### The canonical encoding -/

/-- The keys and values of map entries, one after another. -/
def flatEntries (entries : List (Item × Item)) : List Item :=
  entries.flatMap fun e => [e.1, e.2]

theorem encodeEntries_eq (entries : List (Item × Item)) :
    Item.encode.encodeEntries entries = Item.encode.encodeList (flatEntries entries) := by
  induction entries with
  | nil => rfl
  | cons e rest ih =>
    simp only [Item.encode.encodeEntries, flatEntries, List.flatMap_cons, Item.encode.encodeList,
      List.cons_append, List.nil_append, List.append_assoc]
    rw [ih]
    rfl

theorem length_flatEntries (entries : List (Item × Item)) :
    (flatEntries entries).length = 2 * entries.length := by
  induction entries with
  | nil => rfl
  | cons e rest ih =>
    simp only [flatEntries, List.flatMap_cons, List.length_append, List.length_cons,
      List.length_nil] at ih ⊢
    omega

theorem pairUp_flatEntries (entries : List (Item × Item)) :
    pairUp (flatEntries entries) = entries := by
  induction entries with
  | nil => rfl
  | cons e rest ih =>
    simp only [flatEntries, List.flatMap_cons] at ih ⊢
    rw [List.cons_append, List.cons_append, List.nil_append, pairUp, ih]

theorem mem_flatEntries {entries : List (Item × Item)} {i : Item} (hi : i ∈ flatEntries entries) :
    ∃ e ∈ entries, i = e.1 ∨ i = e.2 := by
  obtain ⟨e, he, hi⟩ := List.mem_flatMap.mp hi
  simp only [List.mem_cons, List.not_mem_nil, or_false] at hi
  exact ⟨e, he, hi⟩

theorem length_le_encodeList {items : List Item} {i : Item} (hi : i ∈ items) :
    i.encode.length ≤ (Item.encode.encodeList items).length := by
  induction items with
  | nil => cases hi
  | cons j rest ih =>
    rw [Item.encode.encodeList, List.length_append]
    rcases List.mem_cons.mp hi with rfl | hrest
    · omega
    · have := ih hrest
      omega

theorem length_encodeHead_pos (major : Nat) (n : UInt64) : 0 < (encodeHead major n).length := by
  rw [encodeHead_length]
  repeat' split
  all_goals omega

/-- Every item takes at least one byte. -/
theorem length_encode_pos (i : Item) : 0 < i.encode.length := by
  have hhead : ∀ (major : Nat) (n : UInt64) (rest : List UInt8),
      0 < (encodeHead major n ++ rest).length := fun major n rest => by
    rw [List.length_append]
    have := length_encodeHead_pos major n
    omega
  cases i with
  | unsigned n => exact length_encodeHead_pos 0 n
  | negative n => exact length_encodeHead_pos 1 n
  | bytes b => exact hhead 2 _ b
  | text b => exact hhead 3 _ b
  | array items => exact hhead 4 _ _
  | map entries => exact hhead 5 _ _
  | tag t c => exact hhead 6 t _
  | simple v => exact length_encodeHead_pos 7 _
  | float w bits =>
    simp only [Item.encode]
    split
    · simp
    · split <;> simp

/-! ### Reading items back -/

/-- Items stored one after another read back one after another, when each reads back on its
own with the fuel given. -/
theorem readCount_of_stored {depth fuel : Nat} {items : List Item}
    (hitems : ∀ i ∈ items, ∀ {data : ByteArray} {pos : Nat}, Stored data pos i.encode →
      readItem data fuel depth pos = .ok (i, pos + i.encode.length))
    {data : ByteArray} {pos : Nat} (h : Stored data pos (Item.encode.encodeList items)) :
    readCount data fuel depth items.length pos =
      .ok (items, pos + (Item.encode.encodeList items).length) := by
  induction items generalizing pos with
  | nil =>
    rw [List.length_nil, readCount]
    rfl
  | cons i rest ih =>
    rw [Item.encode.encodeList] at h
    obtain ⟨hfirst, hrest⟩ := stored_append.mp h
    have hread := hitems i (List.mem_cons_self ..) hfirst
    have hreadRest := ih (fun j hj => hitems j (List.mem_cons_of_mem _ hj)) hrest
    rw [List.length_cons, readCount, hread]
    simp only [bind, Except.bind, hreadRest, Item.encode.encodeList, List.length_append,
      Nat.add_assoc]
    rfl

theorem maxElements_le_lengthLimit : maxElements ≤ lengthLimit.toNat := by decide

/-- The head of a string or a container whose length is within the length limit: its argument
is the length, and it is no indefinite-length head. -/
theorem lengthHead_facts {n : Nat} (hlen : n ≤ lengthLimit.toNat) :
    n.toUInt64.toNat = n ∧ ¬ n.toUInt64 > lengthLimit ∧ headInfo n.toUInt64 ≠ 31 := by
  have hlimit : lengthLimit.toNat < 2 ^ 64 := by decide
  have hval : n.toUInt64.toNat = n := UInt64.toNat_ofNat_of_lt' (show n < 2 ^ 64 by omega)
  refine ⟨hval, ?_, ?_⟩
  · rw [GT.gt, UInt64.lt_iff_toNat_lt, hval]
    omega
  · have := headInfo_le n.toUInt64
    omega

/-- A string of bytes or text reads back after its head. -/
theorem readItem_string {m : Nat} (hm : m = 2 ∨ m = 3) {b : List UInt8}
    (hb : b.length ≤ lengthLimit.toNat) {data : ByteArray} {fuel depth pos : Nat}
    (h : Stored data pos (encodeHead m b.length.toUInt64 ++ b)) :
    readItem data (fuel + 1) depth pos =
      .ok (if m = 2 then .bytes b else .text b, pos + (encodeHead m b.length.toUInt64 ++ b).length) := by
  obtain ⟨hval, hsmall, hinfo⟩ := lengthHead_facts hb
  obtain ⟨hhead, hbytes⟩ := stored_append.mp h
  have hroom := hbytes.le_size
  have hread := readHead_of_stored (by omega) (fun h7 => absurd h7 (by omega)) hhead
  rw [List.length_append, ← Nat.add_assoc]
  rcases hm with rfl | rfl
  all_goals
    rw [readItem, hread]
    simp only [bind, Except.bind, if_neg hinfo, if_neg hsmall, hval, if_pos hroom, hbytes.extract]
    rfl

/-- A simple value other than the two-byte ones reads back from its one head: its additional
information is none of the float widths 25 to 27. -/
theorem readItem_simple {v : UInt8} (hv : v < 24 ∨ 32 ≤ v) {data : ByteArray}
    {fuel depth pos : Nat} (h : Stored data pos (encodeHead 7 v.toUInt64)) :
    readItem data (fuel + 1) depth pos =
      .ok (.simple v, pos + (encodeHead 7 v.toUInt64).length) := by
  have hv' : v.toUInt64 < 24 ∨ 32 ≤ v.toUInt64 := by
    simp only [UInt8.lt_iff_toNat_lt, UInt8.le_iff_toNat_le, UInt64.lt_iff_toNat_lt,
      UInt64.le_iff_toNat_le, UInt8.toNat_toUInt64] at hv ⊢
    exact hv
  have hbyte : v.toUInt64 < 0x100 := by
    rw [UInt64.lt_iff_toNat_lt, UInt8.toNat_toUInt64]
    exact v.toNat_lt
  have hinfo := headInfo_lt_of_lt hbyte
  rw [readItem, readHead_of_stored (by decide) (fun _ => hv') h]
  simp only [bind, Except.bind, if_neg (show headInfo v.toUInt64 ≠ 25 by omega),
    if_neg (show headInfo v.toUInt64 ≠ 26 by omega),
    if_neg (show headInfo v.toUInt64 ≠ 27 by omega), UInt8.toUInt8_toUInt64]
  rfl

/-- An array or a map reads back after its head, once its elements read back one after another:
a map's head counts pairs, and the keys and values are paired up again. -/
theorem readItem_container {m : Nat} (hm : m = 4 ∨ m = 5) {n : Nat} (hn : n ≤ maxElements)
    {items : List Item} (hcount : items.length = if m = 4 then n else 2 * n)
    {depth : Nat} (hd : depth < maxNesting) {data : ByteArray} {fuel pos : Nat}
    (h : Stored data pos (encodeHead m n.toUInt64 ++ Item.encode.encodeList items))
    (hitems : readCount data fuel (depth + 1) items.length
      (pos + (encodeHead m n.toUInt64).length) =
        .ok (items, pos + (encodeHead m n.toUInt64).length +
          (Item.encode.encodeList items).length)) :
    readItem data (fuel + 1) depth pos =
      .ok (if m = 4 then .array items else .map (pairUp items),
        pos + (encodeHead m n.toUInt64 ++ Item.encode.encodeList items).length) := by
  obtain ⟨hval, hsmall, hinfo⟩ := lengthHead_facts (Nat.le_trans hn maxElements_le_lengthLimit)
  have hdepth : ¬ depth + 1 > maxNesting := by omega
  have hfew : ¬ n > maxElements := by omega
  have hread := readHead_of_stored (by omega) (fun h7 => absurd h7 (by omega))
    (stored_append.mp h).1
  rw [List.length_append, ← Nat.add_assoc]
  rcases hm with rfl | rfl
  · simp only [if_true] at hcount ⊢
    subst hcount
    rw [readItem, hread]
    simp only [bind, Except.bind, if_neg hdepth, if_neg hinfo, if_neg hsmall, hval, true_and,
      if_neg hfew, Nat.reduceEqDiff, false_and, if_false, if_true, hitems]
    rfl
  · simp only [Nat.reduceEqDiff, if_false] at hcount ⊢
    rw [readItem, hread]
    simp only [bind, Except.bind, if_neg hdepth, if_neg hinfo, if_neg hsmall, hval,
      Nat.reduceEqDiff, false_and, if_false, true_and, if_neg hfew, ← hcount, hitems]
    rfl

/-- A readable item stored anywhere in a buffer reads back as itself, leaving the reader right
after it, given as much fuel as the encoding has bytes. -/
theorem readItem_of_stored {depth : Nat} {i : Item} (hi : Readable depth i) :
    ∀ {data : ByteArray} {pos fuel : Nat}, Stored data pos i.encode → i.encode.length ≤ fuel →
      readItem data fuel depth pos = .ok (i, pos + i.encode.length) := by
  have hfuel : ∀ {fuel : Nat} (major : Nat) (n : UInt64) (rest : List UInt8),
      (encodeHead major n ++ rest).length ≤ fuel → ∃ f, fuel = f + 1 := by
    intro fuel major n rest hle
    have := length_encodeHead_pos major n
    rw [List.length_append] at hle
    exact ⟨fuel - 1, by omega⟩
  induction hi with
  | unsigned depth n =>
    intro data pos fuel h hle
    obtain ⟨f, rfl⟩ := hfuel 0 n [] (by simpa [Item.encode] using hle)
    rw [readItem, readHead_of_stored (by decide) (fun h7 => absurd h7 (by decide)) h]
    rfl
  | negative depth n =>
    intro data pos fuel h hle
    obtain ⟨f, rfl⟩ := hfuel 1 n [] (by simpa [Item.encode] using hle)
    rw [readItem, readHead_of_stored (by decide) (fun h7 => absurd h7 (by decide)) h]
    rfl
  | bytes depth b hb =>
    intro data pos fuel h hle
    obtain ⟨f, rfl⟩ := hfuel 2 _ b hle
    exact readItem_string (.inl rfl) hb h
  | text depth b hb =>
    intro data pos fuel h hle
    obtain ⟨f, rfl⟩ := hfuel 3 _ b hle
    exact readItem_string (.inr rfl) hb h
  | simple depth v hv =>
    intro data pos fuel h hle
    obtain ⟨f, rfl⟩ := hfuel 7 v.toUInt64 [] (by simpa [Item.encode] using hle)
    exact readItem_simple hv h
  | array depth items hd hn hitems ih =>
    intro data pos fuel h hle
    obtain ⟨f, rfl⟩ := hfuel 4 _ _ hle
    have hhead := length_encodeHead_pos 4 items.length.toUInt64
    simp only [Item.encode, List.length_append] at hle
    have hcount := readCount_of_stored
      (fun i hi data pos hs => @ih i hi data pos f hs (by have := length_le_encodeList hi; omega))
      (stored_append.mp h).2
    exact readItem_container (.inl rfl) hn (by simp) hd h hcount
  | map depth entries hd hn hkeys hvalues ihk ihv =>
    intro data pos fuel h hle
    obtain ⟨f, rfl⟩ := hfuel 5 _ _ hle
    have hhead := length_encodeHead_pos 5 entries.length.toUInt64
    simp only [Item.encode, encodeEntries_eq, List.length_append] at h hle ⊢
    have hflat : ∀ i ∈ flatEntries entries, ∀ {data : ByteArray} {pos : Nat},
        Stored data pos i.encode → readItem data f (depth + 1) pos = .ok (i, pos + i.encode.length) := by
      intro i hi data pos hs
      have hlen := length_le_encodeList hi
      obtain ⟨e, he, rfl | rfl⟩ := mem_flatEntries hi
      · exact ihk e he hs (by omega)
      · exact ihv e he hs (by omega)
    have hcount := readCount_of_stored hflat (stored_append.mp h).2
    have hread := readItem_container (.inr rfl) hn (by simp [length_flatEntries]) hd h hcount
    rw [pairUp_flatEntries] at hread
    simpa using hread

/-- Reading the canonical bytes of a readable item gives the item back. -/
theorem read_encode {i : Item} (hi : Readable 0 i) :
    read (ByteArray.mk i.encode.toArray) = .ok i := by
  have hsize : (ByteArray.mk i.encode.toArray).size = i.encode.length := by simp [ByteArray.size]
  have hread : readItem (ByteArray.mk i.encode.toArray) (2 * i.encode.length + 2) 0 0 =
      .ok (i, 0 + i.encode.length) :=
    readItem_of_stored hi (stored_whole i.encode) (by omega)
  have hne : i.encode.length ≠ 0 := Nat.pos_iff_ne_zero.mp (length_encode_pos i)
  unfold read
  simp only [hsize, if_neg hne, bind, Except.bind, hread, Nat.zero_add, Nat.lt_irrefl, if_false]
  rfl

end RubyLayout.Cbor
