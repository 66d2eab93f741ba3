import RubyLayout.Proofs.CborItems

/-!
# Arrays past the element limit

The reader refuses a definite-length array of more than `maxElements` elements as soon as it
has read the array's head, before any element (`readItem_long_array`). Reading items one after
another stops at the first that fails, with its error (`readCount_of_stored_error`), and so
does a map at the first entry whose value fails (`readItem_map_of_error`). Together: a map one
of whose entries is such an array, after readable entries, is refused as a whole with the
element-limit error (`read_map_long_array`), whatever comes after it.
-/

set_option autoImplicit false
set_option relaxedAutoImplicit false

namespace RubyLayout.Cbor

/-- The error of an array of more than `maxElements` elements. -/
def tooManyElements : ReadError :=
  .malformed ("cbor: exceeded max number of elements " ++ toString maxElements ++
    " for CBOR array")

theorem encodeList_append (a b : List Item) :
    Item.encode.encodeList (a ++ b) = Item.encode.encodeList a ++ Item.encode.encodeList b := by
  induction a with
  | nil => rfl
  | cons i rest ih => simp only [List.cons_append, Item.encode.encodeList, ih, List.append_assoc]

theorem flatEntries_append_cons (pre post : List (Item × Item)) (e : Item × Item) :
    flatEntries (pre ++ e :: post) = (flatEntries pre ++ [e.1]) ++ e.2 :: flatEntries post := by
  simp [flatEntries]

/-- An array head counting more than `maxElements` elements is refused right away. -/
theorem readItem_long_array {n : Nat} (hlong : maxElements < n) (hlen : n ≤ lengthLimit.toNat)
    {depth : Nat} (hd : depth < maxNesting) {data : ByteArray} {fuel pos : Nat}
    (h : Stored data pos (encodeHead 4 n.toUInt64)) :
    readItem data (fuel + 1) depth pos = .error tooManyElements := by
  obtain ⟨hval, hsmall, hinfo⟩ := lengthHead_facts hlen
  have hdepth : ¬ depth + 1 > maxNesting := by omega
  rw [readItem, readHead_of_stored (by omega) (fun h7 => absurd h7 (by omega)) h]
  simp only [bind, Except.bind, if_neg hdepth, if_neg hinfo, if_neg hsmall, hval, true_and,
    gt_iff_lt, if_pos hlong]
  rfl

/-- Reading items one after another fails with the error of the first item that fails, once
the items before it read back. -/
theorem readCount_of_stored_error {depth fuel : Nat} {data : ByteArray} {items : List Item}
    (hitems : ∀ i ∈ items, ∀ {pos : Nat}, Stored data pos i.encode →
      readItem data fuel depth pos = .ok (i, pos + i.encode.length))
    {pos : Nat} (h : Stored data pos (Item.encode.encodeList items))
    {e : ReadError}
    (hfail : readItem data fuel depth (pos + (Item.encode.encodeList items).length) = .error e)
    (more : Nat) :
    readCount data fuel depth (items.length + 1 + more) pos = .error e := by
  induction items generalizing pos with
  | nil =>
    rw [List.length_nil, Nat.zero_add, Nat.add_comm, readCount]
    simp only [Item.encode.encodeList, List.length_nil, Nat.add_zero] at hfail
    simp only [bind, Except.bind, hfail]
  | cons i rest ih =>
    rw [Item.encode.encodeList] at h hfail
    obtain ⟨hfirst, hrest⟩ := stored_append.mp h
    have hread := hitems i (List.mem_cons_self ..) hfirst
    rw [List.length_append, ← Nat.add_assoc] at hfail
    have hfailRest := ih (fun j hj => hitems j (List.mem_cons_of_mem _ hj)) hrest hfail
    rw [List.length_cons, show rest.length + 1 + 1 + more = rest.length + 1 + more + 1 by omega,
      readCount, hread]
    simp only [bind, Except.bind, hfailRest]

/-- A map whose entries fail to read fails with their error. -/
theorem readItem_map_of_error {n : Nat} (hn : n ≤ maxElements) {depth : Nat}
    (hd : depth < maxNesting) {data : ByteArray} {fuel pos : Nat}
    (h : Stored data pos (encodeHead 5 n.toUInt64)) {e : ReadError}
    (hitems : readCount data fuel (depth + 1) (2 * n)
      (pos + (encodeHead 5 n.toUInt64).length) = .error e) :
    readItem data (fuel + 1) depth pos = .error e := by
  obtain ⟨hval, hsmall, hinfo⟩ := lengthHead_facts (Nat.le_trans hn maxElements_le_lengthLimit)
  have hdepth : ¬ depth + 1 > maxNesting := by omega
  have hfew : ¬ n > maxElements := by omega
  rw [readItem, readHead_of_stored (by omega) (fun h7 => absurd h7 (by omega)) h]
  simp only [bind, Except.bind, if_neg hdepth, if_neg hinfo, if_neg hsmall, hval,
    Nat.reduceEqDiff, false_and, if_false, true_and, if_neg hfew, hitems]

/-- A map with an array of more than `maxElements` elements as the value of one entry, after
readable entries, is refused with the element-limit error. -/
theorem read_map_long_array {pre post : List (Item × Item)} {k : Item} {xs : List Item}
    (hpre : ∀ e ∈ pre, Readable 1 e.1 ∧ Readable 1 e.2) (hk : Readable 1 k)
    (hn : pre.length + 1 + post.length ≤ maxElements) (hlong : maxElements < xs.length)
    (hlen : xs.length ≤ lengthLimit.toNat) :
    read (ByteArray.mk (Item.map (pre ++ (k, .array xs) :: post)).encode.toArray) =
      .error tooManyElements := by
  let entries := pre ++ (k, .array xs) :: post
  let before := flatEntries pre ++ [k]
  let data := ByteArray.mk (Item.map entries).encode.toArray
  have hsize : data.size = (Item.map entries).encode.length := by simp [data, ByteArray.size]
  have henc : (Item.map entries).encode = encodeHead 5 entries.length.toUInt64 ++
      (Item.encode.encodeList before ++
        (encodeHead 4 xs.length.toUInt64 ++ Item.encode.encodeList xs ++
          Item.encode.encodeList (flatEntries post))) := by
    simp only [Item.encode, encodeEntries_eq, entries, before, flatEntries_append_cons,
      encodeList_append, Item.encode.encodeList, List.append_assoc]
  have hstored : Stored data 0 (Item.map entries).encode := stored_whole _
  rw [henc] at hstored
  obtain ⟨hhead, hrest⟩ := stored_append.mp hstored
  obtain ⟨hbefore, harray⟩ := stored_append.mp hrest
  have harrayHead := (stored_append.mp (stored_append.mp harray).1).1
  have hitems : ∀ i ∈ before, ∀ {pos : Nat}, Stored data pos i.encode →
      readItem data (2 * data.size + 1) 1 pos = .ok (i, pos + i.encode.length) := by
    intro i hi pos hs
    have hread : Readable 1 i := by
      rcases List.mem_append.mp hi with hpair | hkey
      · obtain ⟨e, he, rfl | rfl⟩ := mem_flatEntries hpair
        · exact (hpre e he).1
        · exact (hpre e he).2
      · rw [List.mem_singleton.mp hkey]
        exact hk
    have hroom := hs.le_size
    exact readItem_of_stored hread hs (by omega)
  have hfail : readItem data (2 * data.size + 1) 1 _ = .error tooManyElements :=
    readItem_long_array hlong hlen (by decide) harrayHead
  have hcount := readCount_of_stored_error hitems hbefore
    hfail (2 * post.length)
  have hcountEq : before.length + 1 + 2 * post.length = 2 * entries.length := by
    simp only [before, entries, List.length_append, length_flatEntries, List.length_cons,
      List.length_nil]
    omega
  rw [hcountEq] at hcount
  have htop : readItem data (2 * data.size + 2) 0 0 = .error tooManyElements :=
    readItem_map_of_error
      (by simp only [entries, List.length_append, List.length_cons]; omega) (by decide) hhead hcount
  have hne : data.size ≠ 0 := by
    rw [hsize]
    exact Nat.pos_iff_ne_zero.mp (length_encode_pos _)
  show read data = .error tooManyElements
  unfold read
  simp only [if_neg hne, bind, Except.bind, htop]

end RubyLayout.Cbor
