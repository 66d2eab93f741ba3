import RubyLayout.Proofs.Arrays

/-!
# Building arrays

The array builders of the heap lay out array objects that every accessor set reads back.

* `Heap.exec_embeddedArray_eq_ok` and `Heap.exec_heapArrayOf_eq_ok`: a successful build on a
  sound heap leaves an `ArrayObject` of the elements, embedded or with a separate buffer, and a
  sound heap. The embedded flag and length go to the header word with the type; a separate
  buffer lies after the slot, and the length, capacity and pointer words of the slot do not
  overlap (`Release.arraySlot`), so each word stays as written.
* `Heap.exec_arrayOf_eq_ok`: `array` embeds exactly the lists that fit the embedding capacity.
* `arrays_read_back`: through any accessors of the release, an array built by `array` reads as an
  array of its length, each element and the whole list its own, with a pointer inline exactly
  when it fits the capacity; one built by `heapArray` the same, with a pointer into the arena
  that is never the inline one. Every heap made by `create` is sound (`Heap.create_sound`).
-/

set_option autoImplicit false
set_option relaxedAutoImplicit false

namespace RubyLayout

namespace Heap

open Memory

variable {r : Release} {h h' : Heap} {elems : List Value} {v : Value}

/-- An embedded array built on a sound heap is an array object of its elements, embedded, in
every memory that agrees with the heap below its bump pointer, and the heap stays sound. -/
theorem exec_embeddedArray_stable (hs : Sound h r)
    (hn : elems.length ≤ r.facts.array.embedCapacity.toNat)
    (hx : exec h (embeddedArray elems) = (.ok v, h')) :
    Sound h' r ∧ ∀ m, h'.memory.AgreesBelow m h'.next → ArrayObject r.facts m v elems true := by
  have hb := Release.arrayBits r
  have hg := Release.arraySlot r
  unfold embeddedArray at hx
  rw [exec_bind_of_ok exec_getFacts] at hx
  dsimp only at hx
  rw [hs.facts_eq, Release.wordSize_eq] at hx
  obtain ⟨slot, h1, hal, hx⟩ := exec_object_bind_eq_ok hs hx
  have hs1 : Sound h1 r := hs.of_sameArena hal.arena
  have hfit := hal.fits
  have hslot := hal.n_le
  have hbase := hal.base_le
  have hnext := hal.next_eq
  have hsize := hal.arena.size_eq
  have h8 : UInt64.toNat 8 = 8 := rfl
  rw [h8] at hslot
  have hroom : h.nextAligned + r.facts.array.embedAryOffset.toNat + (wordsBytes elems).size ≤
      h1.memory.size := by
    rw [wordsBytes_size]
    omega
  rw [exec_bind_of_ok (hs1.exec_writeBytes_at hal.arena.base_eq _ _ hroom), exec_pure] at hx
  cases hx
  refine ⟨hs1.withBytes _ _, fun m hm ↦ ⟨h.nextAligned, _,
    by rw [hm.base_eq, base_withBytes, hal.arena.base_eq], hs.nextAligned_mod,
    by rw [hm.size_eq]; simp; omega, hb.header_embedded hn, .embedded ?_ ?_⟩⟩
  · refine (holdsBytes_withBytes_of_disjoint hal.header
      (Or.inl (by simp only [wordBytes_size]; have := hg.ary_ge; omega))).of_agreesBelow hm ?_
    simp only [wordBytes_size, next_withBytes]
    have := hg.ary_ge
    omega
  · refine (holdsBytes_withBytes_self _ _ _ hroom).of_agreesBelow hm ?_
    simp only [wordsBytes_size, next_withBytes]
    omega

/-- An embedded array built on a sound heap is an array object of its elements, embedded, and
the heap stays sound. -/
theorem exec_embeddedArray_eq_ok (hs : Sound h r)
    (hn : elems.length ≤ r.facts.array.embedCapacity.toNat)
    (hx : exec h (embeddedArray elems) = (.ok v, h')) :
    Sound h' r ∧ ArrayObject r.facts h'.memory v elems true := by
  obtain ⟨hs', hobj⟩ := exec_embeddedArray_stable hs hn hx
  exact ⟨hs', hobj _ (Memory.AgreesBelow.refl _ _)⟩

/-- An array with a separate buffer built on a sound heap is an array object of its elements, not
embedded, in every memory that agrees with the heap below its bump pointer, and the heap stays
sound. -/
theorem exec_heapArrayOf_stable (hs : Sound h r) (n : Nat) (elems : Unit → List Value)
    (hn : (elems ()).length = n) (hx : exec h (heapArrayOf n elems) = (.ok v, h')) :
    Sound h' r ∧ ∀ m, h'.memory.AgreesBelow m h'.next →
      ArrayObject r.facts m v (elems ()) false := by
  have hb := Release.arrayBits r
  have hg := Release.arraySlot r
  unfold heapArrayOf at hx
  rw [exec_bind_of_ok exec_getFacts] at hx
  dsimp only at hx
  rw [hs.facts_eq, Release.wordSize_eq] at hx
  obtain ⟨slot, h1, hal, hs1, hafter, hbuf, hinside, hx⟩ := exec_object_raw_bind_eq_ok hs hx
  have hb1 : h1.memory.base = h.memory.base := hal.arena.base_eq
  have hlim := hs.size_le
  have hsize := hal.arena.size_eq
  have hfit := hal.fits
  have hslot := hal.base_le
  have hlen := hg.heapLen_ge
  have hcap := hg.heapLen_le
  have hptr := hg.heapPtr_le
  have h8 : UInt64.toNat 8 = 8 := rfl
  rw [h8] at hbuf hx
  have hs2 := hs1.withNext (h1.nextAligned + n * 8)
  rw [exec_bind_of_ok (hs2.exec_writeBytes_off hb1 _ (by simp; omega))] at hx
  have hs3 := hs2.withBytes h1.nextAligned (wordsBytes (elems ()))
  rw [exec_bind_of_ok (hs3.exec_writeWord_at (by simp [hb1]) h.nextAligned
    r.facts.array.heapLenOffset (by simp; omega))] at hx
  have hs4 := hs3.withBytes (h.nextAligned + r.facts.array.heapLenOffset.toNat)
    (Memory.wordBytes n.toUInt64)
  rw [exec_bind_of_ok (hs4.exec_writeWord_next (by simp [hb1]) h.nextAligned
    r.facts.array.heapLenOffset (by simp; omega))] at hx
  have hs5 := hs4.withBytes (h.nextAligned + r.facts.array.heapLenOffset.toNat + 8)
    (Memory.wordBytes n.toUInt64)
  rw [exec_bind_of_ok (hs5.exec_writeWord_at (by simp [hb1]) h.nextAligned
    r.facts.array.heapPtrOffset (by simp; omega)), exec_pure] at hx
  cases hx
  refine ⟨hs5.withBytes _ _, fun m hm ↦ ?_⟩
  have hbm : m.base = h.memory.base := by rw [hm.base_eq]; simp [hb1]
  refine ⟨h.nextAligned, _, by rw [hbm], hs.nextAligned_mod,
    by rw [hm.size_eq]; simp; omega, hb.header_buffer _,
    .buffer h1.nextAligned ?_ (by omega) (by rw [hm.size_eq]; simp; omega) ?_ ?_ ?_⟩
  all_goals refine HoldsBytes.of_agreesBelow ?_ hm (by simp; omega)
  · refine holdsBytes_withBytes_of_disjoint ?_ (Or.inl (by simp only [wordBytes_size]; omega))
    refine holdsBytes_withBytes_of_disjoint ?_ (Or.inl (by simp only [wordBytes_size]; omega))
    refine holdsBytes_withBytes_of_disjoint ?_ (Or.inl (by simp only [wordBytes_size]; omega))
    exact holdsBytes_withBytes_of_disjoint hal.header
      (Or.inl (by simp only [wordBytes_size]; omega))
  · rw [hn]
    refine holdsBytes_withBytes_of_disjoint ?_ (Or.inl (by simp only [wordBytes_size]; omega))
    refine holdsBytes_withBytes_of_disjoint ?_ (Or.inl (by simp only [wordBytes_size]; omega))
    exact holdsBytes_withBytes_self _ _ _ (by simp; omega)
  · rw [hbm]
    exact holdsBytes_withBytes_self _ _ _ (by simp; omega)
  · refine holdsBytes_withBytes_of_disjoint ?_ (Or.inr (by simp only [wordBytes_size]; omega))
    refine holdsBytes_withBytes_of_disjoint ?_ (Or.inr (by simp only [wordBytes_size]; omega))
    refine holdsBytes_withBytes_of_disjoint ?_ (Or.inr (by simp only [wordBytes_size]; omega))
    exact holdsBytes_withBytes_self _ _ _ (by simp; omega)

/-- An array with a separate buffer built on a sound heap is an array object of its elements, not
embedded, and the heap stays sound. -/
theorem exec_heapArrayOf_eq_ok (hs : Sound h r) (n : Nat) (elems : Unit → List Value)
    (hn : (elems ()).length = n) (hx : exec h (heapArrayOf n elems) = (.ok v, h')) :
    Sound h' r ∧ ArrayObject r.facts h'.memory v (elems ()) false := by
  obtain ⟨hs', hobj⟩ := exec_heapArrayOf_stable hs n elems hn hx
  exact ⟨hs', hobj _ (Memory.AgreesBelow.refl _ _)⟩

/-- An array built on a sound heap is an array object of its elements, embedded exactly when it
fits the embedding capacity, in every memory that agrees with the heap below its bump pointer,
and the heap stays sound. -/
theorem exec_arrayOf_stable (hs : Sound h r) (n : Nat) (elems : Unit → List Value)
    (hn : (elems ()).length = n) (hx : exec h (arrayOf n elems) = (.ok v, h')) :
    Sound h' r ∧ ∀ m, h'.memory.AgreesBelow m h'.next → ArrayObject r.facts m v (elems ())
      (decide (n ≤ r.facts.array.embedCapacity.toNat)) := by
  unfold arrayOf at hx
  rw [exec_bind_of_ok exec_getFacts] at hx
  rw [hs.facts_eq] at hx
  by_cases hcap : n ≤ r.facts.array.embedCapacity.toNat
  · rw [if_pos hcap] at hx
    rw [decide_eq_true hcap]
    exact exec_embeddedArray_stable hs (hn ▸ hcap) hx
  · rw [if_neg hcap] at hx
    rw [decide_eq_false hcap]
    exact exec_heapArrayOf_stable hs n elems hn hx

/-- An array built on a sound heap is an array object of its elements, embedded exactly when it
fits the embedding capacity, and the heap stays sound. -/
theorem exec_arrayOf_eq_ok (hs : Sound h r) (n : Nat) (elems : Unit → List Value)
    (hn : (elems ()).length = n) (hx : exec h (arrayOf n elems) = (.ok v, h')) :
    Sound h' r ∧ ArrayObject r.facts h'.memory v (elems ())
      (decide (n ≤ r.facts.array.embedCapacity.toNat)) := by
  obtain ⟨hs', hobj⟩ := exec_arrayOf_stable hs n elems hn hx
  exact ⟨hs', hobj _ (Memory.AgreesBelow.refl _ _)⟩

end Heap

/-! ### Reading built arrays back -/

open Heap

/-- Arrays built on a sound heap of a release read back through any accessors of the release. An
array built by `array` is an array of its length, whose element `i` is the `i`-th word and whose
elements are the list, with a pointer to its inline elements exactly when it fits the embedding
capacity; one built by `heapArray` reads the same, with a pointer into the arena that is not the
inline one. -/
theorem arrays_read_back (api : Api) (h : Heap) (hs : h.Sound api.release)
    (elems : List Value) :
    (∀ v h1, exec h (array elems) = (.ok v, h1) →
      api.raw.rbType h1.memory v = .ok .array ∧
      api.arrayLength h1.memory v = .ok elems.length ∧
      (∀ i (hi : i < elems.length), api.arrayRef h1.memory v i = .ok elems[i]) ∧
      api.arrayValues h1.memory v = .ok elems ∧
      (api.arrayPtr h1.memory v = .ok (v + api.release.facts.array.embedAryOffset) ↔
        elems.length ≤ api.release.facts.array.embedCapacity.toNat)) ∧
    (∀ v h1, exec h (heapArray elems) = (.ok v, h1) →
      api.raw.rbType h1.memory v = .ok .array ∧
      api.arrayLength h1.memory v = .ok elems.length ∧
      (∀ i (hi : i < elems.length), api.arrayRef h1.memory v i = .ok elems[i]) ∧
      api.arrayValues h1.memory v = .ok elems ∧
      ∃ p, api.arrayPtr h1.memory v = .ok p ∧
        p ≠ v + api.release.facts.array.embedAryOffset ∧ h1.memory.contains p = true) := by
  refine ⟨fun v h1 hx ↦ ?_, fun v h1 hx ↦ ?_⟩
  · obtain ⟨hs1, hobj⟩ := exec_arrayOf_eq_ok hs elems.length (fun _ ↦ elems) rfl hx
    obtain ⟨htype, hlen, href, hvals, hptr, -⟩ :=
      ArrayObject.reads api hobj hs1.base hs1.mapped_le
    exact ⟨htype, hlen, href, hvals, hptr.trans decide_eq_true_iff⟩
  · obtain ⟨hs1, hobj⟩ := exec_heapArrayOf_eq_ok hs elems.length (fun _ ↦ elems) rfl hx
    obtain ⟨htype, hlen, href, hvals, hptr, hbuf⟩ :=
      ArrayObject.reads api hobj hs1.base hs1.mapped_le
    obtain ⟨p, hp, hin⟩ := hbuf rfl
    refine ⟨htype, hlen, href, hvals, p, hp, fun heq ↦ ?_, hin⟩
    rw [heq] at hp
    exact Bool.false_ne_true (hptr.mp hp)

/-- The three fixnums 1, 2 and 3 built as an array on an empty arena of 4096 bytes with the 3.0
layout read back through the checked accessors. -/
theorem arrays_read_back_three :
    ∃ v h1, exec (Heap.mk Release.v30.facts ⟨arenaBase, 4096, .empty⟩ 0 [] default [])
        (array [3, 5, 7]) = (.ok v, h1) ∧
      (Api.ofRelease .v30 false .checked).arrayValues h1.memory v = .ok [3, 5, 7] := by
  obtain ⟨harr, -⟩ := arrays_read_back (Api.ofRelease .v30 false .checked)
    (Heap.mk Release.v30.facts ⟨arenaBase, 4096, .empty⟩ 0 [] default []) ⟨rfl, arenaBase_valid, by decide⟩
    [3, 5, 7]
  rcases hx : exec (Heap.mk Release.v30.facts ⟨arenaBase, 4096, .empty⟩ 0 [] default [])
    (array [3, 5, 7]) with ⟨_ | v, h1⟩
  · have hok : (exec (Heap.mk Release.v30.facts ⟨arenaBase, 4096, .empty⟩ 0 [] default [])
        (array [3, 5, 7])).1.isOk = true := by decide +kernel
    rw [hx] at hok
    cases hok
  · exact ⟨v, h1, rfl, (harr v h1 hx).2.2.2.1⟩

end RubyLayout
