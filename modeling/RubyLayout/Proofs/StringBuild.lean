import RubyLayout.Proofs.Strings

/-!
# Building strings

The string builders of the heap lay out string objects that every accessor set reads back.

* `Heap.exec_embeddedString_eq_ok` and `Heap.exec_heapStringOf_eq_ok`: a successful build on a
  sound heap leaves a `StringObject` of the bytes, embedded or with a separate buffer, and a
  sound heap. The writes go to disjoint words of the slot and to a buffer after it, so each
  word stays as written (`holdsBytes_withBytes_of_disjoint`).
* `Heap.exec_stringOf_eq_ok`: `string` embeds exactly the strings that fit the embedding
  capacity.
* `Heap.exec_intern_eq_ok`: interning succeeds whenever the release has an interned flag, and
  rewrites only the header word (`StringAt.withHeader`).
* `strings_read_back`: through any accessors of the release, a string built by `string` reads as
  a string of its length and bytes whose pointer is inline exactly when it fits the capacity, and
  one built by `heapString` the same with a pointer into the arena that is never the inline one;
  interning then reads as interned and frozen with the same length and bytes. Every heap made by
  `create` is sound (`Heap.create_sound`), so this covers strings built on a fresh heap as well
  as after any other builds.
-/

set_option autoImplicit false
set_option relaxedAutoImplicit false

namespace RubyLayout

open Heap

/-- Rewriting the header word of a laid-out string leaves the rest of its layout. -/
theorem StringAt.withHeader {r : Release} {h : Heap} {s : ByteArray} {off : Nat} {w : UInt64}
    {e : Bool} (hat : StringAt r.facts h.memory off s w e) (w' : UInt64)
    (hin : off + 8 ≤ h.memory.size) :
    StringAt r.facts (h.withBytes off (Memory.wordBytes w')).memory off s w' e := by
  have hg := Release.stringSlot r
  have hself := holdsBytes_withBytes_self h off (Memory.wordBytes w') (by simp; omega)
  cases hat with
  | embedded header length bytes =>
    have hary := hg.ary_ge
    refine .embedded hself (fun hmask ↦ ?_) ?_
    · have hlf := hg.lenField hmask
      exact holdsBytes_withBytes_of_disjoint (length hmask)
        (Or.inr (by simp only [Memory.wordBytes_size]; omega))
    · exact holdsBytes_withBytes_of_disjoint bytes
        (Or.inr (by simp only [Memory.wordBytes_size]; omega))
  | buffer buf header after inside length ptr bytes =>
    have hl := hg.heapLen_ge
    have hp := hg.heapLen_le
    refine .buffer buf hself after (by simpa using inside) ?_ ?_ ?_
    · exact holdsBytes_withBytes_of_disjoint length
        (Or.inr (by simp only [Memory.wordBytes_size]; omega))
    · rw [base_withBytes]
      exact holdsBytes_withBytes_of_disjoint ptr
        (Or.inr (by simp only [Memory.wordBytes_size]; omega))
    · exact holdsBytes_withBytes_of_disjoint bytes
        (Or.inr (by simp only [Memory.wordBytes_size]; omega))

/-- A release whose strings have an interned flag has a nonzero one. -/
theorem Release.fstr_ne_zero {r : Release} (hF : r.hasInternedStrings = true) :
    r.facts.string.fstr ≠ 0 := by
  cases r
  case v27 => cases hF
  all_goals decide

namespace Heap

open Memory

variable {r : Release} {h h' : Heap} {s : ByteArray} {v : Value}

/-- The last step of an embedded string: its bytes go after the header and the length field,
which they leave alone. The string is then laid out in every memory that agrees with the heap up
to the end of its slot. -/
theorem exec_embeddedBytes (hs : Sound h r) {base : UInt64} (hbase : h.memory.base = base)
    {off : Nat} {w : UInt64} {v' : Value} (hhdr : HoldsBytes h.memory off (Memory.wordBytes w))
    (hlen : r.facts.string.embedLenMask = 0 → HoldsBytes h.memory
      (off + r.facts.string.embedLenOffset.toNat) (Memory.wordBytes s.size.toUInt64))
    (hroom : off + r.facts.string.embedAryOffset.toNat + s.size ≤ h.memory.size)
    (hx : exec h (writeBytes (base + off.toUInt64 + r.facts.string.embedAryOffset) s >>=
      fun _ ↦ pure v') = (.ok v, h')) :
    SameArena h h' ∧ v = v' ∧ h'.next = h.next ∧
      ∀ m hi, h'.memory.AgreesBelow m hi → off + 40 ≤ hi →
        off + r.facts.string.embedAryOffset.toNat + s.size ≤ hi →
        StringAt r.facts m off s w true := by
  have hg := Release.stringSlot r
  have hary := hg.ary_lt
  rw [exec_bind_of_ok (hs.exec_writeBytes_at hbase _ _ hroom), exec_pure] at hx
  cases hx
  refine ⟨sameArena_withBytes _ _ _, rfl, next_withBytes _ _ _,
    fun m hi hm hslot hend ↦ .embedded ?_ (fun hmask ↦ ?_) ?_⟩
  · refine (holdsBytes_withBytes_of_disjoint hhdr
      (Or.inl (by simp only [wordBytes_size]; have := hg.ary_ge; omega))).of_agreesBelow hm ?_
    simp only [wordBytes_size]
    omega
  · have hlf := hg.lenField hmask
    refine (holdsBytes_withBytes_of_disjoint (hlen hmask)
      (Or.inl (by simp only [wordBytes_size]; omega))).of_agreesBelow hm ?_
    simp only [wordBytes_size]
    omega
  · exact (holdsBytes_withBytes_self _ _ _ hroom).of_agreesBelow hm hend

/-- An embedded string built on a sound heap is a string object of its bytes, embedded and not
interned, in every memory that agrees with the heap below its bump pointer, and the heap stays
sound. -/
theorem exec_embeddedString_stable (hs : Sound h r)
    (hn : s.size ≤ r.facts.string.embedCapacity.toNat)
    (hx : exec h (embeddedString s) = (.ok v, h')) :
    Sound h' r ∧ ∀ m, h'.memory.AgreesBelow m h'.next →
      StringObject r.facts m v s true false := by
  have hb := Release.stringBits r
  have hg := Release.stringSlot r
  unfold embeddedString at hx
  rw [exec_bind_of_ok exec_getFacts] at hx
  dsimp only at hx
  rw [hs.facts_eq] at hx
  obtain ⟨slot, h1, hal, hx⟩ := exec_object_bind_eq_ok hs hx
  have hs1 : Sound h1 r := hs.of_sameArena hal.arena
  have hfit := hal.fits
  have hslot := hal.n_le
  have hbase := hal.base_le
  have hnext := hal.next_eq
  have hlim := hs.size_le
  have hsize := hal.arena.size_eq
  have hroom : h.nextAligned + r.facts.string.embedAryOffset.toNat + s.size ≤ h1.memory.size := by
    omega
  have hobj (w : UInt64) (hw : StringHeader r.facts w true s.size false) {h2 : Heap}
      (ha : SameArena h1 h2) (hn2 : h2.next = h1.next)
      (hat : ∀ m hi, h2.memory.AgreesBelow m hi → h.nextAligned + 40 ≤ hi →
        h.nextAligned + r.facts.string.embedAryOffset.toNat + s.size ≤ hi →
        StringAt r.facts m h.nextAligned s w true) (m : Memory)
      (hm : h2.memory.AgreesBelow m h2.next) :
      StringObject r.facts m (h.memory.base + h.nextAligned.toUInt64) s true false :=
    ⟨h.nextAligned, w, by rw [hm.base_eq, ha.base_eq, hal.arena.base_eq], hs.nextAligned_mod,
      by have := ha.size_eq; have := hm.size_eq; omega, hw, hat m _ hm (by omega) (by omega)⟩
  by_cases hmask : r.facts.string.embedLenMask = 0
  · have hlf := hg.lenField hmask
    have hlen : h.nextAligned + r.facts.string.embedLenOffset.toNat + 8 ≤ h1.memory.size := by
      omega
    rw [if_neg (not_not_intro hmask),
      exec_bind_of_ok (hs1.exec_writeWord_at hal.arena.base_eq _ _ hlen)] at hx
    obtain ⟨ha, rfl, hn2, hat⟩ := exec_embeddedBytes (hs1.withBytes _ _)
      (by rw [base_withBytes, hal.arena.base_eq])
      (holdsBytes_withBytes_of_disjoint hal.header
        (Or.inl (by simp only [wordBytes_size]; omega)))
      (fun _ ↦ holdsBytes_withBytes_self _ _ _
        (by simp only [wordBytes_size]; exact hlen))
      (by simp only [size_withBytes]; exact hroom) hx
    exact ⟨hs1.of_sameArena ((sameArena_withBytes _ _ _).trans ha),
      hobj _ (hb.header_plain hmask s.size) ((sameArena_withBytes _ _ _).trans ha) hn2 hat⟩
  · have hword : h.nextAligned + 8 ≤ h1.memory.size := by
      have := hg.ary_ge
      omega
    rw [if_pos hmask, exec_bind_of_ok (hs1.exec_orFlags_at hal.arena.base_eq _ hal.header hword)]
      at hx
    obtain ⟨ha, rfl, hn2, hat⟩ := exec_embeddedBytes (hs1.withBytes _ _)
      (by rw [base_withBytes, hal.arena.base_eq])
      (holdsBytes_withBytes_self _ _ _
        (by simp only [wordBytes_size]; exact hword))
      (fun h0 ↦ absurd h0 hmask) (by simp only [size_withBytes]; exact hroom) hx
    exact ⟨hs1.of_sameArena ((sameArena_withBytes _ _ _).trans ha),
      hobj _ (hb.header_lenBits hmask hn) ((sameArena_withBytes _ _ _).trans ha) hn2 hat⟩

/-- An embedded string built on a sound heap is a string object of its bytes, embedded and not
interned, and the heap stays sound. -/
theorem exec_embeddedString_eq_ok (hs : Sound h r)
    (hn : s.size ≤ r.facts.string.embedCapacity.toNat)
    (hx : exec h (embeddedString s) = (.ok v, h')) :
    Sound h' r ∧ StringObject r.facts h'.memory v s true false := by
  obtain ⟨hs', hobj⟩ := exec_embeddedString_stable hs hn hx
  exact ⟨hs', hobj _ (Memory.AgreesBelow.refl _ _)⟩

/-- An embedded string builds on every sound heap with room for its slot after the aligned bump
pointer: the writes of its length and bytes land inside the slot. -/
theorem exec_embeddedString_of_room (hs : Sound h r) {sl : Nat}
    (hslot : slotSize r.facts.gc (r.facts.string.embedAryOffset.toNat + s.size + 1) = .ok sl)
    (hroom : h.nextAligned + sl ≤ h.memory.size) :
    ∃ v h', exec h (embeddedString s) = (.ok v, h') := by
  have hg := Release.stringSlot r
  have hlim := hs.size_le
  unfold embeddedString
  rw [exec_bind_of_ok exec_getFacts]
  dsimp only
  rw [hs.facts_eq]
  obtain ⟨h1, hobj⟩ : ∃ h1, exec h (object (r.facts.string.embedAryOffset.toNat + s.size + 1)
      .string 0) = (.ok (h.memory.base + h.nextAligned.toUInt64), h1) :=
    exec_object_ok hs hslot hroom
  obtain ⟨slot, hal, -⟩ := exec_object_spec hs hobj
  have hs1 : Sound h1 r := hs.of_sameArena hal.arena
  have hfit := hal.fits
  have hn := hal.n_le
  have hsize := hal.arena.size_eq
  have hbytes (k : Nat) (w : UInt64) : exec (h1.withBytes k (Memory.wordBytes w))
      (writeBytes (h.memory.base + h.nextAligned.toUInt64 + r.facts.string.embedAryOffset) s) =
      (.ok (), (h1.withBytes k (Memory.wordBytes w)).withBytes
        (h.nextAligned + r.facts.string.embedAryOffset.toNat) s) :=
    (hs1.withBytes _ _).exec_writeBytes_at (by rw [base_withBytes, hal.arena.base_eq]) _ _
      (by rw [size_withBytes]; omega)
  rw [exec_bind_of_ok hobj]
  by_cases hmask : r.facts.string.embedLenMask = 0
  · have hlf := hg.lenField hmask
    rw [if_neg (not_not_intro hmask),
      exec_bind_of_ok (hs1.exec_writeWord_at hal.arena.base_eq _ _ (by omega)),
      exec_bind_of_ok (hbytes _ _), exec_pure]
    exact ⟨_, _, rfl⟩
  · have hary := hg.ary_ge
    rw [if_pos hmask, exec_bind_of_ok (hs1.exec_orFlags_at hal.arena.base_eq _ hal.header
      (by omega)), exec_bind_of_ok (hbytes _ _), exec_pure]
    exact ⟨_, _, rfl⟩

/-- A string that fits the embedding capacity builds on every sound heap with room for its
slot. -/
theorem exec_string_of_room (hs : Sound h r) (hcap : s.size ≤ r.facts.string.embedCapacity.toNat)
    {sl : Nat}
    (hslot : slotSize r.facts.gc (r.facts.string.embedAryOffset.toNat + s.size + 1) = .ok sl)
    (hroom : h.nextAligned + sl ≤ h.memory.size) :
    ∃ v h', exec h (string s) = (.ok v, h') := by
  unfold string stringOf
  rw [exec_bind_of_ok exec_getFacts, hs.facts_eq]
  dsimp only
  rw [if_pos hcap]
  exact exec_embeddedString_of_room hs hslot hroom

/-- A string with a separate buffer built on a sound heap is a string object of its bytes, not
embedded and not interned, in every memory that agrees with the heap below its bump pointer, and
the heap stays sound. -/
theorem exec_heapStringOf_stable (hs : Sound h r) (n : Nat) (bytes : Unit → ByteArray)
    (hn : (bytes ()).size = n) (hx : exec h (heapStringOf n bytes) = (.ok v, h')) :
    Sound h' r ∧ ∀ m, h'.memory.AgreesBelow m h'.next →
      StringObject r.facts m v (bytes ()) false false := by
  have hb := Release.stringBits r
  have hg := Release.stringSlot r
  unfold heapStringOf at hx
  rw [exec_bind_of_ok exec_getFacts] at hx
  dsimp only at hx
  rw [hs.facts_eq, Release.wordSize_eq] at hx
  obtain ⟨slot, h1, hal, hs1, hafter, hbuf, hinside, hx⟩ := exec_object_raw_bind_eq_ok hs hx
  have hb1 : h1.memory.base = h.memory.base := hal.arena.base_eq
  have hlim := hs.size_le
  have hsize := hal.arena.size_eq
  have hfit := hal.fits
  have hslot := hal.base_le
  have hlen := hg.heapLen_ge
  have hptr := hg.heapLen_le
  have hcap := hg.heapPtr_le
  have hs2 := hs1.withNext (h1.nextAligned + (n + 1))
  rw [exec_bind_of_ok (hs2.exec_writeBytes_off hb1 _ (by simp; omega))] at hx
  have hs3 := hs2.withBytes h1.nextAligned (bytes ())
  rw [exec_bind_of_ok (hs3.exec_writeWord_at (by simp [hb1]) h.nextAligned
    r.facts.string.heapLenOffset (by simp; omega))] at hx
  have hs4 := hs3.withBytes (h.nextAligned + r.facts.string.heapLenOffset.toNat)
    (Memory.wordBytes n.toUInt64)
  rw [exec_bind_of_ok (hs4.exec_writeWord_at (by simp [hb1]) h.nextAligned
    r.facts.string.heapPtrOffset (by simp; omega))] at hx
  have hs5 := hs4.withBytes (h.nextAligned + r.facts.string.heapPtrOffset.toNat)
    (Memory.wordBytes (h.memory.base + h1.nextAligned.toUInt64))
  rw [exec_bind_of_ok (hs5.exec_writeWord_next (by simp [hb1]) h.nextAligned
    r.facts.string.heapPtrOffset (by simp; omega)), exec_pure] at hx
  cases hx
  refine ⟨hs5.withBytes _ _, fun m hm ↦ ?_⟩
  have hbm : m.base = h.memory.base := by rw [hm.base_eq]; simp [hb1]
  refine ⟨h.nextAligned, _, by rw [hbm], hs.nextAligned_mod,
    by rw [hm.size_eq]; simp; omega, hn ▸ hb.header_noEmbed n,
    .buffer h1.nextAligned ?_ (by omega) (by rw [hm.size_eq]; simp; omega) ?_ ?_ ?_⟩
  all_goals refine HoldsBytes.of_agreesBelow ?_ hm (by simp; omega)
  · refine holdsBytes_withBytes_of_disjoint ?_ (Or.inl (by simp only [wordBytes_size]; omega))
    refine holdsBytes_withBytes_of_disjoint ?_ (Or.inl (by simp only [wordBytes_size]; omega))
    refine holdsBytes_withBytes_of_disjoint ?_ (Or.inl (by simp only [wordBytes_size]; omega))
    exact holdsBytes_withBytes_of_disjoint hal.header
      (Or.inl (by simp only [wordBytes_size]; omega))
  · rw [hn]
    refine holdsBytes_withBytes_of_disjoint ?_ (Or.inl (by simp only [wordBytes_size]; omega))
    refine holdsBytes_withBytes_of_disjoint ?_ (Or.inl (by simp only [wordBytes_size]; omega))
    exact holdsBytes_withBytes_self _ _ _ (by simp; omega)
  · rw [hbm]
    refine holdsBytes_withBytes_of_disjoint ?_ (Or.inl (by simp only [wordBytes_size]; omega))
    exact holdsBytes_withBytes_self _ _ _ (by simp; omega)
  · refine holdsBytes_withBytes_of_disjoint ?_ (Or.inr (by simp only [wordBytes_size]; omega))
    refine holdsBytes_withBytes_of_disjoint ?_ (Or.inr (by simp only [wordBytes_size]; omega))
    refine holdsBytes_withBytes_of_disjoint ?_ (Or.inr (by simp only [wordBytes_size]; omega))
    exact holdsBytes_withBytes_self _ _ _ (by simp; omega)

/-- A string with a separate buffer built on a sound heap is a string object of its bytes, not
embedded and not interned, and the heap stays sound. -/
theorem exec_heapStringOf_eq_ok (hs : Sound h r) (n : Nat) (bytes : Unit → ByteArray)
    (hn : (bytes ()).size = n) (hx : exec h (heapStringOf n bytes) = (.ok v, h')) :
    Sound h' r ∧ StringObject r.facts h'.memory v (bytes ()) false false := by
  obtain ⟨hs', hobj⟩ := exec_heapStringOf_stable hs n bytes hn hx
  exact ⟨hs', hobj _ (Memory.AgreesBelow.refl _ _)⟩

/-- Interning a string object of a sound heap, in a release whose strings have an interned flag,
succeeds: it sets the interned and frozen flags and leaves the string as it was. -/
theorem exec_intern_eq_ok {e i : Bool} (hs : Sound h r) (hF : r.hasInternedStrings = true)
    (hobj : StringObject r.facts h.memory v s e i) :
    ∃ h', exec h (intern v) = (.ok (), h') ∧ Sound h' r ∧
      StringObject r.facts h'.memory v s e true := by
  obtain ⟨off, w, rfl, hoff, hslot, hw, hat⟩ := hobj
  have hF0 := Release.fstr_ne_zero hF
  refine ⟨_, ?_, hs.withBytes _ _, off, _, by rw [base_withBytes], hoff, by simpa using hslot,
    hw.intern (Release.stringBits r) hF0, hat.withHeader _ (by omega)⟩
  unfold intern
  rw [exec_bind_of_ok exec_getFacts]
  dsimp only
  rw [hs.facts_eq, if_neg hF0]
  exact hs.exec_orFlags_at rfl off hat.header_holds (by omega)

/-- A string built on a sound heap is a string object of its bytes, embedded exactly when it
fits the embedding capacity, in every memory that agrees with the heap below its bump pointer,
and the heap stays sound. -/
theorem exec_stringOf_stable (hs : Sound h r) (n : Nat) (bytes : Unit → ByteArray)
    (hn : (bytes ()).size = n) (hx : exec h (stringOf n bytes) = (.ok v, h')) :
    Sound h' r ∧ ∀ m, h'.memory.AgreesBelow m h'.next → StringObject r.facts m v (bytes ())
      (decide (n ≤ r.facts.string.embedCapacity.toNat)) false := by
  unfold stringOf at hx
  rw [exec_bind_of_ok exec_getFacts] at hx
  rw [hs.facts_eq] at hx
  by_cases hcap : n ≤ r.facts.string.embedCapacity.toNat
  · rw [if_pos hcap] at hx
    rw [decide_eq_true hcap]
    exact exec_embeddedString_stable hs (hn ▸ hcap) hx
  · rw [if_neg hcap] at hx
    rw [decide_eq_false hcap]
    exact exec_heapStringOf_stable hs n bytes hn hx

/-- A string built on a sound heap is a string object of its bytes, embedded exactly when it
fits the embedding capacity, and the heap stays sound. -/
theorem exec_stringOf_eq_ok (hs : Sound h r) (n : Nat) (bytes : Unit → ByteArray)
    (hn : (bytes ()).size = n) (hx : exec h (stringOf n bytes) = (.ok v, h')) :
    Sound h' r ∧ StringObject r.facts h'.memory v (bytes ())
      (decide (n ≤ r.facts.string.embedCapacity.toNat)) false := by
  obtain ⟨hs', hobj⟩ := exec_stringOf_stable hs n bytes hn hx
  exact ⟨hs', hobj _ (Memory.AgreesBelow.refl _ _)⟩

end Heap

/-! ### Reading built strings back -/

open Heap

/-- Strings built on a sound heap of a release read back through any accessors of the release.
A string built by `string` is a string of its length and bytes, whose pointer is its inline bytes
exactly when it fits the embedding capacity; one built by `heapString` has the same length and
bytes and a pointer into the arena that is not the inline one. Where strings have an interned
flag, a built string is not interned, and interning it succeeds, after which it reads as interned
and frozen with the same length and bytes. -/
theorem strings_read_back (api : Api) (h : Heap) (hs : h.Sound api.release) (s : ByteArray) :
    (∀ v h1, exec h (string s) = (.ok v, h1) →
      api.raw.rbType h1.memory v = .ok .string ∧
      api.stringLength h1.memory v = .ok s.size ∧
      api.stringValue h1.memory v = .ok s ∧
      (api.stringPtr h1.memory v = .ok (v + api.release.facts.string.embedAryOffset) ↔
        s.size ≤ api.release.facts.string.embedCapacity.toNat) ∧
      (api.release.hasInternedStrings = true →
        api.stringInternedP h1.memory v = .ok false ∧
        ∃ h2, exec h1 (intern v) = (.ok (), h2) ∧
          api.stringInternedP h2.memory v = .ok true ∧
          api.raw.frozenP h2.memory v = .ok true ∧
          api.stringLength h2.memory v = .ok s.size ∧
          api.stringValue h2.memory v = .ok s)) ∧
    (∀ v h1, exec h (heapString s) = (.ok v, h1) →
      api.raw.rbType h1.memory v = .ok .string ∧
      api.stringLength h1.memory v = .ok s.size ∧
      api.stringValue h1.memory v = .ok s ∧
      ∃ p, api.stringPtr h1.memory v = .ok p ∧
        p ≠ v + api.release.facts.string.embedAryOffset ∧ h1.memory.contains p = true) := by
  refine ⟨fun v h1 hx ↦ ?_, fun v h1 hx ↦ ?_⟩
  · obtain ⟨hs1, hobj⟩ := exec_stringOf_eq_ok hs s.size (fun _ ↦ s) rfl hx
    obtain ⟨htype, hlen, hval, hptr, -, hint⟩ :=
      StringObject.reads api hobj hs1.base hs1.mapped_le
    refine ⟨htype, hlen, hval, hptr.trans decide_eq_true_iff, fun hF ↦ ⟨hint, ?_⟩⟩
    obtain ⟨h2, hx2, hs2, hobj2⟩ := exec_intern_eq_ok hs1 hF hobj
    obtain ⟨-, hlen2, hval2, -, -, hint2⟩ := StringObject.reads api hobj2 hs2.base hs2.mapped_le
    exact ⟨h2, hx2, hint2, StringObject.frozenP_eq hobj2 hs2.base hs2.mapped_le api.debug,
      hlen2, hval2⟩
  · obtain ⟨hs1, hobj⟩ := exec_heapStringOf_eq_ok hs s.size (fun _ ↦ s) rfl hx
    obtain ⟨htype, hlen, hval, hptr, hbuf, -⟩ :=
      StringObject.reads api hobj hs1.base hs1.mapped_le
    obtain ⟨p, hp, hin⟩ := hbuf rfl
    refine ⟨htype, hlen, hval, p, hp, fun heq ↦ ?_, hin⟩
    rw [heq] at hp
    exact Bool.false_ne_true (hptr.mp hp)

/-- The two bytes `hi` built as a string on an empty arena of 4096 bytes with the 3.0 layout
read back through the checked accessors. -/
theorem strings_read_back_hi :
    ∃ v h1, exec (Heap.mk Release.v30.facts ⟨arenaBase, 4096, .empty⟩ 0 [] default [])
        (string "hi".toUTF8) = (.ok v, h1) ∧
      (Api.ofRelease .v30 false .checked).stringValue h1.memory v = .ok "hi".toUTF8 := by
  obtain ⟨hstr, -⟩ := strings_read_back (Api.ofRelease .v30 false .checked)
    (Heap.mk Release.v30.facts ⟨arenaBase, 4096, .empty⟩ 0 [] default []) ⟨rfl, arenaBase_valid, by decide⟩
    "hi".toUTF8
  rcases hx : exec (Heap.mk Release.v30.facts ⟨arenaBase, 4096, .empty⟩ 0 [] default [])
    (string "hi".toUTF8) with ⟨_ | v, h1⟩
  · have hok : (exec (Heap.mk Release.v30.facts ⟨arenaBase, 4096, .empty⟩ 0 [] default [])
        (string "hi".toUTF8)).1.isOk = true := by decide +kernel
    rw [hx] at hok
    cases hok
  · exact ⟨v, h1, rfl, (hstr v h1 hx).2.2.1⟩

end RubyLayout
