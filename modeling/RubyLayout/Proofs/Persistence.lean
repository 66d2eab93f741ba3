import RubyLayout.Proofs.Confinement
import RubyLayout.Proofs.StringBuild
import RubyLayout.Proofs.ArrayBuild
import RubyLayout.Heap.Sample

/-!
# What later builds keep

Calls of builders lead from a heap to the heaps `Heap.Builds` relates it to, each call run from
the heap the last one left, whatever its outcome. Each call writes only bytes it hands out
(`Builder.writesIn`), so a run of calls from a sound heap changes nothing below the bump pointer
it started from (`Heap.Builds.confined`), and every value built before it answers as it did:

* `slot_answers_kept`: every accessor that reads only the base slot of a value answers the same
  about a slot built earlier, in every tier and build (`Memory.AgreesBelow.sameSlot` and
  `Query.ask_congr`);
* `built_string_kept` and `built_array_kept`: a string built earlier still holds its bytes, and
  an array its elements, each element read through every tier and build, and every index read
  through the checked tier or the debug build, which refuse an index out of range with the same
  error in every memory holding the array (`ArrayObject.arrayRef_out_of_range`).

A special constant is read from its word alone where the accessor refuses it or answers from its
tag (`Query.ask_of_special`), whatever the memory.

Hiding, freezing and interning an object built earlier rewrite at most its flags and class words
(`Heap.HeaderChange`), so every other slot answers as before, and about the object they change
only the accessors they alter (`Modifier.run_spec`): the class read, the frozen test, and for
interning the interned test and the frozen test both, since an interned string is frozen.
`building_keeps_built_values` gathers all of it in `BuildingKeeps`.

Scope. Out of range, the plain build reads whatever word lies at the index, which a later call may
write: an array's answers to such indices are not kept there. The plain build also reads the
word of a special constant as the address of an object, so its accessors of heap objects are
not kept about special constants.
-/

set_option autoImplicit false
set_option relaxedAutoImplicit false

namespace RubyLayout

/-! ### Words of memories that agree -/

namespace Memory

variable {m m' : Memory}

/-- Two memories over the same arena that hold the same eight bytes at a word read the same word
there. -/
theorem readWord_congr (hbase : m'.base = m.base) (hsize : m'.size = m.size) {a : UInt64}
    (hbytes : ∀ i, i < 8 →
      m'.byteAt (a.toNat - m.base.toNat + i) = m.byteAt (a.toNat - m.base.toNat + i)) :
    m'.readWord a = m.readWord a := by
  have hmap : m'.mapped = m.mapped := by rw [mapped, mapped, hsize]
  unfold readWord readable
  rw [hbase, hmap]
  split
  · exact congrArg Except.ok
      (List.foldl_ext _ _ _ fun acc i hi ↦ by rw [hbytes i (List.mem_range.mp hi)])
  · rfl

/-- Two memories over the arena that hold the same eight bytes at a field of a slot read the
same word there. -/
theorem wordAt_field_congr (hbase : m'.base = m.base) (hsize : m'.size = m.size)
    (harena : Heap.ArenaBase m.base) {off : Nat} {k : UInt64} (hoff : off ≤ Heap.mapLimit)
    (hk : k.toNat ≤ Heap.mapLimit)
    (hbytes : ∀ i, off + k.toNat ≤ i → i < off + k.toNat + 8 → m'.byteAt i = m.byteAt i) :
    m'.wordAt (m.base + off.toUInt64 + k) =
      m.wordAt (m.base + off.toUInt64 + k) := by
  have ha := harena.toNat_add_field hoff hk
  unfold wordAt
  rw [readWord_congr hbase hsize fun i hi ↦ hbytes _ (by rw [ha]; omega) (by rw [ha]; omega)]

/-- Two memories over the arena that hold the same bytes in a base slot read the same words
from it. -/
theorem sameSlot_of_byteAt (hbase : m'.base = m.base) (hsize : m'.size = m.size)
    (harena : Heap.ArenaBase m.base) {off : Nat} (hlim : off + 40 ≤ Heap.mapLimit)
    (hbytes : ∀ i, off ≤ i → i < off + 40 → m'.byteAt i = m.byteAt i) :
    m.SameSlot m' (m.base + off.toUInt64) := by
  intro k hk
  have hlim' : Heap.mapLimit = 2 ^ 47 := rfl
  exact wordAt_field_congr hbase hsize harena (by omega) (by omega)
    fun i hlo hhi ↦ hbytes i (by omega) (by omega)

/-- Memories that agree below the end of a base slot read the same words from it. -/
theorem AgreesBelow.sameSlot {hi : Nat} (ha : m.AgreesBelow m' hi)
    (harena : Heap.ArenaBase m.base) {off : Nat} (hoff : off + 40 ≤ hi)
    (hlim : off + 40 ≤ Heap.mapLimit) : m.SameSlot m' (m.base + off.toUInt64) :=
  sameSlot_of_byteAt ha.base_eq ha.size_eq harena hlim fun i _ hi' ↦ ha.byteAt_eq i (by omega)

/-- Eight bytes inside the readable pages read as a word. -/
theorem readWord_ok_of_readable {a : UInt64} (hr : m.readable a 8 = true) :
    ∃ w, m.readWord a = .ok w := by
  rw [readWord, if_pos hr]
  exact ⟨_, rfl⟩

end Memory

/-! ### Runs of builder calls -/

namespace Heap

variable {r : Release} {h h' h1 h2 : Heap}

/-- The heaps that calls of builders lead to from `h`, each call run from the heap the last one
left, whatever its outcome. -/
inductive Builds : Heap → Heap → Prop where
  | refl (h : Heap) : Builds h h
  | call {h h' : Heap} (b : Builder) (rest : Builds (exec h b.run).2 h') : Builds h h'

/-- Calls of builders from a sound heap change it only past the bump pointer it had. -/
theorem Builds.confined (hb : Builds h h') {lo : Nat} (hs : Sound h r) (hlo : lo ≤ h.next) :
    Confined lo h h' := by
  induction hb with
  | refl h => exact Confined.refl lo h
  | call b rest ih =>
    have hk := b.writesIn r _ lo _ hs rfl hlo
    exact hk.trans (ih (hs.of_sameArena hk.arena) (Nat.le_trans hlo hk.next_le))

/-- Calls of builders from a sound heap leave it sound. -/
theorem Builds.sound (hb : Builds h h') (hs : Sound h r) : Sound h' r :=
  hs.of_sameArena (hb.confined hs (Nat.zero_le _)).arena

/-- Bytes are handed out from a word-aligned offset past the bump pointer, inside the arena, and
the bump pointer is left at their end: bytes handed out later lie past them. -/
theorem Sound.exec_raw_region (hs : Sound h r) {n : Nat} {p : UInt64}
    (hx : exec h (raw n) = (.ok p, h')) :
    ∃ off, p = h.memory.base + off.toUInt64 ∧ off % 8 = 0 ∧ h.next ≤ off ∧
      off + n ≤ h.memory.size ∧ h'.next = off + n := by
  obtain ⟨hfits, -, rfl, rfl⟩ := exec_raw_eq_ok hx
  exact ⟨h.nextAligned, rfl, hs.nextAligned_mod, hs.next_le_nextAligned, hfits, rfl⟩

end Heap

open Heap

variable {r : Release} {h h1 h2 : Heap}

/-- Every accessor that reads only the base slot of a value answers the same about a slot built
earlier after later calls of builders, in every tier and build. -/
theorem slot_answers_kept {α : Type} (api : Api) (hs : h1.Sound api.release) {off slot : Nat}
    (hfr : FreshSlot 0 0 h1 off slot) (hb : Builds h1 h2) (q : Query α)
    (hq : q.inSlot = true) :
    q.ask api h2.memory (h1.memory.base + off.toUInt64) =
      q.ask api h1.memory (h1.memory.base + off.toUInt64) := by
  have hk := hb.confined hs (Nat.le_refl h1.next)
  have hlim := hs.size_le
  have hin := hfr.inside
  have hbelow := hfr.below
  have hbase := hfr.base_le
  exact q.ask_congr api (hk.agreesBelow.sameSlot hs.base (by omega) (by omega)) hq

/-! ### Arrays read out of range -/

namespace ArrayObject

variable {m : Memory} {v : Value} {elems : List Value} {e : Bool}

/-- The checked tier refuses an index out of range of an array object, naming the range of
indices, and the debug build refuses it as out of bounds. -/
theorem arrayRef_out_of_range (api : Api) (hobj : ArrayObject api.release.facts m v elems e)
    (hbase : Heap.ArenaBase m.base) (hmap : m.mapped ≤ Heap.mapLimit) {i : Int}
    (hi : ¬ (0 ≤ i ∧ i < elems.length)) :
    (api.checking = true → api.arrayRef m v i = .error (.precondition "RArrayAref" v
      ("index in [0, " ++ toString (elems.length : Int) ++ ")") (toString i))) ∧
    (api.checking = false → api.debug = true → api.arrayRef m v i =
      .error (.precondition "RArrayAref" v "index in range" "out of bounds")) := by
  have hlen (debug : Bool) : (Accessors.mk api.release debug).arrayLength m v = .ok elems.length :=
    arrayLength_eq hobj hbase hmap debug
  constructor
  · intro hc
    have hlenRaw : api.raw.arrayLength m v = .ok elems.length := hlen api.debug
    unfold Api.arrayRef
    rw [if_pos hc, requireType_eq_ok api hobj hbase hmap, Accessors.ok_bind, hlenRaw,
      Accessors.ok_bind, if_pos (by omega)]
    rfl
  · intro hc hd
    have hraw : api.raw = ⟨api.release, true⟩ := by rw [Api.raw, hd]
    unfold Api.arrayRef
    rw [if_neg (by rw [hc]; decide), hraw]
    unfold Accessors.arrayRef
    simp only [if_true]
    rw [hlen true, Accessors.ok_bind, decide_eq_false hi]
    rfl

end ArrayObject

/-! ### Strings and arrays built earlier -/

/-- A string built earlier holds its bytes after later calls of builders, read through every
tier and build. -/
theorem built_string_kept (api : Api) (hs : h.Sound api.release) (s : ByteArray) {v : Value}
    (hx : exec h (string s) = (.ok v, h1) ∨ exec h (heapString s) = (.ok v, h1))
    (hb : Builds h1 h2) :
    api.stringValue h2.memory v = .ok s ∧ api.stringValue h1.memory v = .ok s := by
  obtain ⟨e, hs1, hobj⟩ : ∃ e, h1.Sound api.release ∧ ∀ m, h1.memory.AgreesBelow m h1.next →
      StringObject api.release.facts m v s e false := by
    rcases hx with hx | hx
    · exact ⟨_, exec_stringOf_stable hs s.size (fun _ ↦ s) rfl hx⟩
    · exact ⟨_, exec_heapStringOf_stable hs s.size (fun _ ↦ s) rfl hx⟩
  have hs2 := hb.sound hs1
  obtain ⟨-, -, hval2, -⟩ := StringObject.reads api
    (hobj _ (hb.confined hs1 (Nat.le_refl _)).agreesBelow) hs2.base hs2.mapped_le
  obtain ⟨-, -, hval1, -⟩ := StringObject.reads api (hobj _ (Memory.AgreesBelow.refl _ _))
    hs1.base hs1.mapped_le
  exact ⟨hval2, hval1⟩

/-- An array built earlier holds its elements after later calls of builders, read through every
tier and build; each element reads the same, and through the checked tier or the debug build
every index does. -/
theorem built_array_kept (api : Api) (hs : h.Sound api.release) (elems : List Value)
    {v : Value} (hx : exec h (array elems) = (.ok v, h1) ∨ exec h (heapArray elems) = (.ok v, h1))
    (hb : Builds h1 h2) :
    api.arrayValues h2.memory v = .ok elems ∧ api.arrayValues h1.memory v = .ok elems ∧
      ∀ i : Int, (0 ≤ i ∧ i < elems.length) ∨ api.checking = true ∨ api.debug = true →
        api.arrayRef h2.memory v i = api.arrayRef h1.memory v i := by
  obtain ⟨e, hs1, hobj⟩ : ∃ e, h1.Sound api.release ∧ ∀ m, h1.memory.AgreesBelow m h1.next →
      ArrayObject api.release.facts m v elems e := by
    rcases hx with hx | hx
    · exact ⟨_, exec_arrayOf_stable hs elems.length (fun _ ↦ elems) rfl hx⟩
    · exact ⟨_, exec_heapArrayOf_stable hs elems.length (fun _ ↦ elems) rfl hx⟩
  have hs2 := hb.sound hs1
  have hobj2 := hobj _ (hb.confined hs1 (Nat.le_refl _)).agreesBelow
  have hobj1 := hobj _ (Memory.AgreesBelow.refl _ _)
  obtain ⟨-, -, href2, hvals2, -⟩ := ArrayObject.reads api hobj2 hs2.base hs2.mapped_le
  obtain ⟨-, -, href1, hvals1, -⟩ := ArrayObject.reads api hobj1 hs1.base hs1.mapped_le
  refine ⟨hvals2, hvals1, fun i hi ↦ ?_⟩
  by_cases hin : 0 ≤ i ∧ i < elems.length
  · obtain ⟨k, rfl⟩ := Int.eq_ofNat_of_zero_le hin.1
    have hk : k < elems.length := by omega
    rw [href2 k hk, href1 k hk]
  · have hout2 := ArrayObject.arrayRef_out_of_range api hobj2 hs2.base hs2.mapped_le hin
    have hout1 := ArrayObject.arrayRef_out_of_range api hobj1 hs1.base hs1.mapped_le hin
    cases hc : api.checking
    · have hd : api.debug = true := by simpa [hc, hin] using hi
      rw [hout2.2 hc hd, hout1.2 hc hd]
    · rw [hout2.1 hc, hout1.1 hc]

/-! ### Hiding, freezing and interning -/

/-- The calls that change an object built earlier: hiding it from the class graph, freezing it,
and marking a string as interned. -/
inductive Modifier where
  | hide | freeze | intern
deriving DecidableEq, Repr

namespace Modifier

/-- The run of the call on a value; each answers the value. -/
def run : Modifier → Value → HeapM Value
  | .hide => Heap.hide
  | .freeze => Heap.freeze
  | .intern => Heap.internSample

/-- Whether the call may change the answer of the accessor about its argument: the class read
for hiding, the frozen test for freezing, and for interning the interned test and the frozen
test too, as an interned string is frozen. -/
def alters {α : Type} : Modifier → Query α → Bool
  | .hide, .basicClass => true
  | .freeze, .frozenP => true
  | .intern, .frozenP => true
  | .intern, .stringInternedP => true
  | _, _ => false

variable {α : Type} {q : Query α}

theorem readsKlass_of_hide (hq : Modifier.hide.alters q = false) : q.readsKlass = false := by
  cases q
  case basicClass => cases hq
  all_goals rfl

/-- The frozen flag is none of the bits a query tests, unless freezing alters that query: the
interned flag is a bit of its own. -/
theorem flagTest_of_freeze (r : Release) (hq : Modifier.freeze.alters q = false) :
    r.facts.header.freeze &&& q.flagTest r.facts = 0 := by
  cases q
  case frozenP => cases hq
  case stringInternedP => cases r <;> decide
  all_goals exact UInt64.and_zero

theorem flagTest_of_intern (r : Release) (hq : Modifier.intern.alters q = false) :
    (r.facts.string.fstr ||| r.facts.header.freeze) &&& q.flagTest r.facts = 0 := by
  cases q
  case frozenP => cases hq
  case stringInternedP => cases hq
  all_goals exact UInt64.and_zero

end Modifier

namespace Heap

/-! ### Words after a write -/

/-- A word of a slot that misses the bytes written reads as before. -/
theorem Sound.wordAt_withBytes_of_disjoint (hs : Sound h r) {off start : Nat} {k : UInt64}
    {b : ByteArray} (hoff : off ≤ mapLimit) (hk : k.toNat ≤ 32)
    (hd : off + k.toNat + 8 ≤ start ∨ start + b.size ≤ off + k.toNat) :
    (h.withBytes start b).memory.wordAt (h.memory.base + off.toUInt64 + k) =
      h.memory.wordAt (h.memory.base + off.toUInt64 + k) := by
  have hlim : mapLimit = 2 ^ 47 := rfl
  have ha := sameArena_withBytes h start b
  exact Memory.wordAt_field_congr ha.base_eq ha.size_eq hs.base hoff (by omega)
    fun i _ _ ↦ byteAt_withBytes_of_disjoint h (by omega)

/-- The word just written at the start of a slot reads back. -/
theorem Sound.wordAt_withBytes_self (hs : Sound h r) {off : Nat} {w : UInt64}
    (hin : off + 8 ≤ h.memory.size) :
    (h.withBytes off (Memory.wordBytes w)).memory.wordAt (h.memory.base + off.toUInt64) = .ok w := by
  have hlim := hs.size_le
  have hheld := holdsBytes_withBytes_self h off (Memory.wordBytes w)
    (by rw [Memory.wordBytes_size]; exact hin)
  have ha : (h.memory.base + off.toUInt64).toNat = h.memory.base.toNat + off :=
    hs.base.toNat_add_off (by omega)
  unfold Memory.wordAt
  rw [Memory.readWord_of_holdsBytes hheld (by rw [(sameArena_withBytes h off _).base_eq, ha])]

/-- Setting flag bits of the header word of a slot reads the word there and writes it back with
the bits set. -/
theorem Sound.exec_orFlags_slot (hs : Sound h r) {off : Nat} (hin : off + 8 ≤ h.memory.size)
    (bits : UInt64) : ∃ w, h.memory.wordAt (h.memory.base + off.toUInt64) = .ok w ∧
      exec h (orFlags (h.memory.base + off.toUInt64) bits) =
        (.ok (), h.withBytes off (Memory.wordBytes (w ||| bits))) := by
  have hlim := hs.size_le
  have hmap := h.memory.size_le_mapped
  have ha : (h.memory.base + off.toUInt64).toNat = h.memory.base.toNat + off :=
    hs.base.toNat_add_off (by omega)
  have hr : h.memory.readable (h.memory.base + off.toUInt64) 8 = true := by
    simp only [Memory.readable, Bool.and_eq_true, decide_eq_true_eq]
    omega
  obtain ⟨w, hw⟩ := Memory.readWord_ok_of_readable hr
  refine ⟨w, by unfold Memory.wordAt; rw [hw], ?_⟩
  unfold orFlags
  rw [exec_bind, exec_get]
  dsimp only
  rw [hs.facts_eq, Release.flagsOffset_eq, UInt64.add_zero, exec_bind, exec_readWord hw]
  exact exec_writeWord_inside ha hin

/-! ### Changes to a header -/

/-- `h'` differs from `h` at most in the flags and class words of the slot at `off`: it lies over
the same arena, with the same class objects and bump pointer. -/
structure HeaderChange (off : Nat) (h h' : Heap) : Prop where
  arena : SameArena h h'
  classes_eq : h'.classes = h.classes
  next_eq : h'.next = h.next
  byteAt_eq : ∀ i, i < off ∨ off + 16 ≤ i → h'.memory.byteAt i = h.memory.byteAt i

/-- Writing bytes inside the flags and class words of a slot is a change to its header. -/
theorem HeaderChange.withBytes (h : Heap) {off start : Nat} {b : ByteArray} (hlo : off ≤ start)
    (hhi : start + b.size ≤ off + 16) : HeaderChange off h (h.withBytes start b) :=
  ⟨sameArena_withBytes _ _ _, classes_withBytes _ _ _, next_withBytes _ _ _,
    fun _ hi ↦ byteAt_withBytes_of_disjoint h (by omega)⟩

/-- A change to the header of one slot keeps every slot apart from its first sixteen bytes. -/
theorem HeaderChange.sameSlot {off : Nat} {h' : Heap} (hc : HeaderChange off h h')
    (hs : Sound h r) {off' : Nat} (hlim : off' + 40 ≤ mapLimit)
    (hd : off' + 40 ≤ off ∨ off + 16 ≤ off') :
    h.memory.SameSlot h'.memory (h.memory.base + off'.toUInt64) :=
  Memory.sameSlot_of_byteAt hc.arena.base_eq hc.arena.size_eq hs.base hlim
    fun i _ _ ↦ hc.byteAt_eq i (by omega)

/-- Setting bits of the flags word of a slot sets them and keeps the other words of the slot. -/
theorem Sound.setsFlags_withBytes (hs : Sound h r) {off : Nat} (hin : off + 8 ≤ h.memory.size)
    {w b : UInt64} (hw : h.memory.wordAt (h.memory.base + off.toUInt64) = .ok w) :
    h.memory.SetsFlags (h.withBytes off (Memory.wordBytes (w ||| b))).memory
      (h.memory.base + off.toUInt64) b := by
  have hlim := hs.size_le
  refine ⟨⟨w, hw, hs.wordAt_withBytes_self hin⟩, fun k hk8 hk32 ↦ ?_⟩
  exact hs.wordAt_withBytes_of_disjoint (by omega) hk32
    (.inr (by rw [Memory.wordBytes_size]; omega))

/-- Writing the class word of a slot keeps the other words of the slot. -/
theorem Sound.setsKlass_withBytes (hs : Sound h r) {off : Nat} (hoff : off ≤ mapLimit)
    (w : UInt64) :
    h.memory.SetsKlass (h.withBytes (off + 8) (Memory.wordBytes w)).memory
      (h.memory.base + off.toUInt64) :=
  fun _ hk hk' ↦ hs.wordAt_withBytes_of_disjoint hoff hk (by rw [Memory.wordBytes_size]; omega)

/-- Hiding the object at a slot clears its class word. -/
theorem Sound.exec_hide_slot (hs : Sound h r) {off : Nat} (hin : off + 16 ≤ h.memory.size) :
    exec h (hide (h.memory.base + off.toUInt64)) =
      (.ok (h.memory.base + off.toUInt64), h.withBytes (off + 8) (Memory.wordBytes 0)) := by
  have h8 : (8 : UInt64).toNat = 8 := rfl
  unfold hide
  rw [exec_bind_of_ok exec_getFacts, hs.facts_eq, Release.klassOffset_eq,
    exec_bind_of_ok (hs.exec_writeWord_at rfl off 8 (by rw [h8]; omega)), exec_pure, h8]

/-- Freezing the object at a slot sets the frozen flag in its flags word. -/
theorem Sound.exec_freeze_slot (hs : Sound h r) {off : Nat} (hin : off + 8 ≤ h.memory.size) :
    ∃ w, h.memory.wordAt (h.memory.base + off.toUInt64) = .ok w ∧
      exec h (freeze (h.memory.base + off.toUInt64)) = (.ok (h.memory.base + off.toUInt64),
        h.withBytes off (Memory.wordBytes (w ||| r.facts.header.freeze))) := by
  obtain ⟨w, hw, hx⟩ := hs.exec_orFlags_slot hin r.facts.header.freeze
  refine ⟨w, hw, ?_⟩
  unfold freeze
  rw [exec_bind_of_ok exec_getFacts, hs.facts_eq, exec_bind_of_ok hx, exec_pure]

/-- Interning the string at a slot sets the interned and frozen flags in its flags word, where
the layout has an interned flag. -/
theorem Sound.exec_internSample_slot (hs : Sound h r) (hF : r.hasInternedStrings = true)
    {off : Nat} (hin : off + 8 ≤ h.memory.size) :
    ∃ w, h.memory.wordAt (h.memory.base + off.toUInt64) = .ok w ∧
      exec h (internSample (h.memory.base + off.toUInt64)) = (.ok (h.memory.base + off.toUInt64),
        h.withBytes off
          (Memory.wordBytes (w ||| (r.facts.string.fstr ||| r.facts.header.freeze)))) := by
  obtain ⟨w, hw, hx⟩ := hs.exec_orFlags_slot hin (r.facts.string.fstr ||| r.facts.header.freeze)
  have hi : exec h (intern (h.memory.base + off.toUInt64)) = (.ok (), h.withBytes off
      (Memory.wordBytes (w ||| (r.facts.string.fstr ||| r.facts.header.freeze)))) := by
    unfold intern
    rw [exec_bind_of_ok exec_getFacts, hs.facts_eq, if_neg (Release.fstr_ne_zero hF), hx]
  refine ⟨w, hw, ?_⟩
  unfold internSample
  rw [exec_bind_of_ok hi, exec_pure]

end Heap

namespace Modifier

/-- A modifier called on a slot built earlier answers the slot and changes at most its flags and
class words; about the slot, every exposed accessor that the call does not alter answers as
before. Interning asks for a layout with an interned flag. -/
theorem run_spec (md : Modifier) (api : Api) (hs : h.Sound api.release) {off slot : Nat}
    (hfr : FreshSlot 0 0 h off slot) (hmd : md = .intern → api.release.hasInternedStrings = true) :
    ∃ h', exec h (md.run (h.memory.base + off.toUInt64)) = (.ok (h.memory.base + off.toUInt64), h') ∧
      HeaderChange off h h' ∧
      ∀ {α : Type} (q : Query α), q.inSlot = true → q.Exposed api → md.alters q = false →
        q.ask api h'.memory (h.memory.base + off.toUInt64) =
          q.ask api h.memory (h.memory.base + off.toUInt64) := by
  have hin := hfr.inside
  have hbase := hfr.base_le
  have hlim := hs.size_le
  cases md with
  | hide =>
    refine ⟨_, hs.exec_hide_slot (by omega), HeaderChange.withBytes h (by omega) (by simp),
      fun q hslot _ hq ↦ ?_⟩
    exact q.ask_setsKlass api (hs.setsKlass_withBytes (by omega) 0) hslot (readsKlass_of_hide hq)
  | freeze =>
    obtain ⟨w, hw, hx⟩ := hs.exec_freeze_slot (show off + 8 ≤ h.memory.size by omega)
    refine ⟨_, hx, HeaderChange.withBytes h (Nat.le_refl _) (by simp), fun q hslot hexp hq ↦ ?_⟩
    exact q.ask_setsFlags api (hs.setsFlags_withBytes (by omega) hw)
      (Release.quietBits_freeze _) hslot hexp (flagTest_of_freeze _ hq)
  | intern =>
    obtain ⟨w, hw, hx⟩ :=
      hs.exec_internSample_slot (hmd rfl) (show off + 8 ≤ h.memory.size by omega)
    refine ⟨_, hx, HeaderChange.withBytes h (Nat.le_refl _) (by simp), fun q hslot hexp hq ↦ ?_⟩
    exact q.ask_setsFlags api (hs.setsFlags_withBytes (by omega) hw)
      (Release.quietBits_intern _) hslot hexp (flagTest_of_intern _ hq)

end Modifier

/-! ### What building keeps -/

/-- What building keeps of the heap `h`, read through the accessors `api`. -/
structure BuildingKeeps (api : Api) (h : Heap) : Prop where
  /-- Bytes are handed out from a word-aligned offset past the bump pointer, inside the arena,
  and the bump pointer is left at their end, so bytes handed out later lie past them. -/
  raw_region : ∀ (n : Nat) (p : UInt64) (h' : Heap), exec h (raw n) = (.ok p, h') →
    ∃ off, p = h.memory.base + off.toUInt64 ∧ off % 8 = 0 ∧ h.next ≤ off ∧
      off + n ≤ h.memory.size ∧ h'.next = off + n
  /-- Every call writes only bytes it hands out itself, whatever its outcome, and a value it
  returns is settled. -/
  calls : ∀ b : Builder, Confined h.next h (exec h b.run).2 ∧
    ∀ (v : Value) (h' : Heap), b.returnsValue = true → exec h b.run = (.ok v, h') →
      Settled api.release.facts h' v
  /-- After later calls, every accessor of the base slot answers as before about a slot built
  earlier. -/
  slots : ∀ {α : Type} (off slot : Nat) (h' : Heap) (q : Query α), FreshSlot 0 0 h off slot →
    Builds h h' → q.inSlot = true →
      q.ask api h'.memory (h.memory.base + off.toUInt64) =
        q.ask api h.memory (h.memory.base + off.toUInt64)
  /-- A special constant reads the same in every memory where the accessor refuses it or
  answers from its tag. -/
  specials : ∀ {α : Type} (v : Value) (h' : Heap) (q : Query α),
    api.layout.isSpecialConst v = true →
    (api.checking = true ∨ api.debug = true ∨ q.requirement.onHeap = false) →
      q.ask api h'.memory v = q.ask api h.memory v
  /-- A string keeps its bytes after later calls. -/
  strings : ∀ (s : ByteArray) (v : Value) (h1 h2 : Heap),
    (exec h (string s) = (.ok v, h1) ∨ exec h (heapString s) = (.ok v, h1)) → Builds h1 h2 →
      api.stringValue h2.memory v = .ok s ∧ api.stringValue h1.memory v = .ok s
  /-- An array keeps its elements after later calls, and an index reads alike in range, or
  through the checked tier or the debug build. -/
  arrays : ∀ (elems : List Value) (v : Value) (h1 h2 : Heap),
    (exec h (array elems) = (.ok v, h1) ∨ exec h (heapArray elems) = (.ok v, h1)) →
      Builds h1 h2 →
      api.arrayValues h2.memory v = .ok elems ∧ api.arrayValues h1.memory v = .ok elems ∧
        ∀ i : Int, (0 ≤ i ∧ i < elems.length) ∨ api.checking = true ∨ api.debug = true →
          api.arrayRef h2.memory v i = api.arrayRef h1.memory v i
  /-- Hiding, freezing and interning an object built earlier answer it and change at most its
  flags and class words: about it, no exposed accessor of the base slot that the call does not
  alter, and about every other slot, no accessor of the base slot, answers otherwise. -/
  modifiers : ∀ (md : Modifier) (off slot : Nat), FreshSlot 0 0 h off slot →
    (md = .intern → api.release.hasInternedStrings = true) →
    ∃ h', exec h (md.run (h.memory.base + off.toUInt64)) = (.ok (h.memory.base + off.toUInt64), h') ∧
      HeaderChange off h h' ∧
      (∀ {α : Type} (q : Query α), q.inSlot = true → q.Exposed api → md.alters q = false →
        q.ask api h'.memory (h.memory.base + off.toUInt64) =
          q.ask api h.memory (h.memory.base + off.toUInt64)) ∧
      ∀ {α : Type} (off' slot' : Nat) (q : Query α), FreshSlot 0 0 h off' slot' →
        (off' + slot' ≤ off ∨ off + slot ≤ off') → q.inSlot = true →
          q.ask api h'.memory (h.memory.base + off'.toUInt64) =
            q.ask api h.memory (h.memory.base + off'.toUInt64)

/-- Building never disturbs what was built, in every layout, tier and build: from a sound heap,
bytes are handed out word-aligned and apart, each call writes only what it hands out, and every
value built earlier answers as before, but for the changes hiding, freezing and interning make
to their argument. -/
theorem building_keeps_built_values (api : Api) {h : Heap} (hs : h.Sound api.release) :
    BuildingKeeps api h where
  raw_region _ _ _ hx := hs.exec_raw_region hx
  calls b := ⟨b.writesIn _ _ h.next h hs rfl (Nat.le_refl _), fun _ _ hb hx ↦ b.settled hb hs hx⟩
  slots _ _ _ q hfr hb hq := slot_answers_kept api hs hfr hb q hq
  specials _ _ q hsc hq := q.ask_of_special api _ _ hsc hq
  strings s _ _ _ hx hb := built_string_kept api hs s hx hb
  arrays elems _ _ _ hx hb := built_array_kept api hs elems hx hb
  modifiers md off slot hfr hmd := by
    obtain ⟨h', hx, hc, hask⟩ := md.run_spec api hs hfr hmd
    refine ⟨h', hx, hc, hask, fun off' slot' q hfr' hd hq ↦ ?_⟩
    have hlim := hs.size_le
    have hin := hfr'.inside
    have hbase := hfr.base_le
    have hbase' := hfr'.base_le
    exact q.ask_congr api (hc.sameSlot hs (by omega) (by omega)) hq

/-- On an empty 3.4 arena, the string `a` built first reads back through the plain accessors
after a hash is built. -/
theorem building_keeps_built_values_string_then_hash :
    ∃ v h1, exec (Heap.mk Release.v34.facts ⟨arenaBase, 4096, .empty⟩ 0 [] default [])
        (string "a".toUTF8) = (.ok v, h1) ∧
      (Api.ofRelease .v34 false .unchecked).stringValue
        (exec h1 (Builder.object .hash).run).2.memory v = .ok "a".toUTF8 := by
  have hkeep := building_keeps_built_values (Api.ofRelease .v34 false .unchecked)
    (h := Heap.mk Release.v34.facts ⟨arenaBase, 4096, .empty⟩ 0 [] default [])
    ⟨rfl, arenaBase_valid, by decide⟩
  rcases hx : exec (Heap.mk Release.v34.facts ⟨arenaBase, 4096, .empty⟩ 0 [] default [])
    (string "a".toUTF8) with ⟨_ | v, h1⟩
  · have hok : (exec (Heap.mk Release.v34.facts ⟨arenaBase, 4096, .empty⟩ 0 [] default [])
        (string "a".toUTF8)).1.isOk = true := by decide +kernel
    rw [hx] at hok
    cases hok
  · exact ⟨v, h1, rfl,
      (hkeep.strings _ v h1 _ (.inl hx) (.call (.object .hash) (.refl _))).1⟩

/-- Interning a string sets its frozen flag as well as its interned flag: on an empty 3.4 arena,
the string `a` built reads as not frozen, and as frozen once interned. -/
theorem interning_freezes_string :
    ∃ v h1 h2, exec (Heap.mk Release.v34.facts ⟨arenaBase, 4096, .empty⟩ 0 [] default [])
        (string "a".toUTF8) = (.ok v, h1) ∧ exec h1 (Modifier.intern.run v) = (.ok v, h2) ∧
      Query.frozenP.ask (Api.ofRelease .v34 false .unchecked) h1.memory v = .ok false ∧
      Query.frozenP.ask (Api.ofRelease .v34 false .unchecked) h2.memory v = .ok true := by
  refine ⟨arenaBase, _, _, Prod.ext ?_ rfl, Prod.ext ?_ rfl, ?_, ?_⟩ <;> decide +kernel

end RubyLayout
