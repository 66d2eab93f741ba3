import RubyLayout.Proofs.Objects
import RubyLayout.Proofs.HeapFrame

/-!
# Header words of objects

Every object starts with two words: the flags word, whose low bits hold the type and whose other
bits hold flags such as the frozen flag, and the class word. This module states what the
accessors read from them and how the runs of the heap set and keep them.

`HeaderAt f m off t frozen c` says that the object at the arena offset `off` has a flags word of
type `t`, frozen exactly when `frozen`, and the class word `c`. Every build and tier of the
accessors reads it as a heap reference whose header type and type are `t`, whose class is `c`,
set when it is not zero, and which is frozen exactly when `frozen` (`HeaderAt.reads`,
`HeaderAt.apiReads`).

Runs are described by the rules they follow, as in `HeapFrame`. `KeepsHeader` says that a run
keeps a header below its bump pointer, `Returns` that a run returns a given value, and
`BuildsHeader r t frozen x` that every run of the builder `x` that returns a value returns a new
object with such a header, whose class word is the class of `t`. Allocating builds the header
(`Heap.buildsHeader_object`), and writing only past it keeps it (`Heap.buildsHeader_bind`).
Hiding clears the class word and freezing sets the frozen flag; neither changes the type
(`Heap.exec_hide`, `Heap.exec_freeze`).

Boot makes the class objects. `ClassTable` says that each of them has the header of a class
whose class word is the class of classes, and the class of classes is its own class. Boot
establishes it one object at a time (`Heap.ClassTable.step`, through the loop rule
`Heap.exec_forIn_invariant`), so a heap made by `create` has it, and every type of boot has a
class there (`Heap.create_classTable`). Boot also runs to its end on every sound heap with room
for its nine class slots of 40 bytes after the bump pointer (`Heap.exec_boot_ok`, through the loop
rule `Heap.exec_forIn_ok`), so `create` makes a heap for every release and every arena size from
360 bytes up to the map limit, and for the default size (`Heap.create_ok`).
-/

set_option autoImplicit false
set_option relaxedAutoImplicit false

namespace RubyLayout

open Memory

/-! ### Header bits -/

/-- The flag bits the builders put in a header word miss the type field, and none but the frozen
flag itself sets the frozen flag. -/
structure HeaderBits (f : Facts) : Prop where
  typeMask_eq : f.header.typeMask = 0x1f
  freeze_ne : f.header.freeze ≠ 0
  freeze_type : f.header.freeze &&& f.header.typeMask = 0
  sign_type : f.header.bignumSign &&& f.header.typeMask = 0
  noEmbed_freeze : f.string.noEmbed &&& f.header.freeze = 0
  strLen_freeze : f.string.embedLenMask &&& f.header.freeze = 0
  aryFlag_freeze : f.array.embedFlag &&& f.header.freeze = 0
  aryLen_freeze : f.array.embedLenMask &&& f.header.freeze = 0
  typed_type : f.typedData.typedFlag &&& f.header.typeMask = 0
  typed_freeze : f.typedData.typedFlag &&& f.header.freeze = 0

/-- The header bits of every release keep to their places. -/
theorem Release.headerBits (r : Release) : HeaderBits r.facts := by
  cases r <;> exact ⟨rfl, by decide, by decide, by decide, by decide, by decide, by decide,
    by decide, by decide, by decide⟩

/-! ### Header words in memory -/

/-- The header of an object at the arena offset `off` of `m`: a flags word whose type field is
`t` and whose frozen flag is set exactly when `frozen`, then the class word `c`. -/
structure HeaderAt (f : Facts) (m : Memory) (off : Nat) (t : TypeCode) (frozen : Bool)
    (c : Value) : Prop where
  aligned : off % 8 = 0
  fits : off + 16 ≤ m.size
  flags : ∃ w, HoldsBytes m off (Memory.wordBytes w) ∧
    w &&& f.header.typeMask = t.code.toUInt64 ∧ (w &&& f.header.freeze != 0) = frozen
  klass : HoldsBytes m (off + 8) (Memory.wordBytes c)

namespace HeaderAt

variable {f : Facts} {m : Memory} {off : Nat} {t : TypeCode} {fr : Bool} {c : Value}

/-- The accessors of the release read the header: a heap reference of type `t`, with the class
word `c`, set when it is not zero, frozen exactly when `frozen`. -/
theorem reads (r : Release) (debug : Bool) (hh : HeaderAt r.facts m off t fr c)
    (hbase : Heap.ArenaBase m.base) (hmap : m.mapped ≤ Heap.mapLimit) :
    r.facts.isSpecialConst (m.base + off.toUInt64) = false ∧
      (Accessors.mk r debug).builtinType m (m.base + off.toUInt64) = .ok t ∧
      (Accessors.mk r debug).rbType m (m.base + off.toUInt64) = .ok t ∧
      (Accessors.mk r debug).basicClass m (m.base + off.toUInt64) = .ok (c, c != 0) ∧
      (Accessors.mk r debug).frozenP m (m.base + off.toUInt64) = .ok fr := by
  obtain ⟨w, hw, htype, hfrozen⟩ := hh.flags
  obtain ⟨hsc, hflags⟩ := Accessors.flags_of_holdsBytes r debug hbase hmap hw hh.aligned
  have ht : (⟨(w &&& r.facts.header.typeMask).toUInt32⟩ : TypeCode) = t := by
    rw [htype, UInt32.toUInt32_toUInt64]
  have h8 : (8 : UInt64).toNat = 8 := rfl
  have hklass : HoldsBytes m (off + (8 : UInt64).toNat) (Memory.wordBytes c) := by
    rw [h8]
    exact hh.klass
  refine ⟨hsc, ?_, ?_, ?_, ?_⟩
  · rw [Accessors.builtinType_eq (a := Accessors.mk r debug) hsc hflags]
    exact congrArg Except.ok ht
  · rw [Accessors.rbType_eq (a := Accessors.mk r debug) hsc hflags]
    exact congrArg Except.ok ht
  · unfold Accessors.basicClass
    rw [Accessors.assertHeap_eq_ok (a := Accessors.mk r debug) hsc, Accessors.ok_bind,
      Accessors.layout,
      Release.klassOffset_eq,
      Memory.wordAt_of_holdsBytes hklass (Memory.toNat_arena_add hbase hmap hklass)]
    rfl
  · unfold Accessors.frozenP
    rw [Accessors.layout, hsc, if_neg Bool.false_ne_true, hflags, Accessors.ok_bind]
    dsimp only [Accessors.layout]
    rw [hfrozen]
    rfl

/-- The accessors through either tier read the header the same way: the checked tier finds a heap
reference. -/
theorem apiReads (api : Api) (hh : HeaderAt api.release.facts m off t fr c)
    (hbase : Heap.ArenaBase m.base) (hmap : m.mapped ≤ Heap.mapLimit) :
    api.layout.isSpecialConst (m.base + off.toUInt64) = false ∧
      api.builtinType m (m.base + off.toUInt64) = .ok t ∧
      api.raw.rbType m (m.base + off.toUInt64) = .ok t ∧
      api.basicClass m (m.base + off.toUInt64) = .ok (c, c != 0) ∧
      api.raw.frozenP m (m.base + off.toUInt64) = .ok fr := by
  obtain ⟨hsc, hbt, hrb, hbc, hfz⟩ := hh.reads api.release api.debug hbase hmap
  have hreq (op : String) : api.requireHeap m op (m.base + off.toUInt64) = .ok () := by
    unfold Api.requireHeap
    rw [Api.layout, hsc, if_neg Bool.false_ne_true]
    rfl
  refine ⟨hsc, ?_, hrb, ?_, hfz⟩
  · unfold Api.builtinType
    rw [Api.tier_eq_raw _ (hreq _)]
    exact hbt
  · unfold Api.basicClass
    rw [Api.tier_eq_raw _ (hreq _)]
    exact hbc

variable {r : Release} {h h' : Heap}

/-- A header inside a kept range stays. -/
theorem of_kept (hh : HeaderAt r.facts h.memory off t fr c) (hk : Heap.Kept r off (off + 16) h h') :
    HeaderAt r.facts h'.memory off t fr c := by
  obtain ⟨w, hw, htype, hfz⟩ := hh.flags
  refine ⟨hh.aligned, hk.arena.size_eq ▸ hh.fits, ⟨w, ?_, htype, hfz⟩, ?_⟩
  · exact hk.holdsBytes hw (Nat.le_refl _) (by rw [wordBytes_size]; omega)
  · exact hk.holdsBytes hh.klass (by omega) (Nat.le_of_eq (by rw [wordBytes_size]))

/-- A new flags word with the same type field keeps the header, frozen as the new word says. -/
theorem withFlags (hh : HeaderAt r.facts h.memory off t fr c) (w : UInt64)
    (htype : w &&& r.facts.header.typeMask = t.code.toUInt64) :
    HeaderAt r.facts (h.withBytes off (wordBytes w)).memory off t
      (w &&& r.facts.header.freeze != 0) c := by
  have hfits := hh.fits
  refine ⟨hh.aligned, by rw [Heap.size_withBytes]; exact hfits, ⟨w, ?_, htype, rfl⟩, ?_⟩
  · exact Heap.holdsBytes_withBytes_self _ _ _ (by rw [wordBytes_size]; omega)
  · exact Heap.holdsBytes_withBytes_of_disjoint hh.klass
      (Or.inr (Nat.le_of_eq (by rw [wordBytes_size])))

/-- A new class word keeps the header with that class. -/
theorem withClass (hh : HeaderAt r.facts h.memory off t fr c) (c' : Value) :
    HeaderAt r.facts (h.withBytes (off + 8) (wordBytes c')).memory off t fr c' := by
  obtain ⟨w, hw, htype, hfz⟩ := hh.flags
  have hfits := hh.fits
  refine ⟨hh.aligned, by rw [Heap.size_withBytes]; exact hfits, ⟨w, ?_, htype, hfz⟩, ?_⟩
  · exact Heap.holdsBytes_withBytes_of_disjoint hw
      (Or.inl (Nat.le_of_eq (by rw [wordBytes_size])))
  · exact Heap.holdsBytes_withBytes_self _ _ _ (by rw [wordBytes_size]; omega)

end HeaderAt

namespace Heap

variable {r : Release} {α β : Type}

/-! ### Runs that return their argument -/

/-- Every run of the operation that returns a value returns `a`. -/
def Returns (x : HeapM α) (a : α) : Prop := ∀ h b h', exec h x = (.ok b, h') → b = a

theorem returns_pure (a : α) : Returns (pure a : HeapM α) a := by
  intro h b h' hx
  rw [exec_pure] at hx
  cases hx
  rfl

theorem returns_bind {x : HeapM β} {f : β → HeapM α} {a : α} (hf : ∀ y, Returns (f y) a) :
    Returns (x >>= f) a := by
  intro h b h' hx
  obtain ⟨y, h1, -, hx⟩ := exec_bind_eq_ok hx
  exact hf y h1 b h' hx

/-! ### Runs that keep a header -/

/-- Every run of the operation from a sound heap over the arena at `base` whose bump pointer has
passed the header at `off` keeps the header and the class objects, whatever its outcome, and the
bump pointer stays past the header. -/
def KeepsHeader (r : Release) (base : UInt64) (off : Nat) (t : TypeCode) (fr : Bool) (c : Value)
    (x : HeapM α) : Prop :=
  ∀ h, Sound h r → h.memory.base = base → off + 16 ≤ h.next → HeaderAt r.facts h.memory off t fr c →
    off + 16 ≤ (exec h x).2.next ∧ (exec h x).2.classes = h.classes ∧
      HeaderAt r.facts (exec h x).2.memory off t fr c

variable {base : UInt64} {off : Nat} {t : TypeCode} {fr : Bool} {c : Value}

theorem keepsHeader_of_keepsRange {x : HeapM α} (hx : KeepsRange r base off (off + 16) x) :
    KeepsHeader r base off t fr c x := by
  intro h hs hb hnext hh
  have hk := hx h hs hb hnext
  exact ⟨hk.next_ge, hk.classes_eq, hh.of_kept hk⟩

theorem keepsHeader_bind {x : HeapM α} {f : α → HeapM β} (hx : KeepsHeader r base off t fr c x)
    (hxa : KeepsArena x) (hf : ∀ a, KeepsHeader r base off t fr c (f a)) :
    KeepsHeader r base off t fr c (x >>= f) := by
  intro h hs hb hnext hh
  have hk := hx h hs hb hnext hh
  have ha := hxa h
  rw [exec_bind]
  rcases hr : exec h x with ⟨_ | a, h1⟩ <;> rw [hr] at hk ha
  · exact hk
  · obtain ⟨hnext1, hcls1, hh1⟩ := hk
    obtain ⟨hnext2, hcls2, hh2⟩ := hf a h1 (hs.of_sameArena ha) (ha.base_eq.trans hb) hnext1 hh1
    exact ⟨hnext2, hcls2.trans hcls1, hh2⟩

/-- Setting flag bits outside the type field and the frozen flag keeps a header. -/
theorem keepsHeader_orFlags {bits : UInt64} (hbt : bits &&& r.facts.header.typeMask = 0)
    (hbf : bits &&& r.facts.header.freeze = 0) :
    KeepsHeader r base off t fr c (orFlags (base + off.toUInt64) bits) := by
  intro h hs hb hnext hh
  obtain ⟨w, hw, htype, hfz⟩ := hh.flags
  have hfits := hh.fits
  rw [hs.exec_orFlags_at hb off hw (by omega)]
  have hh' := hh.withFlags (w ||| bits) (by rw [Bits.or_and_of_and_eq_zero _ hbt, htype])
  rw [Bits.or_and_of_and_eq_zero _ hbf, hfz] at hh'
  exact ⟨by rw [next_withBytes]; exact hnext, classes_withBytes _ _ _, hh'⟩

/-! ### Builders that leave a header -/

/-- Every run of the builder from a sound heap where the type `t` has the class `c` that returns a
value leaves a sound heap with the same class objects and, at the value, the header of an object
of type `t`, frozen exactly when `fr`, whose class word is `c`. -/
def BuildsHeader (r : Release) (t : TypeCode) (fr : Bool) (x : HeapM Value) : Prop :=
  ∀ h c v h', Sound h r → h.classOf t = some c → exec h x = (.ok v, h') →
    ∃ off, v = h'.memory.base + off.toUInt64 ∧ off + 16 ≤ h'.next ∧ Sound h' r ∧
      h'.classes = h.classes ∧ HeaderAt r.facts h'.memory off t fr c

/-- An object gets the header of its type and flags, with the class of its type, frozen exactly
when its flags hold the frozen flag. -/
theorem buildsHeader_object {n : Nat} {fl : UInt64}
    (hcode : t.code.toUInt64 &&& r.facts.header.typeMask = t.code.toUInt64)
    (hfl : fl &&& r.facts.header.typeMask = 0) (hfr : (fl &&& r.facts.header.freeze != 0) = fr) :
    BuildsHeader r t fr (object n t fl) := by
  intro h c v h' hs hc hx
  obtain ⟨slot, hal, -, hklass, -, hcls, -, -⟩ := exec_object_spec hs hx
  have hslot := hal.base_le
  have hfits := hal.fits
  have hsize := hal.arena.size_eq
  have hcf : t.code.toUInt64 &&& r.facts.header.freeze = 0 :=
    Bits.and_eq_zero_of_within hcode (Release.headerBits r).freeze_type
  refine ⟨h.nextAligned, by rw [hal.addr, hal.arena.base_eq], by rw [hal.next_eq]; omega,
    hs.of_sameArena hal.arena, hcls,
    hs.nextAligned_mod, by omega, ⟨_, hal.header, ?_, ?_⟩, hklass c hc⟩
  · rw [Bits.or_and_of_and_eq_zero _ hfl, hcode]
  · rw [Bits.or_and, hcf, UInt64.zero_or, hfr]

/-- An object allocated without flags is not frozen. -/
theorem buildsHeader_object_plain {n : Nat}
    (hcode : t.code.toUInt64 &&& r.facts.header.typeMask = t.code.toUInt64) :
    BuildsHeader r t false (object n t 0) :=
  buildsHeader_object hcode UInt64.zero_and (by rw [UInt64.zero_and]; rfl)

theorem buildsHeader_bind {x : HeapM Value} {f : Value → HeapM Value} (hx : BuildsHeader r t fr x)
    (hf : ∀ base off c, off + 16 ≤ mapLimit →
      KeepsHeader r base off t fr c (f (base + off.toUInt64)))
    (hfa : ∀ v, KeepsArena (f v)) (hret : ∀ v, Returns (f v) v) :
    BuildsHeader r t fr (x >>= f) := by
  intro h c v h' hs hc hrun
  obtain ⟨v1, h1, hx1, hf1⟩ := exec_bind_eq_ok hrun
  obtain ⟨off, rfl, hnext, hs1, hcls, hh⟩ := hx h c v1 h1 hs hc hx1
  have hlim := hs1.size_le
  have hfits := hh.fits
  have hk := hf h1.memory.base off c (by omega) h1 hs1 rfl hnext hh
  have ha := hfa (h1.memory.base + off.toUInt64) h1
  rw [hf1] at hk ha
  obtain rfl := hret _ h1 v h' hf1
  exact ⟨off, by rw [ha.base_eq], hk.1, hs1.of_sameArena ha, hk.2.1.trans hcls, hk.2.2⟩

theorem buildsHeader_getFacts_bind {f : Facts → HeapM Value}
    (hf : BuildsHeader r t fr (f r.facts)) :
    BuildsHeader r t fr (getFacts >>= f) := by
  intro h c v h' hs hc hx
  rw [exec_bind_of_ok exec_getFacts, hs.facts_eq] at hx
  exact hf h c v h' hs hc hx

theorem buildsHeader_ite {p : Prop} [Decidable p] {x y : HeapM Value} (hx : BuildsHeader r t fr x)
    (hy : BuildsHeader r t fr y) : BuildsHeader r t fr (if p then x else y) := by
  by_cases hp : p
  · rw [if_pos hp]
    exact hx
  · rw [if_neg hp]
    exact hy

/-- A step before the builder that keeps the arena and the class objects keeps what it builds. -/
theorem buildsHeader_bind_of_keepsRange {x : HeapM α} {f : α → HeapM Value}
    (hx : ∀ base, KeepsRange r base 0 0 x) (hf : ∀ a, BuildsHeader r t fr (f a)) :
    BuildsHeader r t fr (x >>= f) := by
  intro h c v h' hs hc hrun
  obtain ⟨a, h1, hx1, hf1⟩ := exec_bind_eq_ok hrun
  have hk := (hx h.memory.base).kept hs rfl (Nat.zero_le _) hx1
  have hc1 : h1.classOf t = some c := by
    unfold classOf
    rw [hk.classes_eq]
    exact hc
  obtain ⟨off, hv, hnext, hs', hcls, hh⟩ := hf a h1 c v h' (hs.of_sameArena hk.arena) hc1 hf1
  exact ⟨off, hv, hnext, hs', hcls.trans hk.classes_eq, hh⟩

/-! ### Hiding and freezing -/

section HideFreeze

variable {h : Heap}

/-- Hiding an object clears its class word and leaves its flags word. -/
theorem exec_hide (hs : Sound h r) (hh : HeaderAt r.facts h.memory off t fr c) :
    ∃ h', exec h (hide (h.memory.base + off.toUInt64)) = (.ok (h.memory.base + off.toUInt64), h') ∧
      Sound h' r ∧ h'.memory.base = h.memory.base ∧ h'.classes = h.classes ∧ h'.next = h.next ∧
      HeaderAt r.facts h'.memory off t fr 0 := by
  have hfits := hh.fits
  have h8 : (8 : UInt64).toNat = 8 := rfl
  unfold hide
  rw [exec_bind_of_ok exec_getFacts]
  rw [hs.facts_eq, Release.klassOffset_eq,
    exec_bind_of_ok (hs.exec_writeWord_at rfl off 8 (by rw [h8]; omega)), exec_pure, h8]
  exact ⟨_, rfl, hs.withBytes _ _, base_withBytes _ _ _, classes_withBytes _ _ _,
    next_withBytes _ _ _, hh.withClass 0⟩

/-- Freezing an object sets the frozen flag of its flags word and leaves its type and class. -/
theorem exec_freeze (hs : Sound h r) (hh : HeaderAt r.facts h.memory off t fr c) :
    ∃ h', exec h (freeze (h.memory.base + off.toUInt64)) =
        (.ok (h.memory.base + off.toUInt64), h') ∧
      Sound h' r ∧ h'.memory.base = h.memory.base ∧ h'.classes = h.classes ∧ h'.next = h.next ∧
      HeaderAt r.facts h'.memory off t true c := by
  obtain ⟨w, hw, htype, -⟩ := hh.flags
  have hfits := hh.fits
  have hb := Release.headerBits r
  unfold freeze
  rw [exec_bind_of_ok exec_getFacts]
  rw [hs.facts_eq, exec_bind_of_ok (hs.exec_orFlags_at rfl off hw (by omega)), exec_pure]
  have hh' := hh.withFlags (w ||| r.facts.header.freeze)
    (by rw [Bits.or_and_of_and_eq_zero _ hb.freeze_type, htype])
  have hfz : ((w ||| r.facts.header.freeze) &&& r.facts.header.freeze != 0) = true := by
    rw [bne_iff_ne, Bits.or_and, UInt64.and_self]
    exact Bits.or_ne_zero_of_right _ hb.freeze_ne
  rw [hfz] at hh'
  exact ⟨_, rfl, hs.withBytes _ _, base_withBytes _ _ _, classes_withBytes _ _ _,
    next_withBytes _ _ _, hh'⟩

end HideFreeze

/-! ### Loops -/

/-- A loop whose every step yields, keeps an invariant and leaves a mark for its element that later
steps keep, ends in the invariant with a mark for every element. -/
theorem exec_forIn_invariant {γ : Type} {I : Heap → Prop} {Q : γ → Heap → Prop}
    {f : γ → PUnit → HeapM (ForInStep PUnit)}
    (hstep : ∀ a h h' s, I h → exec h (f a PUnit.unit) = (.ok s, h') →
      I h' ∧ Q a h' ∧ s = .yield PUnit.unit ∧ ∀ b, Q b h → Q b h') (l : List γ) :
    ∀ h h' u, I h → exec h (forIn l PUnit.unit f) = (.ok u, h') →
      I h' ∧ (∀ a ∈ l, Q a h') ∧ ∀ b, Q b h → Q b h' := by
  induction l with
  | nil =>
    intro h h' u hI hx
    rw [List.forIn_nil, exec_pure] at hx
    cases hx
    exact ⟨hI, fun a ha ↦ absurd ha List.not_mem_nil, fun b hb ↦ hb⟩
  | cons a l ih =>
    intro h h' u hI hx
    rw [List.forIn_cons] at hx
    obtain ⟨s, h1, hs1, hx⟩ := exec_bind_eq_ok hx
    obtain ⟨hI1, hQ1, rfl, hkeep1⟩ := hstep a h h1 s hI hs1
    obtain ⟨hI', hQ', hkeep'⟩ := ih h1 h' u hI1 hx
    refine ⟨hI', fun b hb ↦ ?_, fun b hb ↦ hkeep' b (hkeep1 b hb)⟩
    rcases List.mem_cons.mp hb with rfl | hb
    · exact hkeep' _ hQ1
    · exact hQ' b hb

/-- A loop whose every step yields from a heap with room for one more step more, leaving room for
the rest, runs to its end. The room `I k` counts the steps still to come. -/
theorem exec_forIn_ok {γ : Type} {I : Nat → Heap → Prop} {f : γ → HeapM (ForInStep PUnit)}
    (hstep : ∀ a k h, I (k + 1) h →
      ∃ h', exec h (f a) = (.ok (.yield PUnit.unit), h') ∧ I k h')
    (l : List γ) : ∀ h, I l.length h →
      ∃ h', exec h (forIn l PUnit.unit fun a _ ↦ f a) = (.ok PUnit.unit, h') ∧ I 0 h' := by
  induction l with
  | nil => exact fun h hI ↦ ⟨h, rfl, hI⟩
  | cons a l ih =>
    intro h hI
    obtain ⟨h1, hx1, hI1⟩ := hstep a l.length h hI
    obtain ⟨h', hx', hI'⟩ := ih h1 hI1
    refine ⟨h', ?_, hI'⟩
    rw [List.forIn_cons, exec_bind_of_ok hx1]
    exact hx'

/-! ### The class objects of boot -/

/-- The class objects of a heap are classes: `cls` is the class of classes, and every class object
lies below the bump pointer with the header of a class whose class word is `cls`. -/
structure ClassTable (r : Release) (h : Heap) (cls : Value) : Prop where
  class_eq : h.classOf .class = some cls
  headers : ∀ p ∈ h.classes, ∃ off, p.2 = h.memory.base + off.toUInt64 ∧ off + 16 ≤ h.next ∧
    HeaderAt r.facts h.memory off .class false cls

/-- Every type of boot has a class object, at an address that is not zero. -/
def Booted (h : Heap) : Prop := ∀ t ∈ bootTypes, ∃ c, h.classOf t = some c ∧ c ≠ 0

theorem Booted.of_classes_eq {h h' : Heap} (hb : Booted h) (he : h'.classes = h.classes) :
    Booted h' := by
  intro t ht
  obtain ⟨c, hc, hc0⟩ := hb t ht
  refine ⟨c, ?_, hc0⟩
  unfold classOf
  rw [he]
  exact hc

/-- Classes added after a type's class leave the class found for it. -/
theorem classOf_append {h : Heap} {u : TypeCode} {c : Value} (hc : h.classOf u = some c)
    (l : List (TypeCode × Value)) : { h with classes := h.classes ++ l }.classOf u = some c := by
  unfold classOf at hc ⊢
  obtain ⟨p, hp, rfl⟩ := Option.map_eq_some_iff.mp hc
  dsimp only
  rw [List.find?_append, hp]
  rfl

namespace ClassTable

variable {h : Heap} {cls : Value}

/-- A type with a class object in the table has a class, at an address that is not zero. -/
theorem classOf_of_mem (ht : ClassTable r h cls) (hs : Sound h r) {t : TypeCode} {c : Value}
    (hm : (t, c) ∈ h.classes) : ∃ c', h.classOf t = some c' ∧ c' ≠ 0 := by
  obtain ⟨p, hp⟩ : ∃ p, h.classes.find? (fun q ↦ q.1 == t) = some p :=
    Option.isSome_iff_exists.mp (List.find?_isSome.mpr ⟨(t, c), hm, beq_self_eq_true t⟩)
  obtain ⟨off, hoff, -, hh⟩ := ht.headers p (List.mem_of_find?_eq_some hp)
  have hlim := hs.size_le
  have hfits := hh.fits
  refine ⟨p.2, by unfold classOf; rw [hp]; rfl, ?_⟩
  rw [hoff]
  exact hs.base.add_ne_zero (by omega)

/-- One step of boot's loop: a class object for `t`, whose class is `cls`, joins the table; the
class objects before it keep their headers. -/
theorem step (ht : ClassTable r h cls) (hs : Sound h r) {n : Nat} {c : Value} {h1 : Heap}
    (t : TypeCode) (hx : exec h (object n .class 0) = (.ok c, h1)) :
    Sound h1 r ∧ ClassTable r { h1 with classes := h1.classes ++ [(t, c)] } cls := by
  have hb := Release.headerBits r
  obtain ⟨off, rfl, hnext, hs1, hcls, hh⟩ := buildsHeader_object_plain (n := n)
    (by rw [hb.typeMask_eq]; decide) h cls _ h1 hs ht.class_eq hx
  refine ⟨hs1, ?_, fun p hp ↦ ?_⟩
  · have hc1 : h1.classOf .class = some cls := by
      unfold classOf
      rw [hcls]
      exact ht.class_eq
    exact classOf_append hc1 _
  · rcases List.mem_append.mp hp with hp | hp
    · obtain ⟨off', hoff', hnext', hh'⟩ := ht.headers p (hcls ▸ hp)
      have hk := (keepsRange_object n .class 0 : KeepsRange r h.memory.base off' (off' + 16) _).kept
        hs rfl hnext' hx
      have hh1 := hh'.of_kept hk
      exact ⟨off', hoff'.trans (by rw [hk.arena.base_eq]), hk.next_ge, hh1⟩
    · rw [List.mem_singleton.mp hp]
      exact ⟨off, rfl, hnext, hh⟩

/-- A turn of boot's loop yields, keeps the class table, gives its type a class and keeps the
classes of the types before. -/
theorem loopBody (ht : ClassTable r h cls) (hs : Sound h r) {n : Nat} {t : TypeCode} {h' : Heap}
    {s : ForInStep PUnit}
    (hx : exec h (do
        let c ← object n TypeCode.class 0
        modify fun h => { h with classes := h.classes ++ [(t, c)] }
        pure (ForInStep.yield PUnit.unit)) = (.ok s, h')) :
    (Sound h' r ∧ ClassTable r h' cls) ∧ (∃ c, (t, c) ∈ h'.classes) ∧ s = .yield PUnit.unit ∧
      ∀ b, (∃ c, (b, c) ∈ h.classes) → ∃ c, (b, c) ∈ h'.classes := by
  obtain ⟨c, h1, hobj, hx⟩ := exec_bind_eq_ok hx
  rw [exec_bind_of_ok (exec_modify _), exec_pure] at hx
  cases hx
  obtain ⟨hs1, ht1⟩ := ht.step hs t hobj
  obtain ⟨-, -, -, -, -, hcls, -, -⟩ := exec_object_spec hs hobj
  refine ⟨⟨⟨hs1.facts_eq, hs1.base, hs1.size_le⟩, ht1⟩,
    ⟨c, List.mem_append_right _ (List.mem_singleton_self _)⟩, rfl, fun b ⟨c', hc'⟩ ↦ ?_⟩
  exact ⟨c', List.mem_append_left _ (hcls ▸ hc')⟩

end ClassTable

/-- Boot on a sound heap without classes makes the class of classes, whose class word is itself,
and then a class object of every type of `bootTypes`, each with the header of a class. -/
theorem exec_boot {h h' : Heap} {u : Unit} (hs : Sound h r) (hcl : h.classes = [])
    (hx : exec h boot = (.ok u, h')) :
    Sound h' r ∧ ∃ cls, ClassTable r h' cls ∧
      ∀ t ∈ bootTypes, ∃ c, (t, c) ∈ h'.classes := by
  have hb := Release.headerBits r
  have h8 : (8 : UInt64).toNat = 8 := rfl
  unfold boot at hx
  rw [exec_bind_of_ok exec_get] at hx
  dsimp only at hx
  obtain ⟨cls, h1, hobj, hx⟩ := exec_bind_eq_ok hx
  obtain ⟨slot, hal, -, -, -, hcls1, -, -⟩ := exec_object_spec hs hobj
  obtain rfl := hal.addr
  have hs1 := hs.of_sameArena hal.arena
  have hfits := hal.fits
  have hslot := hal.base_le
  have hsize := hal.arena.size_eq
  rw [exec_bind_of_ok exec_get, hs1.facts_eq, Release.klassOffset_eq,
    exec_bind_of_ok (hs1.exec_writeWord_at hal.arena.base_eq h.nextAligned 8 (by rw [h8]; omega)),
    h8, exec_bind_of_ok (exec_modify _)] at hx
  generalize hh2 : Heap.withBytes _ _ _ = h2 at hx
  have hs2 : Sound h2 r := hh2 ▸ hs1.withBytes _ _
  have hb2 : h2.memory.base = h.memory.base := by rw [← hh2, base_withBytes, hal.arena.base_eq]
  have hhead : HeaderAt r.facts h2.memory h.nextAligned .class false
      (h.memory.base + h.nextAligned.toUInt64) := by
    rw [← hh2]
    refine ⟨hs.nextAligned_mod, by rw [size_withBytes]; omega,
      ⟨TypeCode.class.code.toUInt64 ||| 0, ?_, ?_, ?_⟩, ?_⟩
    · exact holdsBytes_withBytes_of_disjoint hal.header
        (Or.inl (Nat.le_of_eq (by rw [wordBytes_size])))
    · rw [UInt64.or_zero, hb.typeMask_eq]
      decide
    · rw [UInt64.or_zero, Bits.and_eq_zero_of_within (by rw [hb.typeMask_eq]; decide)
        hb.freeze_type]
      rfl
    · exact holdsBytes_withBytes_self _ _ _ (by rw [wordBytes_size]; omega)
  have hcl2 : h2.classes = [] := by rw [← hh2, classes_withBytes, hcls1, hcl]
  have hnext2 : h2.next = h.nextAligned + slot := by rw [← hh2, next_withBytes, hal.next_eq]
  generalize hcls : h.memory.base + h.nextAligned.toUInt64 = cls at hx hhead
  have ht3 : ClassTable r { h2 with classes := h2.classes ++ [(.class, cls)] } cls := by
    rw [hcl2]
    refine ⟨rfl, fun p hp ↦ ?_⟩
    rw [List.mem_singleton.mp hp, ← hcls]
    exact ⟨h.nextAligned, by dsimp only; rw [hb2], by show _ ≤ h2.next; omega, hcls ▸ hhead⟩
  have hs3 : Sound { h2 with classes := h2.classes ++ [(.class, cls)] } r :=
    ⟨hs2.facts_eq, hs2.base, hs2.size_le⟩
  obtain ⟨u', h4, hloop, hx⟩ := exec_bind_eq_ok hx
  rw [exec_pure] at hx
  cases hx
  obtain ⟨⟨hs4, ht4⟩, hmem, -⟩ :=
    exec_forIn_invariant (I := fun k ↦ Sound k r ∧ ClassTable r k cls)
      (Q := fun t k ↦ ∃ c, (t, c) ∈ k.classes)
      (fun _ _ _ _ hI hturn ↦ hI.2.loopBody hI.1 hturn) bootTypes _ _ u' ⟨hs3, ht3⟩ hloop
  exact ⟨hs4, cls, ht4, hmem⟩

/-- A heap made by `create` has its class table, and every type of boot has a class. -/
theorem create_classTable {size : Int} {h : Heap} (hc : create r.facts size = .ok h) :
    ∃ cls, ClassTable r h cls ∧ Booted h := by
  have hword : r.facts.wordSize = machineWord := by cases r <;> rfl
  unfold create at hc
  rw [if_neg (not_not_intro hword)] at hc
  generalize (if size = 0 then (defaultArenaSize : Int) else size) = sz at hc
  dsimp only at hc
  split_ifs at hc with hneg hbig
  have hs0 : Sound (Heap.mk r.facts ⟨arenaBase, sz.toNat, .empty⟩ 0 [] default []) r :=
    ⟨rfl, arenaBase_valid, by show sz.toNat ≤ mapLimit; omega⟩
  generalize hres : ExceptT.run boot _ = res at hc
  obtain ⟨outcome, booted⟩ := res
  cases outcome with
  | error e => cases hc
  | ok u =>
    cases hc
    obtain ⟨hs, cls, ht, hmem⟩ := exec_boot hs0 rfl hres
    refine ⟨cls, ht, fun t hty ↦ ?_⟩
    obtain ⟨c, hm⟩ := hmem t hty
    exact ht.classOf_of_mem hs hm

/-! ### Boot runs to its end when its class objects fit -/


/-- The class objects take the base slot of 40 bytes. -/
theorem Release.slotSize_base (r : Release) : slotSize r.facts.gc 40 = .ok 40 := by
  cases r <;> rfl

/-- An allocation of the base slot on a sound heap with room for it succeeds at the aligned bump
pointer and moves the bump pointer right after it. -/
theorem exec_object_base_ok {h : Heap} (hs : Sound h r) (t : TypeCode) (fl : UInt64)
    (hroom : h.nextAligned + 40 ≤ h.memory.size) :
    ∃ h', exec h (object 40 t fl) = (.ok (h.memory.base + h.nextAligned.toUInt64), h') ∧
      Sound h' r ∧ h'.next = h.nextAligned + 40 ∧ h'.memory.base = h.memory.base ∧
      h'.memory.size = h.memory.size := by
  obtain ⟨h', hx⟩ := exec_object_ok hs (Release.slotSize_base r) hroom
  obtain ⟨slot, hal, hslot, -⟩ := exec_object_spec hs hx
  obtain rfl : slot = 40 := by
    rw [Release.slotSize_base r] at hslot
    cases hslot
    rfl
  exact ⟨h', hx, hs.of_sameArena hal.arena, hal.next_eq, hal.arena.base_eq, hal.arena.size_eq⟩

/-- Room for `k` more base slots after a word-aligned bump pointer. -/
def RoomFor (r : Release) (k : Nat) (h : Heap) : Prop :=
  Sound h r ∧ h.next % 8 = 0 ∧ h.next + k * 40 ≤ h.memory.size

/-- A turn of boot's loop, with room for it, yields and leaves room for one class object fewer:
it takes the next base slot of the same arena. -/
theorem RoomFor.loopBody {k : Nat} {h : Heap} (hI : RoomFor r (k + 1) h) (t : TypeCode) :
    ∃ h', exec h (do
        let c ← object 40 TypeCode.class 0
        modify fun h => { h with classes := h.classes ++ [(t, c)] }
        pure (ForInStep.yield PUnit.unit)) = (.ok (.yield PUnit.unit), h') ∧ RoomFor r k h' ∧
      h'.next = h.next + 40 ∧ h'.memory.size = h.memory.size := by
  obtain ⟨hs, hmod, hroom⟩ := hI
  have halign := hs.nextAligned_of_mod hmod
  rw [Nat.succ_mul] at hroom
  obtain ⟨h1, hx, hs1, hnext1, -, hsize1⟩ :=
    exec_object_base_ok hs .class 0 (by omega)
  refine ⟨_, by rw [exec_bind_of_ok hx, exec_bind_of_ok (exec_modify _), exec_pure], ?_, ?_, ?_⟩
  · exact ⟨⟨hs1.facts_eq, hs1.base, hs1.size_le⟩, by dsimp only; omega, by dsimp only; omega⟩
  · dsimp only
    omega
  · exact hsize1

/-- Boot on a sound heap runs to its end when the arena has room for nine base slots after the
aligned bump pointer: the class of classes and one class object for each of the eight types of
`bootTypes`, which leave the bump pointer right after the ninth slot. -/
theorem exec_boot_ok {h : Heap} (hs : Sound h r) (hroom : h.nextAligned + 9 * 40 ≤ h.memory.size) :
    ∃ h', exec h boot = (.ok (), h') ∧ h'.next = h.nextAligned + 9 * 40 ∧
      h'.memory.size = h.memory.size := by
  have h8 : (8 : UInt64).toNat = 8 := rfl
  have hmod := hs.nextAligned_mod
  unfold boot
  rw [exec_bind_of_ok exec_get]
  dsimp only
  rw [hs.facts_eq, Release.baseSlotSize_eq]
  obtain ⟨h1, hobj, hs1, hnext1, hbase1, hsize1⟩ := exec_object_base_ok hs .class 0 (by omega)
  rw [exec_bind_of_ok hobj, exec_bind_of_ok exec_get, hs1.facts_eq, Release.klassOffset_eq,
    exec_bind_of_ok (hs1.exec_writeWord_at hbase1 h.nextAligned 8 (by rw [h8]; omega)),
    exec_bind_of_ok (exec_modify _)]
  generalize hh2 : Heap.withBytes _ _ _ = h2
  have hs2 : Sound h2 r := hh2 ▸ hs1.withBytes _ _
  have hnext2 : h2.next = h.nextAligned + 40 := by rw [← hh2, next_withBytes, hnext1]
  have hsize2 : h2.memory.size = h.memory.size := by rw [← hh2, size_withBytes, hsize1]
  have hlen : bootTypes.length = 8 := rfl
  obtain ⟨h4, hloop, -, hnext4, hsize4⟩ := exec_forIn_ok
    (I := fun k h' ↦ RoomFor r k h' ∧ h'.next + k * 40 = h.nextAligned + 9 * 40 ∧
      h'.memory.size = h.memory.size)
    (fun t _ _ ⟨hI, hn, hsz⟩ ↦ by
      obtain ⟨h', hx, hI', hn', hsz'⟩ := hI.loopBody t
      exact ⟨h', hx, hI', by omega, hsz'.trans hsz⟩)
    bootTypes { h2 with classes := h2.classes ++ [(.class, h.memory.base + h.nextAligned.toUInt64)] }
    ⟨⟨⟨hs2.facts_eq, hs2.base, hs2.size_le⟩, by dsimp only; omega, by dsimp only; omega⟩,
      by dsimp only; omega, hsize2⟩
  rw [exec_bind_of_ok hloop, exec_pure]
  exact ⟨h4, rfl, by omega, hsize4⟩

/-- `create` makes a heap for the facts of every release on an arena of the default size or of
any size from the nine class objects of boot up to the map limit; boot's class objects take the
first nine base slots of the arena. -/
theorem create_ok (size : Int) (hsize : size = 0 ∨ 9 * 40 ≤ size ∧ size.toNat ≤ mapLimit) :
    ∃ h, create r.facts size = .ok h ∧ h.next = 9 * 40 ∧
      h.memory.size = (if size = 0 then (defaultArenaSize : Int) else size).toNat := by
  have hword : r.facts.wordSize = machineWord := by cases r <;> rfl
  have hdefault : defaultArenaSize = 4194304 := rfl
  have hlim : mapLimit = 2 ^ 47 := rfl
  unfold create
  rw [if_neg (not_not_intro hword)]
  generalize hsz : (if size = 0 then (defaultArenaSize : Int) else size) = sz
  have hlo : 9 * 40 ≤ sz ∧ sz.toNat ≤ mapLimit := by
    rw [← hsz]
    split_ifs with h0
    · rw [hdefault, hlim]
      omega
    · omega
  dsimp only
  rw [if_neg (by omega), if_neg (by omega)]
  have hs0 : Sound (Heap.mk r.facts ⟨arenaBase, sz.toNat, .empty⟩ 0 [] default []) r :=
    ⟨rfl, arenaBase_valid, hlo.2⟩
  have h0 := Sound.nextAligned_of_mod hs0 rfl
  obtain ⟨h', hboot, hnext, hsize'⟩ := exec_boot_ok hs0 (by
    rw [h0]
    show 0 + 9 * 40 ≤ sz.toNat
    omega)
  unfold exec at hboot
  rw [hboot]
  rw [h0] at hnext
  exact ⟨h', rfl, hnext, hsize'⟩

end Heap

end RubyLayout
