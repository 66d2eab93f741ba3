import RubyLayout.Api.Access
import RubyLayout.Heap.Build
import RubyLayout.Proofs.Bits

/-!
# Decoders determined by the facts

Each release's string, array and typed-data accessors read the release's own layout constants,
in the form those constants take: where a string's length lies (`StringLength`) and how typed
data is marked (`TypedDataMark`). The facts the release publishes are made from the same
constants (`LayoutConsts.facts`, field by field in `Release.facts_string`,
`Release.facts_array` and `Release.facts_typedData`), and they publish the forms through
their values: a string has length bits exactly when `embedLenMask` is nonzero, and typed data
has a header flag exactly when `typedFlag` is nonzero.

This module reads every container accessor off the facts alone, given the header word `flags`
of the object (`Facts.stringLengthOf`, `Facts.stringPtrOf`, `Facts.arrayLengthOf`,
`Facts.arrayPtrOf`, `Facts.arrayRefOf`, `Facts.typedDataPOf`, `Facts.typedDataEmbeddedOf`,
`Facts.typedDataTypeOf`, `Facts.typedDataGetDataOf`), and proves that the accessors of every
release, in either build, are their assertion followed by that reading
(`decoders_determined_by_facts`): the constants a release's accessors read and the facts it
publishes cannot drift apart. The string length forms agree with the facts' reading for
different reasons: the flag bits are read where the mask is nonzero, as it is in every release
that keeps the length there (`Release.embedLenMask_ne_zero`); the word of an embedded string
where the facts publish no mask; and from 3.3 the one length word, which the facts publish as
both the embedded and the heap length offset. The typed-data forms agree because a flag word
publishes no typed flag and the header flag of 4.0 is nonzero (`Release.headerFlag_ne_zero`).
-/

set_option autoImplicit false
set_option relaxedAutoImplicit false

namespace RubyLayout

namespace Facts

/-! ### Readings by the facts alone -/

/-- The length of a string read by the facts alone, given its header word `flags`: embedded
strings keep it in the flag bits of `embedLenMask` or, when there are none, in the word at
`embedLenOffset`; the others in the word at `heapLenOffset`. -/
def stringLengthOf (f : Facts) (m : Memory) (v flags : Value) : Access Int :=
  if flags &&& f.string.noEmbed = 0 then
    if f.string.embedLenMask ≠ 0 then
      .ok (Word.signed ((flags &&& f.string.embedLenMask) >>> f.string.embedLenShift))
    else Accessors.longAt m v f.string.embedLenOffset
  else Accessors.longAt m v f.string.heapLenOffset

/-- The address of a string's bytes read by the facts alone. -/
def stringPtrOf (f : Facts) (m : Memory) (v flags : Value) : Access UInt64 :=
  if flags &&& f.string.noEmbed = 0 then .ok (v + f.string.embedAryOffset)
  else m.wordAt (v + f.string.heapPtrOffset)

/-- The length of an array read by the facts alone, given its header word `flags`: embedded
arrays keep it in the flag bits of `embedLenMask`, the others in the word at `heapLenOffset`. -/
def arrayLengthOf (f : Facts) (m : Memory) (v flags : Value) : Access Int :=
  if flags &&& f.array.embedFlag ≠ 0 then
    .ok (Word.signed ((flags &&& f.array.embedLenMask) >>> f.array.embedLenShift))
  else Accessors.longAt m v f.array.heapLenOffset

/-- The address of an array's elements read by the facts alone. -/
def arrayPtrOf (f : Facts) (m : Memory) (v flags : Value) : Access UInt64 :=
  if flags &&& f.array.embedFlag ≠ 0 then .ok (v + f.array.embedAryOffset)
  else m.wordAt (v + f.array.heapPtrOffset)

/-- Element `i` of an array read by the facts alone: the word `i` words past its elements. -/
def arrayRefOf (f : Facts) (m : Memory) (v flags : Value) (i : Int) : Access Value := do
  let p ← f.arrayPtrOf m v flags
  m.wordAt (p + Word.ofInt i * f.wordSize)

/-- Whether a data object is typed, read by the facts alone: without a typed flag, a marker word
of one, possibly with the embedded bit; with one, the flag in the header word. -/
def typedDataPOf (f : Facts) (m : Memory) (v flags : Value) : Access Bool :=
  if f.typedData.typedFlag = 0 then do
    let w ← m.wordAt (v + f.typedData.flagOffset)
    pure (decide (0 < w ∧ w ≤ 1 ||| f.typedData.embedded))
  else .ok (decide (flags &&& f.typedData.typedFlag ≠ 0))

/-- The word that carries the embedded bit of typed data: the marker word without a typed flag,
the type word with one. -/
def typedDataEmbedOffset (f : Facts) : UInt64 :=
  if f.typedData.typedFlag = 0 then f.typedData.flagOffset else f.typedData.typeOffset

/-- Whether typed data embeds its payload, read by the facts alone. -/
def typedDataEmbeddedOf (f : Facts) (m : Memory) (v : Value) : Access Bool := do
  let w ← m.wordAt (v + f.typedDataEmbedOffset)
  pure (decide (w &&& f.typedData.embedded ≠ 0))

/-- The data type of typed data, read by the facts alone: the type word, less the embedded bit
when the type word carries it. -/
def typedDataTypeOf (f : Facts) (m : Memory) (v : Value) : Access UInt64 := do
  let w ← m.wordAt (v + f.typedData.typeOffset)
  pure (if f.typedData.typedFlag = 0 then w else w - (w &&& f.typedData.embedded))

/-- The payload of typed data read by the facts alone: its slot when embedded, else the word at
`dataOffset`. -/
def typedDataGetDataOf (f : Facts) (m : Memory) (v : Value) : Access UInt64 := do
  if ← f.typedDataEmbeddedOf m v then pure (v + f.typedData.embedOffset)
  else m.wordAt (v + f.typedData.dataOffset)

end Facts

/-! ### The constants behind the facts -/

namespace Release

variable (r : Release)

/-- Where a release keeps a string's length in flag bits, the mask of the bits is nonzero. -/
theorem embedLenMask_ne_zero {mask shift off : UInt64}
    (h : r.consts.rStringLength = .flagBits mask shift off) : mask ≠ 0 := by
  cases r <;> cases h
  all_goals decide

/-- Where a release marks typed data by a header flag, the flag is nonzero. -/
theorem headerFlag_ne_zero {flag : UInt64} (hm : r.typedConsts.mark = .headerFlag flag) :
    flag ≠ 0 := by
  cases r <;> cases hm
  decide

theorem facts_string : r.facts.string =
    { noEmbed := r.consts.rStringNoEmbed, embedLenMask := r.consts.rStringLength.embedLenMask,
      embedLenShift := r.consts.rStringLength.embedLenShift,
      embedLenOffset := r.consts.rStringLength.embedLenOffset,
      embedAryOffset := r.consts.rStringEmbedAryOffset,
      heapLenOffset := r.consts.rStringLength.heapLenOffset,
      heapPtrOffset := r.consts.rStringHeapPtrOffset,
      embedCapacity := r.consts.rStringEmbedCapacity, fstr := r.consts.rStringFStr.getD 0 } :=
  rfl

theorem facts_array : r.facts.array =
    { embedFlag := r.consts.rArrayEmbedFlag, embedLenMask := r.consts.rArrayEmbedLenMask,
      embedLenShift := r.consts.rArrayEmbedLenShift,
      embedAryOffset := r.consts.rArrayEmbedAryOffset,
      heapLenOffset := r.consts.rArrayHeapLenOffset,
      heapPtrOffset := r.consts.rArrayHeapPtrOffset,
      embedCapacity := r.consts.rArrayEmbedCapacity } :=
  rfl

/-- The typed-data facts a release publishes are the typed-data constants its accessors read,
also where the release has none. -/
theorem facts_typedData : r.facts.typedData =
    { typeOffset := r.typedConsts.typeOffset, flagOffset := r.typedConsts.mark.flagOffset,
      dataOffset := r.typedConsts.dataOffset, embedded := r.typedConsts.embedded,
      typedFlag := r.typedConsts.mark.typedFlag, embedOffset := r.typedConsts.embedOffset } := by
  unfold facts LayoutConsts.facts typedConsts
  cases r.consts.rTypedData <;> rfl

end Release

namespace Accessors

variable (a : Accessors) {m : Memory} {v flags : Value}

/-- The flags word the container accessors read is the one the facts locate. -/
theorem flagsWord_eq_flags : a.flagsWord m v = a.flags m v := rfl

/-! ### Each accessor against its reading -/

@[simp] theorem ok_bind {α β : Type} (x : α) (f : α → Access β) :
    (Except.ok x >>= f) = f x := rfl

theorem stringLength_eq_layout (hflags : a.flags m v = .ok flags) :
    a.stringLength m v = (a.assertType "RStringLen" m v .string >>= fun _ ↦
      a.layout.stringLengthOf m v flags) := by
  rw [← flagsWord_eq_flags] at hflags
  unfold stringLength Facts.stringLengthOf consts
  rw [layout, Release.facts_string]
  refine congrArg (_ >>= ·) (funext fun _ ↦ ?_)
  dsimp only
  cases hl : a.release.consts.rStringLength with
  | flagBits mask shift off =>
    have hmask := a.release.embedLenMask_ne_zero hl
    simp only [hflags, ok_bind, StringLength.embedLenMask, StringLength.embedLenShift,
      StringLength.heapLenOffset, ne_eq, hmask, not_false_eq_true, if_true, beq_iff_eq]
    split <;> rfl
  | separateWords e h =>
    simp only [hflags, ok_bind, StringLength.embedLenMask, StringLength.embedLenOffset,
      StringLength.heapLenOffset, ne_eq, not_true_eq_false, if_false, beq_iff_eq]
  | sharedWord off =>
    simp only [StringLength.embedLenMask, StringLength.embedLenOffset,
      StringLength.heapLenOffset, ne_eq, not_true_eq_false, if_false, ite_self]

/-- The string length of every release is the one its facts describe. -/
theorem stringLength_eq_facts {r : Release} (debug : Bool)
    (hflags : m.wordAt (v + r.facts.header.flagsOffset) = .ok flags) :
    (Accessors.mk r debug).stringLength m v =
      ((Accessors.mk r debug).assertType "RStringLen" m v .string >>= fun _ ↦
        r.facts.stringLengthOf m v flags) :=
  stringLength_eq_layout _ hflags

theorem stringPtr_eq_facts (hflags : a.flags m v = .ok flags) :
    a.stringPtr m v = (a.assertType "RStringPtr" m v .string >>= fun _ ↦
      a.layout.stringPtrOf m v flags) := by
  rw [← flagsWord_eq_flags] at hflags
  unfold stringPtr Facts.stringPtrOf consts
  rw [layout, Release.facts_string]
  refine congrArg (_ >>= ·) (funext fun _ ↦ ?_)
  simp only [hflags, ok_bind, beq_iff_eq]
  split <;> rfl

theorem stringInternedP_eq_facts (hflags : a.flags m v = .ok flags) :
    a.stringInternedP m v = (a.assertType "RStringInternedP" m v .string >>= fun _ ↦
      .ok (decide (flags &&& a.layout.string.fstr ≠ 0))) := by
  rw [← flagsWord_eq_flags] at hflags
  unfold stringInternedP consts
  refine congrArg (_ >>= ·) (funext fun _ ↦ ?_)
  rw [hflags, ok_bind, Bits.bne_eq_decide]
  rfl

theorem arrayLength_eq_facts (hflags : a.flags m v = .ok flags) :
    a.arrayLength m v = (a.assertType "RArrayLen" m v .array >>= fun _ ↦
      a.layout.arrayLengthOf m v flags) := by
  rw [← flagsWord_eq_flags] at hflags
  unfold arrayLength Facts.arrayLengthOf consts
  rw [layout, Release.facts_array]
  refine congrArg (_ >>= ·) (funext fun _ ↦ ?_)
  simp only [hflags, ok_bind, bne_iff_ne, ne_eq]
  split <;> rfl

theorem arrayPtr_eq_facts (hflags : a.flags m v = .ok flags) :
    a.arrayPtr m v = (a.assertType "RArrayConstPtr" m v .array >>= fun _ ↦
      a.layout.arrayPtrOf m v flags) := by
  rw [← flagsWord_eq_flags] at hflags
  unfold arrayPtr Facts.arrayPtrOf consts
  rw [layout, Release.facts_array]
  refine congrArg (_ >>= ·) (funext fun _ ↦ ?_)
  simp only [hflags, ok_bind, bne_iff_ne, ne_eq]
  split <;> rfl

/-- The plain build asserts nothing. -/
theorem assertType_plain (r : Release) (op : String) (m : Memory) (v : Value) (t : TypeCode) :
    (Accessors.mk r false).assertType op m v t = .ok () := rfl

/-- An element of the plain build is the word `i` words past the elements of the facts. -/
theorem arrayRef_eq_facts (r : Release) {m : Memory} {v flags : Value}
    (hflags : m.wordAt (v + r.facts.header.flagsOffset) = .ok flags) (i : Int) :
    (Accessors.mk r false).arrayRef m v i = r.facts.arrayRefOf m v flags i := by
  have hptr := arrayPtr_eq_facts (Accessors.mk r false) hflags
  rw [assertType_plain, ok_bind] at hptr
  unfold arrayRef Facts.arrayRefOf
  dsimp only
  rw [hptr]
  rfl

theorem typedDataP_eq_layout (hflags : a.flags m v = .ok flags) :
    a.typedDataP m v = (a.assertType "RTypedDataP" m v .data >>= fun _ ↦
      a.layout.typedDataPOf m v flags) := by
  rw [← flagsWord_eq_flags] at hflags
  unfold typedDataP Facts.typedDataPOf
  rw [layout, Release.facts_typedData]
  refine congrArg (_ >>= ·) (funext fun _ ↦ ?_)
  cases hm : a.release.typedConsts.mark with
  | flagWord off =>
    simp only [TypedDataMark.typedFlag, TypedDataMark.flagOffset, if_true]
    refine congrArg (_ >>= ·) (funext fun w ↦ ?_)
    rw [Bits.bne_eq_decide, Bool.decide_and, decide_eq_decide.mpr UInt64.pos_iff_ne_zero]
  | headerFlag flag =>
    simp only [TypedDataMark.typedFlag, a.release.headerFlag_ne_zero hm, if_false, hflags, ok_bind,
      Bits.bne_eq_decide]
    rfl

theorem typedDataEmbeddedP_eq_layout :
    a.typedDataEmbeddedP m v = (a.assertType "RTypedDataEmbeddedP" m v .data >>= fun _ ↦
      a.layout.typedDataEmbeddedOf m v) := by
  unfold typedDataEmbeddedP Facts.typedDataEmbeddedOf Facts.typedDataEmbedOffset
  rw [layout, Release.facts_typedData]
  refine congrArg (_ >>= ·) (funext fun _ ↦ ?_)
  cases hm : a.release.typedConsts.mark with
  | flagWord off =>
    simp only [TypedDataMark.typedFlag, TypedDataMark.flagOffset, if_true, Bits.bne_eq_decide]
  | headerFlag flag =>
    simp only [TypedDataMark.typedFlag, a.release.headerFlag_ne_zero hm, if_false,
      Bits.bne_eq_decide]

theorem typedDataType_eq_layout :
    a.typedDataType m v = (a.assertType "RTypedDataType" m v .data >>= fun _ ↦
      a.layout.typedDataTypeOf m v) := by
  unfold typedDataType Facts.typedDataTypeOf
  rw [layout, Release.facts_typedData]
  refine congrArg (_ >>= ·) (funext fun _ ↦ ?_)
  refine congrArg (_ >>= ·) (funext fun w ↦ ?_)
  cases hm : a.release.typedConsts.mark with
  | flagWord off => simp only [TypedDataMark.typedFlag, if_true]
  | headerFlag flag =>
    simp only [TypedDataMark.typedFlag, a.release.headerFlag_ne_zero hm, if_false]

/-- A type assertion passes or fails whatever operation it names. -/
theorem assertType_ok_of_ok {op op' : String} {t : TypeCode}
    (h : a.assertType op m v t = .ok ()) : a.assertType op' m v t = .ok () := by
  unfold assertType assertHeap assert at *
  cases hd : a.debug
  · rfl
  · cases hsc : a.layout.isSpecialConst v
    · cases hb : a.builtinType m v with
      | error e =>
        simp only [hd, hsc, hb, if_true] at h
        cases h
      | ok got =>
        by_cases hg : got = t
        · simp [hg]
        · simp [hd, hsc, hb, hg] at h
    · simp only [hd, hsc, if_true, Bool.not_true, Bool.not_false, Bool.and_self] at h
      cases h

/-- The payload of typed data is the one its facts describe, whatever the build: the assertion
that the embedded test repeats is the one already passed. -/
theorem typedDataGetData_eq_layout :
    a.typedDataGetData m v = (a.assertType "RTypedDataGetData" m v .data >>= fun _ ↦
      a.layout.typedDataGetDataOf m v) := by
  unfold typedDataGetData Facts.typedDataGetDataOf
  rw [typedDataEmbeddedP_eq_layout, layout, Release.facts_typedData]
  cases hA : a.assertType "RTypedDataGetData" m v .data with
  | error e => rfl
  | ok u =>
    rw [ok_bind, ok_bind, assertType_ok_of_ok a hA, ok_bind]

end Accessors

namespace Accessors

variable {m : Memory} {v flags : Value} {r : Release} (debug : Bool)

/-- Whether data is typed, for every release, is what its facts describe. -/
theorem typedDataP_eq_facts (hflags : m.wordAt (v + r.facts.header.flagsOffset) = .ok flags) :
    (Accessors.mk r debug).typedDataP m v =
      ((Accessors.mk r debug).assertType "RTypedDataP" m v .data >>= fun _ ↦
        r.facts.typedDataPOf m v flags) :=
  typedDataP_eq_layout _ hflags

theorem typedDataEmbeddedP_eq_facts :
    (Accessors.mk r debug).typedDataEmbeddedP m v =
      ((Accessors.mk r debug).assertType "RTypedDataEmbeddedP" m v .data >>= fun _ ↦
        r.facts.typedDataEmbeddedOf m v) :=
  typedDataEmbeddedP_eq_layout _

theorem typedDataType_eq_facts :
    (Accessors.mk r debug).typedDataType m v =
      ((Accessors.mk r debug).assertType "RTypedDataType" m v .data >>= fun _ ↦
        r.facts.typedDataTypeOf m v) :=
  typedDataType_eq_layout _

theorem typedDataGetData_eq_facts :
    (Accessors.mk r debug).typedDataGetData m v =
      ((Accessors.mk r debug).assertType "RTypedDataGetData" m v .data >>= fun _ ↦
        r.facts.typedDataGetDataOf m v) :=
  typedDataGetData_eq_layout _

end Accessors

/-! ### The decoders of every release -/

/-- The decoders of every release are determined by the facts it publishes: for an object whose
header word is `flags`, each accessor is its assertion followed by the facts' reading. -/
theorem decoders_determined_by_facts (r : Release) (debug : Bool) (m : Memory) (v flags : Value)
    (hflags : m.wordAt (v + r.facts.header.flagsOffset) = .ok flags) :
    (Accessors.mk r debug).stringLength m v =
        ((Accessors.mk r debug).assertType "RStringLen" m v .string >>= fun _ ↦
          r.facts.stringLengthOf m v flags) ∧
      (Accessors.mk r debug).stringPtr m v =
        ((Accessors.mk r debug).assertType "RStringPtr" m v .string >>= fun _ ↦
          r.facts.stringPtrOf m v flags) ∧
      (Accessors.mk r debug).stringInternedP m v =
        ((Accessors.mk r debug).assertType "RStringInternedP" m v .string >>= fun _ ↦
          .ok (decide (flags &&& r.facts.string.fstr ≠ 0))) ∧
      (Accessors.mk r debug).arrayLength m v =
        ((Accessors.mk r debug).assertType "RArrayLen" m v .array >>= fun _ ↦
          r.facts.arrayLengthOf m v flags) ∧
      (Accessors.mk r debug).arrayPtr m v =
        ((Accessors.mk r debug).assertType "RArrayConstPtr" m v .array >>= fun _ ↦
          r.facts.arrayPtrOf m v flags) ∧
      (∀ i, (Accessors.mk r false).arrayRef m v i = r.facts.arrayRefOf m v flags i) ∧
      (Accessors.mk r debug).typedDataP m v =
        ((Accessors.mk r debug).assertType "RTypedDataP" m v .data >>= fun _ ↦
          r.facts.typedDataPOf m v flags) ∧
      (Accessors.mk r debug).typedDataEmbeddedP m v =
        ((Accessors.mk r debug).assertType "RTypedDataEmbeddedP" m v .data >>= fun _ ↦
          r.facts.typedDataEmbeddedOf m v) ∧
      (Accessors.mk r debug).typedDataType m v =
        ((Accessors.mk r debug).assertType "RTypedDataType" m v .data >>= fun _ ↦
          r.facts.typedDataTypeOf m v) ∧
      (Accessors.mk r debug).typedDataGetData m v =
        ((Accessors.mk r debug).assertType "RTypedDataGetData" m v .data >>= fun _ ↦
          r.facts.typedDataGetDataOf m v) := by
  have ha : (Accessors.mk r debug).flags m v = .ok flags := hflags
  exact ⟨Accessors.stringLength_eq_facts debug hflags, Accessors.stringPtr_eq_facts _ ha,
    Accessors.stringInternedP_eq_facts _ ha, Accessors.arrayLength_eq_facts _ ha,
    Accessors.arrayPtr_eq_facts _ ha, Accessors.arrayRef_eq_facts r hflags,
    Accessors.typedDataP_eq_facts debug hflags, Accessors.typedDataEmbeddedP_eq_facts debug,
    Accessors.typedDataType_eq_facts debug, Accessors.typedDataGetData_eq_facts debug⟩

/-- The string "abc" built on an empty 3.3 arena of a page: the debug build's length of it is the
facts' reading of its header and length word, 3. -/
theorem decoders_determined_by_facts_built_string :
    ∃ h1 v flags,
      Heap.exec (Heap.mk Release.v33.facts ⟨Heap.arenaBase, 4096, .empty⟩ 0 [] default [])
        (Heap.string "abc".toUTF8) = (.ok v, h1) ∧
      h1.memory.wordAt (v + Release.v33.facts.header.flagsOffset) = .ok flags ∧
      Release.v33.facts.stringLengthOf h1.memory v flags = .ok 3 ∧
      (Accessors.mk .v33 true).stringLength h1.memory v = .ok 3 := by
  have hok : (match Heap.exec
        (Heap.mk Release.v33.facts ⟨Heap.arenaBase, 4096, .empty⟩ 0 [] default [])
        (Heap.string "abc".toUTF8) with
      | (.ok v, h1) =>
        match h1.memory.wordAt (v + Release.v33.facts.header.flagsOffset) with
        | .ok flags =>
          decide ((Accessors.mk .v33 true).assertType "RStringLen" h1.memory v .string = .ok ()) &&
            decide (Release.v33.facts.stringLengthOf h1.memory v flags = .ok 3)
        | .error _ => false
      | (.error _, _) => false) = true := by
    decide +kernel
  cases hb : Heap.exec
      (Heap.mk Release.v33.facts ⟨Heap.arenaBase, 4096, .empty⟩ 0 [] default [])
      (Heap.string "abc".toUTF8) with
  | mk o h1 =>
    cases o with
    | error e =>
      rw [hb] at hok
      cases hok
    | ok v =>
      rw [hb] at hok
      dsimp only at hok
      cases hw : h1.memory.wordAt (v + Release.v33.facts.header.flagsOffset) with
      | error e =>
        rw [hw] at hok
        cases hok
      | ok flags =>
        rw [hw] at hok
        obtain ⟨hassert, hlen⟩ := Bool.and_eq_true_iff.mp hok
        have hlen' := of_decide_eq_true hlen
        refine ⟨h1, v, flags, rfl, hw, hlen', ?_⟩
        rw [(decoders_determined_by_facts .v33 true h1.memory v flags hw).1,
          of_decide_eq_true hassert, Accessors.ok_bind, hlen']

end RubyLayout
