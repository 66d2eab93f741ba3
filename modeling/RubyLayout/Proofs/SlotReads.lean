import RubyLayout.Proofs.CheckedTier

/-!
# What the accessors read of a value

Every accessor but the element read reads a heap object only in its base slot: the flags word,
the class word and words at offsets up to 32, whatever the release, the build or the tier
(`ReadOffsets`), and only `RBasicClass` reads the class word. So two memories that hold the same
five words from a value on give the same answer about it to every such accessor
(`Query.ask_congr`), and the class word may differ for all but `RBasicClass`
(`Query.ask_congr_of_words`).

Two changes to a header word are seen by fewer accessors still:

* setting bits of the flags word that miss the type field, the embedding flags and lengths, the
  bignum sign and the typed-data flag (`QuietBits`), as freezing and interning do, changes only
  the accessors that test those very bits, the frozen and the interned tests
  (`Query.ask_setsFlags`);
* rewriting the class word changes only `RBasicClass` (`Query.ask_setsKlass`).

A special constant is read from its word alone by every accessor of the checked tier and of the
debug build, and by the type tests and fixnum accessors of any build (`Query.ask_of_special`):
each of them either answers from the tag or refuses the word before reading memory.

Scope. The typed-data accessors read the flags word whole in the layouts without typed data,
where no accessor set exposes them (`Query.Exposed`); the statements about header changes hold
for the accessors a set exposes.
-/

set_option autoImplicit false
set_option relaxedAutoImplicit false

namespace RubyLayout

/-! ### Where the accessors read -/

/-- The offset of a word past the class word inside the base slot of 40 bytes. -/
def BodyWord (k : UInt64) : Prop := 16 ≤ k.toNat ∧ k.toNat ≤ 32

instance (k : UInt64) : Decidable (BodyWord k) := inferInstanceAs (Decidable (_ ∧ _))

/-- Where the accessors of a release read an object: the flags word, the class word, and words
past them in the base slot. A word that the release lacks has the offset `0`. -/
structure ReadOffsets (r : Release) : Prop where
  flags : r.facts.header.flagsOffset = 0
  klass : r.facts.header.klassOffset = 8
  strHeapLen : BodyWord r.consts.rStringLength.heapLenOffset
  strHeapPtr : BodyWord r.consts.rStringHeapPtrOffset
  aryHeapLen : BodyWord r.consts.rArrayHeapLenOffset
  aryHeapPtr : BodyWord r.consts.rArrayHeapPtrOffset
  strEmbedLen : r.consts.rStringLength.embedLenOffset = 0 ∨
    BodyWord r.consts.rStringLength.embedLenOffset
  typedFlag : r.typedConsts.mark.flagOffset = 0 ∨ BodyWord r.typedConsts.mark.flagOffset
  typedType : r.typedConsts.typeOffset = 0 ∨ BodyWord r.typedConsts.typeOffset
  typedData : r.typedConsts.dataOffset = 0 ∨ BodyWord r.typedConsts.dataOffset

theorem Release.readOffsets (r : Release) : ReadOffsets r := by
  cases r <;> refine ⟨rfl, rfl, by decide, by decide, by decide, by decide, ?_, ?_, ?_, ?_⟩ <;>
    first | exact .inl rfl | exact .inr (by decide)

/-- Where embedded strings keep their length in a word of their own, the word is in the body. -/
theorem Release.embedLenOffset_of_separateWords {r : Release} {e off : UInt64}
    (hl : r.consts.rStringLength = .separateWords e off) : BodyWord e := by
  cases r <;> cases hl
  decide

/-- Where the release has typed data, its words are in the body, the flag word too where there
is one. -/
theorem Release.typedOffsets {r : Release} (h : r.hasTypedData = true) :
    (∀ off, r.typedConsts.mark = .flagWord off → BodyWord off) ∧
      BodyWord r.typedConsts.typeOffset ∧ BodyWord r.typedConsts.dataOffset := by
  cases r
  case v27 | v30 | v31 | v32 => cases h
  case v33 | v34 => exact ⟨fun _ hm ↦ by cases hm; decide, by decide, by decide⟩
  case v40 => exact ⟨fun _ hm ↦ (by cases hm), by decide, by decide⟩

theorem ReadOffsets.le_32 {k : UInt64} (h : k = 0 ∨ BodyWord k) : k.toNat ≤ 32 := by
  rcases h with rfl | hk
  · decide
  · exact hk.2

theorem ReadOffsets.misses_klass {k : UInt64} (h : k = 0 ∨ BodyWord k) :
    k.toNat = 0 ∨ 16 ≤ k.toNat := by
  rcases h with rfl | hk
  · exact .inl rfl
  · exact .inr hk.1

theorem Access.ok_bind {α β : Type} (a : α) (f : α → Access β) : (Except.ok a >>= f) = f a := rfl

theorem Access.throw_bind {α β : Type} (e : AccessError) (f : α → Access β) :
    ((throw e : Access α) >>= f) = throw e := rfl

/-! ### Memories that agree on a base slot -/

/-- `m'` reads the same words as `m` at `a + k` for every `k` up to `32`: the five words of a
base slot that starts at `a`. -/
def Memory.SameSlot (m m' : Memory) (a : UInt64) : Prop :=
  ∀ k : UInt64, k.toNat ≤ 32 → m'.wordAt (a + k) = m.wordAt (a + k)

namespace Query

/-- Whether every read of the accessor lies in the base slot of the value: all but the element
read, which follows the array's pointer. -/
def inSlot {α : Type} : Query α → Bool
  | .arrayRef _ => false
  | _ => true

/-- Whether the accessor reads the class word. -/
def readsKlass {α : Type} : Query α → Bool
  | .basicClass => true
  | _ => false

/-- Every accessor but the element read answers from the words of the base slot of the value, and
only `RBasicClass` reads the class word: two memories that hold the same words there, the class
word apart unless the accessor reads it, give the same answer, through every tier and build.
Every read is one of ten words, so the two sides are the same computation once they are equal;
the string length and the typed-data accessors read words that their release's form of the
constants names, and are taken form by form. -/
theorem ask_congr_of_words {α : Type} (api : Api) {m m' : Memory} {v : Value} (q : Query α)
    (hslot : q.inSlot = true)
    (hm : ∀ k : UInt64, k.toNat ≤ 32 → (k.toNat = 0 ∨ 16 ≤ k.toNat ∨ q.readsKlass = true) →
      m'.wordAt (v + k) = m.wordAt (v + k)) :
    q.ask api m' v = q.ask api m v := by
  have ho := Release.readOffsets api.release
  have e0 := hm api.release.facts.header.flagsOffset (by rw [ho.flags]; decide)
    (by rw [ho.flags]; exact .inl rfl)
  have ec : m'.wordAt (v + api.release.consts.rBasicFlagsOffset) =
      m.wordAt (v + api.release.consts.rBasicFlagsOffset) := e0
  have word : ∀ {k : UInt64}, (k = 0 ∨ BodyWord k) → m'.wordAt (v + k) = m.wordAt (v + k) :=
    fun hk ↦ hm _ (ReadOffsets.le_32 hk) ((ReadOffsets.misses_klass hk).imp_right .inl)
  have e2 := word ho.strEmbedLen
  have e3 := word (.inr ho.strHeapLen)
  have e4 := word (.inr ho.strHeapPtr)
  have e5 := word (.inr ho.aryHeapLen)
  have e6 := word (.inr ho.aryHeapPtr)
  have e7 := word ho.typedFlag
  have e8 := word ho.typedType
  have e9 := word ho.typedData
  have e1 : q.readsKlass = true → m'.wordAt (v + api.release.facts.header.klassOffset) =
      m.wordAt (v + api.release.facts.header.klassOffset) :=
    fun hk ↦ hm _ (by rw [ho.klass]; decide) (.inr (.inr hk))
  cases q
  case arrayRef i => cases hslot
  all_goals simp only [ask, Api.builtinType, Api.basicClass, Api.bignumPositiveP,
    Api.bignumNegativeP, Api.stringLength, Api.stringPtr, Api.stringInternedP, Api.arrayLength,
    Api.arrayPtr, Api.fixToLong, Api.fixToULong, Api.typedDataP, Api.typedDataEmbeddedP,
    Api.typedDataType, Api.typedDataGetData, Api.requireHeap, Api.requireType, Api.requireTyped,
    Api.requireFixnum, Api.raw, Api.layout, Accessors.rbType, Accessors.typeP, Accessors.symbolP,
    Accessors.dynamicSymP, Accessors.floatTypeP, Accessors.integerTypeP, Accessors.frozenP,
    Accessors.builtinType, Accessors.basicClass, Accessors.bignumPositiveP,
    Accessors.bignumNegativeP, Accessors.stringLength, Accessors.stringPtr,
    Accessors.stringInternedP, Accessors.arrayLength, Accessors.arrayPtr, Accessors.typedDataP,
    Accessors.typedDataEmbeddedP, Accessors.typedDataType, Accessors.typedDataGetData,
    Accessors.assertType, Accessors.flags, Accessors.flagsWord, Accessors.consts,
    Accessors.longAt, Accessors.layout, e0, ec, e4, e5, e6, e8, e9]
  case basicClass => rw [e1 rfl]; rfl
  case stringLength =>
    cases hl : api.release.consts.rStringLength <;>
      simp only [hl, StringLength.embedLenOffset, StringLength.heapLenOffset] at e2 e3 <;>
      simp only [e2, e3] <;> rfl
  case typedDataP | typedDataEmbeddedP | typedDataType | typedDataGetData =>
    cases hk : api.release.typedConsts.mark <;>
      simp only [hk, TypedDataMark.flagOffset] at e7 <;> simp only [e7] <;> rfl
  all_goals rfl

/-- Every accessor but the element read answers from the base slot of the value: two memories
that hold the same words there give the same answer, through every tier and build. -/
theorem ask_congr {α : Type} (api : Api) {m m' : Memory} {v : Value} (hm : m.SameSlot m' v)
    (q : Query α) (hq : q.inSlot = true) : q.ask api m' v = q.ask api m v :=
  ask_congr_of_words api q hq fun k hk _ ↦ hm k hk

end Query

/-! ### Changes to a header word -/

/-- Bits that a change to the flags word may set without changing what the accessors read of
the type field, the embedding flags and lengths of strings and arrays, the bignum sign or the
typed-data flag. -/
structure QuietBits (f : Facts) (b : UInt64) : Prop where
  type : b &&& f.header.typeMask = 0
  noEmbed : b &&& f.string.noEmbed = 0
  strLen : b &&& f.string.embedLenMask = 0
  aryFlag : b &&& f.array.embedFlag = 0
  aryLen : b &&& f.array.embedLenMask = 0
  sign : b &&& f.header.bignumSign = 0
  typed : b &&& f.typedData.typedFlag = 0

/-- The frozen flag of every release is quiet. -/
theorem Release.quietBits_freeze (r : Release) : QuietBits r.facts r.facts.header.freeze := by
  cases r <;> exact ⟨by decide, by decide, by decide, by decide, by decide, by decide, by decide⟩

/-- The flags that interning sets are quiet. -/
theorem Release.quietBits_intern (r : Release) :
    QuietBits r.facts (r.facts.string.fstr ||| r.facts.header.freeze) := by
  cases r <;> exact ⟨by decide, by decide, by decide, by decide, by decide, by decide, by decide⟩

/-- `m'` holds the words of `m` at `a + k` for `k` from `8` to `32`, and at `a` the word of `m`
with the bits `b` set. -/
def Memory.SetsFlags (m m' : Memory) (a b : UInt64) : Prop :=
  (∃ w, m.wordAt a = .ok w ∧ m'.wordAt a = .ok (w ||| b)) ∧
    ∀ k : UInt64, 8 ≤ k.toNat → k.toNat ≤ 32 → m'.wordAt (a + k) = m.wordAt (a + k)

/-- `m'` holds the words of `m` at `a + k` for every `k` up to `32` whose word misses the class
word at `a + 8`. -/
def Memory.SetsKlass (m m' : Memory) (a : UInt64) : Prop :=
  ∀ k : UInt64, k.toNat ≤ 32 → (k.toNat = 0 ∨ 16 ≤ k.toNat) →
    m'.wordAt (a + k) = m.wordAt (a + k)

namespace Query

/-- The flag bits that the accessor tests beyond the quiet ones: the frozen flag for `FrozenP`,
the interned flag for `RStringInternedP`, none for the others. -/
def flagTest {α : Type} (f : Facts) : Query α → UInt64
  | .frozenP => f.header.freeze
  | .stringInternedP => f.string.fstr
  | _ => 0

/-- Whether the accessor set exposes the accessor: the interned test where strings have an
interned flag, the typed-data accessors where the layout has typed data, all others always. -/
def Exposed {α : Type} (api : Api) : Query α → Prop
  | .stringInternedP => api.hasInternedStrings = true
  | .typedDataP | .typedDataEmbeddedP | .typedDataType | .typedDataGetData =>
    api.hasTypedData = true
  | _ => True

/-- Setting quiet bits of an object's flags word changes the answer of no exposed accessor of the
base slot but those that test the bits. -/
theorem ask_setsFlags {α : Type} (api : Api) {m m' : Memory} {v b : UInt64}
    (hm : m.SetsFlags m' v b) (hb : QuietBits api.layout b) (q : Query α)
    (hslot : q.inSlot = true) (hq : q.Exposed api) (ht : b &&& q.flagTest api.layout = 0) :
    q.ask api m' v = q.ask api m v := by
  obtain ⟨⟨w, hw, hw'⟩, hrest⟩ := hm
  obtain ⟨r, debug, tier, reported, extended⟩ := api
  have ho := Release.readOffsets r
  have hb : QuietBits r.facts b := hb
  have body : ∀ {k : UInt64}, BodyWord k → m'.wordAt (v + k) = m.wordAt (v + k) :=
    fun hk ↦ hrest _ (by have := hk.1; omega) hk.2
  have hf : m.wordAt (v + r.facts.header.flagsOffset) = .ok w := by
    rw [ho.flags, UInt64.add_zero]
    exact hw
  have hf' : m'.wordAt (v + r.facts.header.flagsOffset) = .ok (w ||| b) := by
    rw [ho.flags, UInt64.add_zero]
    exact hw'
  have hc : m.wordAt (v + r.consts.rBasicFlagsOffset) = .ok w := hf
  have hc' : m'.wordAt (v + r.consts.rBasicFlagsOffset) = .ok (w ||| b) := hf'
  have e1 : m'.wordAt (v + r.facts.header.klassOffset) =
      m.wordAt (v + r.facts.header.klassOffset) :=
    hrest _ (by rw [ho.klass]; decide) (by rw [ho.klass]; decide)
  have e3 := body ho.strHeapLen
  have e4 := body ho.strHeapPtr
  have e5 := body ho.aryHeapLen
  have e6 := body ho.aryHeapPtr
  have mt := Bits.or_and_of_and_eq_zero w hb.type
  have mn : (w ||| b) &&& r.consts.rStringNoEmbed = w &&& r.consts.rStringNoEmbed :=
    Bits.or_and_of_and_eq_zero w hb.noEmbed
  have ma : (w ||| b) &&& r.consts.rArrayEmbedFlag = w &&& r.consts.rArrayEmbedFlag :=
    Bits.or_and_of_and_eq_zero w hb.aryFlag
  have ml : (w ||| b) &&& r.consts.rArrayEmbedLenMask = w &&& r.consts.rArrayEmbedLenMask :=
    Bits.or_and_of_and_eq_zero w hb.aryLen
  have mg := Bits.or_and_of_and_eq_zero w hb.sign
  have my : b &&& r.typedConsts.mark.typedFlag = 0 := by
    have h := hb.typed
    rwa [Release.facts_typedData] at h
  cases q
  case arrayRef i => cases hslot
  all_goals simp only [ask, Api.builtinType, Api.basicClass, Api.bignumPositiveP,
    Api.bignumNegativeP, Api.stringLength, Api.stringPtr, Api.stringInternedP, Api.arrayLength,
    Api.arrayPtr, Api.fixToLong, Api.fixToULong, Api.typedDataP, Api.typedDataEmbeddedP,
    Api.typedDataType, Api.typedDataGetData, Api.requireHeap, Api.requireType, Api.requireTyped,
    Api.requireFixnum, Api.raw, Api.layout, Accessors.rbType, Accessors.typeP, Accessors.symbolP,
    Accessors.dynamicSymP, Accessors.floatTypeP, Accessors.integerTypeP, Accessors.frozenP,
    Accessors.builtinType, Accessors.basicClass, Accessors.bignumPositiveP,
    Accessors.bignumNegativeP, Accessors.stringLength, Accessors.stringPtr,
    Accessors.stringInternedP, Accessors.arrayLength, Accessors.arrayPtr, Accessors.typedDataP,
    Accessors.typedDataEmbeddedP, Accessors.typedDataType, Accessors.typedDataGetData,
    Accessors.assertType, Accessors.flags, Accessors.flagsWord, Accessors.consts,
    Accessors.longAt, Accessors.layout, hf, hf', hc, hc', e1, e4, e5, e6, mt, mn, ma, ml, mg,
    Access.ok_bind]
  case frozenP =>
    simp only [Bits.or_and_of_and_eq_zero w (show b &&& r.facts.header.freeze = 0 from ht)]
  case stringInternedP =>
    simp only [Bits.or_and_of_and_eq_zero w (show b &&& r.consts.rStringFStr.getD 0 = 0 from ht)]
  case stringLength =>
    have hs : b &&& r.consts.rStringLength.embedLenMask = 0 := hb.strLen
    cases hl : r.consts.rStringLength with
    | flagBits mask shift off =>
      simp only [hl, StringLength.embedLenMask, StringLength.heapLenOffset] at hs e3
      simp only [Bits.or_and_of_and_eq_zero w hs, e3]
      rfl
    | separateWords e off =>
      simp only [hl, StringLength.heapLenOffset] at e3
      simp only [body (Release.embedLenOffset_of_separateWords hl), e3]
      rfl
    | sharedWord off =>
      simp only [hl, StringLength.heapLenOffset] at e3
      simp only [e3]
  case typedDataP | typedDataEmbeddedP | typedDataType | typedDataGetData =>
    obtain ⟨hflag, htype, hdata⟩ := Release.typedOffsets ((Bool.and_eq_true _ _).mp hq).2
    cases hk : r.typedConsts.mark with
    | flagWord off => simp only [body (hflag off hk), body htype, body hdata]
    | headerFlag flag =>
      simp only [hk, TypedDataMark.typedFlag] at my
      simp only [Bits.or_and_of_and_eq_zero w my, body htype, body hdata]
  all_goals rfl

/-- Rewriting an object's class word changes the answer of no accessor of the base slot but
`RBasicClass`. -/
theorem ask_setsKlass {α : Type} (api : Api) {m m' : Memory} {v : Value} (hm : m.SetsKlass m' v)
    (q : Query α) (hslot : q.inSlot = true) (hk : q.readsKlass = false) :
    q.ask api m' v = q.ask api m v :=
  ask_congr_of_words api q hslot fun k hk32 hmiss ↦
    hm k hk32 (hmiss.imp_right fun h ↦ h.resolve_right (by rw [hk]; decide))

end Query

/-! ### Special constants -/

/-- Whether the requirement asks for a heap object: all do but none and a fixnum. -/
def Requirement.onHeap : Requirement → Bool
  | .nothing | .fixnum => false
  | _ => true

namespace Query

/-- About a special constant, every accessor of the checked tier and of the debug build, and the
type tests and fixnum accessors of any build, answer from the word alone: the same over any two
memories. -/
theorem ask_of_special {α : Type} (api : Api) (m m' : Memory) {v : Value}
    (hsc : api.layout.isSpecialConst v = true) (q : Query α)
    (hq : api.checking = true ∨ api.debug = true ∨ q.requirement.onHeap = false) :
    q.ask api m' v = q.ask api m v := by
  obtain ⟨r, debug, tier, reported, extended⟩ := api
  replace hsc : r.facts.isSpecialConst v = true := hsc
  replace hq : tier = .checked ∨ debug = true ∨ q.requirement.onHeap = false := by
    simpa [Api.checking] using hq
  rcases hq with rfl | rfl | hfree <;> cases q
  all_goals simp only [ask, Api.builtinType, Api.basicClass, Api.bignumPositiveP,
    Api.bignumNegativeP, Api.stringLength, Api.stringPtr, Api.stringInternedP, Api.arrayLength,
    Api.arrayPtr, Api.arrayRef, Api.fixToLong, Api.fixToULong, Api.typedDataP,
    Api.typedDataEmbeddedP, Api.typedDataType, Api.typedDataGetData, Api.requireHeap,
    Api.requireType, Api.requireTyped, Api.requireFixnum, Api.raw, Api.layout, Api.checking,
    Accessors.rbType, Accessors.typeP, Accessors.symbolP, Accessors.dynamicSymP,
    Accessors.floatTypeP, Accessors.integerTypeP, Accessors.frozenP, Accessors.fixToLong,
    Accessors.fixToULong, Accessors.builtinType, Accessors.basicClass, Accessors.bignumPositiveP,
    Accessors.bignumNegativeP, Accessors.stringLength, Accessors.stringPtr,
    Accessors.stringInternedP, Accessors.arrayLength, Accessors.arrayPtr, Accessors.arrayRef,
    Accessors.typedDataP, Accessors.typedDataEmbeddedP, Accessors.typedDataType,
    Accessors.typedDataGetData, Accessors.assertType, Accessors.assertHeap, Accessors.assert,
    Accessors.layout, hsc, Bool.not_true, Bool.not_false, Bool.false_eq_true, if_false, if_true,
    beq_self_eq_true, Bool.and_true, Bool.true_and, bind_assoc, Access.throw_bind,
    Access.error_bind]
  all_goals cases hfree

end Query

end RubyLayout
