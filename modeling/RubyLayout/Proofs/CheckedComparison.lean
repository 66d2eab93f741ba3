import RubyLayout.Proofs.SampleShapes
import RubyLayout.Proofs.FixnumCodec
import RubyLayout.Proofs.SymbolCodec
import RubyLayout.Service.Report

/-!
# Comparing the accessors of a release with their checked tier

The comparison runs every accessor that applies to a sample through both sides and dispatches on
what the reference reads: a special constant or a heap reference, then the fixnum or static
symbol tag, then the header type, then the typed-data marker. Through the checked tier each
accessor first verifies its requirement. This module proves that the dispatch asks each
accessor only where its requirement holds, for every value a corpus builds, so that the
comparison of a release with its own checked tier finds nothing.

`Clean x a` says that `x` ends with `a` from every tally and records no disagreement. The rules
`Clean.bind`, `clean_read`, `Clean.check` and `clean_forIn` follow the program; each
comparison function then has its own lemma, from `clean_compareKinds` to `clean_compareCodec`.

What a value reads is said by its shape (`Shape`): the type tests answer about every shape
(`Shape.read_ok`); a heap reference has a readable base slot, from which every accessor but the
element read answers (`Query.read_ok_of_slot`), and a header that tells its type
(`ObjectAt.reads`). Where an accessor's requirement is met, the checked tier reads what the plain
accessors read (`Query.asks_of_met`).

Main statement, `checked_tier_agrees_on_corpus`: for every release and every corpus built in a
fresh heap, the comparison of the plain accessors with their checked tier reports no
disagreement, no difference of facts, equal fingerprints and one sample per case; and so does
every report of a sweep over such pairs.
-/

set_option autoImplicit false
set_option relaxedAutoImplicit false

namespace RubyLayout

open Memory Heap

/-! ### Reads of a value by its shape -/

/-- Every word of the base slot of an object inside the arena is readable. -/
theorem Memory.wordAt_slot {m : Memory} (hbase : ArenaBase m.base) (hmap : m.mapped ≤ mapLimit)
    {off : Nat} (hin : off + 40 ≤ m.size) {k : UInt64} (hk : k.toNat ≤ 32) :
    ∃ w, m.wordAt (m.base + off.toUInt64 + k) = .ok w := by
  have hlim : mapLimit = 2 ^ 47 := rfl
  have hsize := size_le_mapped m
  have haddr : (m.base + off.toUInt64 + k).toNat = m.base.toNat + (off + k.toNat) :=
    hbase.toNat_add_field (by omega) (by omega)
  obtain ⟨w, hw⟩ := readWord_ok_of_readable (m := m) (a := m.base + off.toUInt64 + k) (by
    simp only [readable, Bool.and_eq_true, decide_eq_true_eq, haddr]
    omega)
  refine ⟨w, ?_⟩
  unfold Memory.wordAt
  rw [hw]

namespace Query

/-- About a value whose base slot is readable, every accessor of the plain build but the element
read answers. -/
theorem read_ok_of_slot (r : Release) {m : Memory} {v : Value}
    (hslot : ∀ k : UInt64, k.toNat ≤ 32 → ∃ w, m.wordAt (v + k) = .ok w) {α : Type}
    (q : Query α) (hq : q.inSlot = true) : ∃ a, q.read ⟨r, false⟩ m v = .ok a := by
  have ho := Release.readOffsets r
  have word : ∀ {k : UInt64}, (k = 0 ∨ BodyWord k) → ∃ w, m.wordAt (v + k) = .ok w :=
    fun hk ↦ hslot _ (ReadOffsets.le_32 hk)
  obtain ⟨w0, e0⟩ := hslot r.facts.header.flagsOffset (by rw [ho.flags]; decide)
  have ec : m.wordAt (v + r.consts.rBasicFlagsOffset) = .ok w0 := e0
  obtain ⟨w1, e1⟩ := hslot r.facts.header.klassOffset (by rw [ho.klass]; decide)
  obtain ⟨w2, e2⟩ := word ho.strEmbedLen
  obtain ⟨w3, e3⟩ := word (.inr ho.strHeapLen)
  obtain ⟨w4, e4⟩ := word (.inr ho.strHeapPtr)
  obtain ⟨w5, e5⟩ := word (.inr ho.aryHeapLen)
  obtain ⟨w6, e6⟩ := word (.inr ho.aryHeapPtr)
  obtain ⟨w7, e7⟩ := word ho.typedFlag
  obtain ⟨w8, e8⟩ := word ho.typedType
  obtain ⟨w9, e9⟩ := word ho.typedData
  cases q
  case arrayRef i => cases hq
  all_goals simp only [read, Accessors.rbType, Accessors.typeP, Accessors.symbolP,
    Accessors.dynamicSymP, Accessors.floatTypeP, Accessors.integerTypeP, Accessors.frozenP,
    Accessors.builtinType, Accessors.basicClass, Accessors.bignumPositiveP,
    Accessors.bignumNegativeP, Accessors.stringLength, Accessors.stringPtr,
    Accessors.stringInternedP, Accessors.arrayLength, Accessors.arrayPtr, Accessors.typedDataP,
    Accessors.typedDataEmbeddedP, Accessors.typedDataType, Accessors.typedDataGetData,
    Accessors.fixToLong, Accessors.fixToULong, Accessors.assertType, Accessors.assertHeap,
    Accessors.assert, Accessors.flags, Accessors.flagsWord, Accessors.consts, Accessors.longAt,
    Accessors.layout, e0, ec, e1, e4, e5, e6, e8, e9, Bool.false_and,
    Bool.false_eq_true, if_false, Access.ok_bind]
  case' stringLength =>
    cases hl : r.consts.rStringLength <;>
      simp only [hl, StringLength.embedLenOffset, StringLength.heapLenOffset] at e2 e3 <;>
      simp only [e2, e3, Access.ok_bind]
  case' typedDataP | typedDataEmbeddedP | typedDataType | typedDataGetData =>
    cases hk : r.typedConsts.mark <;> simp only [hk, TypedDataMark.flagOffset] at e7 <;>
      simp only [e7, Access.ok_bind]
  all_goals (repeat' split) <;> first
    | exact ⟨_, rfl⟩
    | (simp only [pure, Except.pure, bind, Except.bind]; split <;> exact ⟨_, rfl⟩)

/-- About a special constant, the type tests of the plain build answer from its tag. -/
theorem read_ok_of_special (r : Release) (m : Memory) {v : Value}
    (hsc : r.facts.isSpecialConst v = true) {α : Type} (q : Query α)
    (hq : q.requirement = .nothing) : ∃ a, q.read ⟨r, false⟩ m v = .ok a := by
  cases q <;> cases hq
  all_goals simp only [read, Accessors.rbType, Accessors.typeP, Accessors.symbolP,
    Accessors.dynamicSymP, Accessors.floatTypeP, Accessors.integerTypeP, Accessors.frozenP,
    Accessors.layout, hsc, Bool.not_true, Bool.false_eq_true, if_false, if_true]
  all_goals (repeat' split) <;> exact ⟨_, rfl⟩

/-- Where an accessor's requirement is met, the plain accessors and their checked tier read the
same. -/
theorem asks_of_met (r : Release) {m : Memory} {v : Value} {α : Type} {a : α} (q : Query α)
    (hmet : q.requirement.Met (Api.uncheckedPlain r) m v) (ha : q.read ⟨r, false⟩ m v = .ok a) :
    q.ask (Api.uncheckedPlain r) m v = .ok a ∧ q.ask (Api.ofRelease r false .checked) m v = .ok a := by
  have hp : q.ask (Api.uncheckedPlain r) m v = .ok a := (ask_unchecked r false q m v).trans ha
  exact ⟨hp, ((Query.checked_plain_guarded r q m v).2.2.1 hmet).trans hp⟩

end Query

/-- A word that the heap's table binds has an identifier. -/
theorem Heap.sym2Id_ok {heap : Heap} {v : Value} (hbound : (heap.symbols.dynamicId? v).isSome) :
    ∃ id, (Heap.exec heap (Heap.sym2Id v)).1 = .ok id := by
  unfold Heap.sym2Id
  rw [exec_bind_of_ok exec_get]
  dsimp only
  split
  · exact ⟨_, rfl⟩
  · obtain ⟨id, hid⟩ := Option.isSome_iff_exists.mp hbound
    rw [hid]
    exact ⟨id, rfl⟩

/-- A symbol bound in the heap's table has an identifier through every set of accessors. -/
theorem Api.sym2Id_ok (api : Api) {heap : Heap} {v : Value}
    (hbound : (heap.symbols.dynamicId? v).isSome) :
    ∃ id, ((api.sym2Id v).run heap).1 = .ok id := by
  unfold Api.sym2Id
  split
  · exact ⟨_, rfl⟩
  · obtain ⟨id, hid⟩ := Heap.sym2Id_ok hbound
    refine ⟨id, ?_⟩
    change (HostM.exec heap (HostM.ofHeap (Heap.sym2Id v))).1 = _
    rw [HostM.exec_ofHeap, hid]
    rfl

theorem StringObject.objectAt {f : Facts} {m : Memory} {v : Value} {s : ByteArray} {e i : Bool}
    (hobj : StringObject f m v s e i) : ObjectAt f m v TypeCode.string := by
  obtain ⟨off, w, hv, hoff, hin, hw, hat⟩ := hobj
  exact ⟨off, w, hv, hoff, hin, hat.header_holds, hw.type_eq⟩

theorem ArrayObject.objectAt {f : Facts} {m : Memory} {v : Value} {elems : List Value} {e : Bool}
    (hobj : ArrayObject f m v elems e) : ObjectAt f m v TypeCode.array := by
  obtain ⟨off, w, hv, hoff, hin, hw, hat⟩ := hobj
  exact ⟨off, w, hv, hoff, hin, hat.header_holds, hw.type_eq⟩

section Reads

variable {r : Release} {m : Memory} {v : Value}

/-- The plain build reads the type of a heap object from its header, and every accessor of its
base slot answers. -/
theorem ObjectAt.reads {t : TypeCode} (hobj : ObjectAt r.facts m v t)
    (hbase : ArenaBase m.base) (hmap : m.mapped ≤ mapLimit) :
    (Api.uncheckedPlain r).HeapOf m v t ∧
      ∀ {α : Type} (q : Query α), q.inSlot = true → ∃ a, q.read ⟨r, false⟩ m v = .ok a := by
  obtain ⟨off, w, rfl, hoff, hin, hheld, hty⟩ := hobj
  obtain ⟨hsc, hflags⟩ := Accessors.flags_of_holdsBytes r false hbase hmap hheld hoff
  have htype : (⟨r, false⟩ : Accessors).builtinType m (m.base + off.toUInt64) = .ok t := by
    rw [Accessors.builtinType_eq (a := ⟨r, false⟩) hsc hflags, Accessors.layout, hty,
      UInt32.toUInt32_toUInt64]
  exact ⟨⟨hsc, htype⟩, fun q hq ↦ Query.read_ok_of_slot r (fun k hk ↦ wordAt_slot hbase hmap hin hk) q hq⟩

/-- Two objects at one value have one type. -/
theorem ObjectAt.type_eq {t t' : TypeCode} (hobj : ObjectAt r.facts m v t)
    (hobj' : ObjectAt r.facts m v t') (hbase : ArenaBase m.base) (hmap : m.mapped ≤ mapLimit) :
    t = t' :=
  Except.ok.inj ((hobj.reads hbase hmap).1.2.symm.trans (hobj'.reads hbase hmap).1.2)

/-- A heap reference of some shape is an object of some type. -/
theorem Shape.objectAt {t : SymbolTable} (hsh : Shape r.facts m t v)
    (hsc : r.facts.isSpecialConst v = false) : ∃ ty, ObjectAt r.facts m v ty := by
  cases hsh with
  | special h => exact absurd (hsc.symm.trans h) Bool.false_ne_true
  | string hobj => exact ⟨_, hobj.objectAt⟩
  | array hobj => exact ⟨_, hobj.objectAt⟩
  | symbol hobj => exact ⟨_, hobj⟩
  | object hobj => exact ⟨_, hobj⟩

/-- Every type test of the plain build answers about a value of some shape. -/
theorem Shape.read_ok {t : SymbolTable} (hsh : Shape r.facts m t v) (hbase : ArenaBase m.base)
    (hmap : m.mapped ≤ mapLimit) {α : Type} (q : Query α) (hq : q.requirement = .nothing) :
    ∃ a, q.read ⟨r, false⟩ m v = .ok a := by
  cases hsc : r.facts.isSpecialConst v
  · obtain ⟨ty, hobj⟩ := hsh.objectAt hsc
    exact (hobj.reads hbase hmap).2 q (by cases q <;> first | rfl | cases hq)
  · exact Query.read_ok_of_special r m hsc q hq

end Reads

namespace Conformance

/-! ### Runs that record no disagreement -/

/-- `x` ends with `a` from every tally and adds no disagreement to it. -/
def Clean {α : Type} (x : CompareM α) (a : α) : Prop :=
  ∀ t : Tally, (x.run.run t).1 = .ok a ∧ (x.run.run t).2.mismatches = t.mismatches

section CleanRules

variable {α β : Type}

theorem clean_pure (a : α) : Clean (pure a) a := fun _ ↦ ⟨rfl, rfl⟩

/-- Clean runs compose: the second starts from the tally the first leaves, with the first's
result. -/
theorem Clean.bind {x : CompareM α} {f : α → CompareM β} {a : α} {b : β} (hx : Clean x a)
    (hf : Clean (f a) b) : Clean (x >>= f) b := by
  intro t
  obtain ⟨hx1, hx2⟩ := hx t
  obtain ⟨hf1, hf2⟩ := hf (x.run.run t).2
  have hstep : (x >>= f).run.run t = (f a).run.run (x.run.run t).2 := by
    rw [ExceptT.run_bind, StateT.run_bind]
    rcases hp : x.run.run t with ⟨e, t1⟩
    rw [hp] at hx1
    cases hx1
    rfl
  rw [hstep]
  exact ⟨hf1, hf2.trans hx2⟩

theorem Clean.ite {c : Prop} [Decidable c] {x y : CompareM α} {a : α} (hx : c → Clean x a)
    (hy : ¬ c → Clean y a) : Clean (if c then x else y) a := by
  by_cases h : c
  · rw [if_pos h]
    exact hx h
  · rw [if_neg h]
    exact hy h

theorem clean_read {x : Access α} {a : α} (h : x = .ok a) : Clean (read x) a := by
  subst h
  exact clean_pure a

theorem clean_readHost {heap : Heap} {x : HostM α} {a : α} (h : (x.run heap).1 = .ok a) :
    Clean (readHost heap x) a := by
  unfold readHost
  rw [h]
  exact clean_pure a

/-- A read that succeeds, turned into a reading. -/
theorem clean_lift {x : Access α} {a : α} (h : x = .ok a) (g : α → Reading) :
    Clean (read x >>= fun b ↦ pure (g b)) (g a) :=
  (clean_read h).bind (clean_pure _)

/-- A host conversion that succeeds, turned into a reading. -/
theorem clean_liftHost {heap : Heap} {x : HostM α} {a : α} (h : (x.run heap).1 = .ok a)
    (g : α → Reading) : Clean (readHost heap x >>= fun b ↦ pure (g b)) (g a) :=
  (clean_readHost h).bind (clean_pure _)

theorem Reading.same_self (R : Reading) : R.same R = true := by
  cases R <;> simp [Reading.same]

theorem clean_record {name op : String} {R R' : Reading} (h : R.same R' = true) :
    Clean (record name op R R') () := by
  intro t
  simp only [record, h, if_true]
  exact ⟨rfl, rfl⟩

theorem clean_record_self (name op : String) (R : Reading) : Clean (record name op R R) () :=
  clean_record (Reading.same_self R)

theorem Clean.check {name op : String} {X Y : CompareM Reading} {R R' : Reading}
    (hx : Clean X R) (hy : Clean Y R') (h : R.same R' = true) :
    Clean (Conformance.check name op X Y) () := by
  unfold Conformance.check
  exact hx.bind (hy.bind (clean_record h))

theorem Clean.check_same {name op : String} {X Y : CompareM Reading} {R : Reading}
    (hx : Clean X R) (hy : Clean Y R) : Clean (Conformance.check name op X Y) () :=
  hx.check hy (Reading.same_self R)

theorem Clean.check_self {name op : String} {X : CompareM Reading} {R : Reading}
    (hx : Clean X R) : Clean (Conformance.check name op X X) () :=
  hx.check_same hx

/-- A loop whose every round is clean is clean. -/
theorem clean_forIn {γ : Type} (xs : List γ) {body : γ → PUnit → CompareM (ForInStep PUnit)}
    (h : ∀ b ∈ xs, Clean (body b PUnit.unit) (.yield PUnit.unit)) :
    Clean (forIn xs PUnit.unit body) PUnit.unit := by
  induction xs with
  | nil => exact clean_pure _
  | cons b rest ih =>
    rw [List.forIn_cons]
    exact (h b List.mem_cons_self).bind (ih fun b' hb' ↦ h b' (List.mem_cons_of_mem _ hb'))

end CleanRules

/-! ### The plain accessors against their checked tier -/

/-- The plain accessors of a release compared with their checked tier, on the samples of `heap`. -/
def Sides.checkedTier (r : Release) (heap : Heap) : Sides :=
  ⟨Api.uncheckedPlain r, Api.ofRelease r false .checked, heap⟩

@[simp] theorem Sides.checkedTier_want (r : Release) (heap : Heap) :
    (Sides.checkedTier r heap).want = Api.uncheckedPlain r := rfl

@[simp] theorem Sides.checkedTier_got (r : Release) (heap : Heap) :
    (Sides.checkedTier r heap).got = Api.ofRelease r false .checked := rfl

@[simp] theorem Sides.checkedTier_heap (r : Release) (heap : Heap) :
    (Sides.checkedTier r heap).heap = heap := rfl

@[simp] theorem Sides.checkedTier_memory (r : Release) (heap : Heap) :
    (Sides.checkedTier r heap).memory = heap.memory := rfl

@[simp] theorem Api.raw_ofRelease (r : Release) (d : Bool) (t : Tier) :
    (Api.ofRelease r d t).raw = ⟨r, d⟩ := rfl

@[simp] theorem Api.layout_ofRelease (r : Release) (d : Bool) (t : Tier) :
    (Api.ofRelease r d t).layout = r.facts := rfl

/-- Where an accessor's requirement is met and the plain build answers, the plain accessor and
its checked form give the same reading. -/
theorem clean_check_ask {r : Release} {m : Memory} {v : Value} {name op : String} {α : Type}
    (q : Query α) (g : α → Reading) (hmet : q.requirement.Met (Api.uncheckedPlain r) m v)
    (hread : ∃ a, q.read ⟨r, false⟩ m v = .ok a) :
    Clean (Conformance.check name op (read (q.ask (Api.uncheckedPlain r) m v) >>= fun b ↦ pure (g b))
      (read (q.ask (Api.ofRelease r false .checked) m v) >>= fun b ↦ pure (g b))) () := by
  obtain ⟨a, ha⟩ := hread
  obtain ⟨hP, hC⟩ := Query.asks_of_met r q hmet ha
  exact Clean.check_same (clean_lift hP g) (clean_lift hC g)

section Sample

variable (r : Release) (heap : Heap) (name : String)

/-- The tag tests read the same layout on both sides, and the type tests go through the same
accessors: the comparison reads each twice, and it is clean where each answers. -/
theorem clean_compareKinds (v : Value)
    (hq : ∀ {α : Type} (q : Query α), q.requirement = .nothing →
      ∃ a, q.read ⟨r, false⟩ heap.memory v = .ok a) :
    Clean (compareKinds (Sides.checkedTier r heap) name v) () := by
  obtain ⟨a₁, h₁⟩ := hq .rbType rfl
  obtain ⟨a₂, h₂⟩ := hq .symbolP rfl
  obtain ⟨a₃, h₃⟩ := hq .dynamicSymP rfl
  obtain ⟨a₄, h₄⟩ := hq .floatTypeP rfl
  obtain ⟨a₅, h₅⟩ := hq .integerTypeP rfl
  obtain ⟨a₆, h₆⟩ := hq .frozenP rfl
  unfold compareKinds
  simp only [Sides.checkedTier_want, Sides.checkedTier_got, Sides.checkedTier_memory,
    Api.layout_ofRelease, Api.raw_ofRelease]
  refine (clean_record_self _ _ _).bind <| (clean_record_self _ _ _).bind <|
    (clean_record_self _ _ _).bind <| (clean_record_self _ _ _).bind <|
    (clean_record_self _ _ _).bind <| (clean_record_self _ _ _).bind <|
    (clean_record_self _ _ _).bind <| (clean_lift h₁ _).check_self.bind <| ?_
  refine (clean_forIn typesProbed fun t _ ↦ ?_).bind <| (clean_lift h₂ _).check_self.bind <|
    (clean_lift h₃ _).check_self.bind <| (clean_lift h₄ _).check_self.bind <|
    (clean_lift h₅ _).check_self.bind <| (clean_lift h₆ _).check_self
  obtain ⟨a, h⟩ := hq (.typeP t) rfl
  exact (clean_lift h _).check_self.bind (clean_pure _)

/-- The checks of a special constant are clean for every word: the conversions of a fixnum run
only on a fixnum, and those of a static symbol only on a static symbol, which are exactly what
the checked tier requires. -/
theorem clean_compareImmediate (v : Value) :
    Clean (compareImmediate (Sides.checkedTier r heap) name v) () := by
  unfold compareImmediate
  simp only [Sides.checkedTier_want, Sides.checkedTier_got, Sides.checkedTier_memory,
    Sides.checkedTier_heap, Api.layout_ofRelease]
  by_cases hfix : r.facts.isFixnum v = true
  · simp only [hfix, if_true]
    have hmet : Requirement.fixnum.Met (Api.uncheckedPlain r) heap.memory v := hfix
    have hlong : (Api.ofRelease r false .checked).fixToLong heap.memory v =
        .ok (Int.shiftRight (Word.signed v) 1) :=
      (Query.asks_of_met r .fixToLong hmet (Api.fixToLong_uncheckedPlain r heap.memory v)).2
    have hback : (Api.ofRelease r false .checked).longToFix (Int.shiftRight (Word.signed v) 1) =
        .ok v := by
      rw [(Api.longToFix_checked r false _).2 (Heap.fixable_shiftRight_signed r hfix)]
      exact (Api.longToFix_uncheckedPlain r _).trans
        (congrArg _ (Heap.fixnumOf_shiftRight_signed r hfix))
    have hnum : (((Api.uncheckedPlain r).num2Long v).run heap).1 =
        .ok (Int.shiftRight (Word.signed v) 1) := by
      simp only [Api.num2Long, Api.layout_ofRelease, hfix, if_true]
      rfl
    refine (clean_check_ask .fixToLong _ hmet ⟨_, rfl⟩).bind ?_
    refine (clean_check_ask .fixToULong _ hmet ⟨_, rfl⟩).bind ?_
    refine (Clean.check_same (clean_liftHost hnum _) (clean_liftHost hnum _)).bind ?_
    exact Clean.check_same (clean_pure _) ((clean_read hlong).bind (clean_lift hback _))
  simp only [hfix, Bool.false_eq_true, if_false]
  by_cases hsym : r.facts.isStaticSymbol v = true
  · simp only [hsym, if_true]
    have hid : (((Api.uncheckedPlain r).sym2Id v).run heap).1 = .ok (r.facts.symbolId v) := by
      simp only [Api.sym2Id, Api.layout_ofRelease, hsym, if_true]
      rfl
    refine (Clean.check_same (clean_liftHost hid _) (clean_liftHost hid _)).bind ?_
    refine Clean.check (clean_pure _) (clean_liftHost hid _) ?_
    rw [r.facts.idToSymbol_symbolId hsym]
    exact Reading.same_self _
  · simp only [hsym, Bool.false_eq_true, if_false]
    exact clean_pure ()

/-- The checks of a string object are clean: both sides read its length, its pointer and its
interned flag alike, since the checked tier finds a string there. -/
theorem clean_compareString (v : Value) {s : ByteArray} {e i : Bool}
    (hobj : StringObject r.facts heap.memory v s e i) (hbase : ArenaBase heap.memory.base)
    (hmap : heap.memory.mapped ≤ mapLimit) :
    Clean (compareString (Sides.checkedTier r heap) name v) () := by
  obtain ⟨-, hlenP, hvalP, -, -, hintP⟩ := StringObject.reads (Api.uncheckedPlain r) hobj hbase hmap
  obtain ⟨-, hlenC, -, -, -, hintC⟩ :=
    StringObject.reads (Api.ofRelease r false .checked) hobj hbase hmap
  obtain ⟨p, -, hptr, -⟩ := StringObject.stringPtr_eq hobj hbase hmap false
  obtain ⟨hptrP, hptrC⟩ :=
    Query.asks_of_met r .stringPtr ((hobj.objectAt).reads hbase hmap).1 hptr
  have hview : Api.view heap.memory p s.size 1 = .ok s := by
    have hptrP' : (Api.uncheckedPlain r).stringPtr heap.memory v = .ok p := hptrP
    unfold Api.stringValue at hvalP
    rwa [hptrP', Accessors.ok_bind, hlenP, Accessors.ok_bind] at hvalP
  unfold compareString
  simp only [Sides.checkedTier_want, Sides.checkedTier_got, Sides.checkedTier_memory]
  refine (clean_read hlenP).bind <| (Clean.check_same (clean_pure _) (clean_lift hlenC _)).bind <|
    (clean_read hptrP).bind <| (clean_read hptrC).bind <| (clean_record_self _ _ _).bind ?_
  simp only [beq_self_eq_true, if_true]
  refine (Clean.check_same (clean_lift hview _) ((clean_read hlenC).bind (clean_lift hview _))).bind ?_
  exact Clean.ite (fun _ ↦ Clean.check_same (clean_lift hintP _) (clean_lift hintC _))
    (fun _ ↦ clean_pure ())

/-- The elements of an array are read alike on both sides, from index `i` on, as long as they
lie inside the array. By induction on how many are left. -/
theorem clean_compareElements (v : Value) {elems : List Value} {e : Bool}
    (hobj : ArrayObject r.facts heap.memory v elems e) (hbase : ArenaBase heap.memory.base)
    (hmap : heap.memory.mapped ≤ mapLimit) (i count : Nat) (hin : i + count ≤ elems.length) :
    Clean (compareElements (Sides.checkedTier r heap) name v i count) () := by
  obtain ⟨-, -, hrefP, -⟩ := ArrayObject.reads (Api.uncheckedPlain r) hobj hbase hmap
  obtain ⟨-, -, hrefC, -⟩ := ArrayObject.reads (Api.ofRelease r false .checked) hobj hbase hmap
  induction count generalizing i with
  | zero => exact clean_pure ()
  | succ count ih =>
    rw [compareElements]
    simp only [Sides.checkedTier_want, Sides.checkedTier_got, Sides.checkedTier_memory]
    exact (Clean.check_same (clean_lift (hrefP i (by omega)) _)
      (clean_lift (hrefC i (by omega)) _)).bind (ih (i + 1) (by omega))

/-- An array's length and address are read alike on both sides, and so is every element, which
the comparison reads only inside the length. -/
theorem clean_compareArray (v : Value) {elems : List Value} {e : Bool}
    (hobj : ArrayObject r.facts heap.memory v elems e) (hbase : ArenaBase heap.memory.base)
    (hmap : heap.memory.mapped ≤ mapLimit) :
    Clean (compareArray (Sides.checkedTier r heap) name v) () := by
  obtain ⟨-, hlenP, -, -, -, -⟩ := ArrayObject.reads (Api.uncheckedPlain r) hobj hbase hmap
  obtain ⟨-, hlenC, -, -, -, -⟩ :=
    ArrayObject.reads (Api.ofRelease r false .checked) hobj hbase hmap
  obtain ⟨p, -, hptr, -⟩ := ArrayObject.arrayPtr_eq hobj hbase hmap false
  unfold compareArray
  simp only [Sides.checkedTier_want, Sides.checkedTier_got, Sides.checkedTier_memory]
  refine (clean_read hlenP).bind <| (Clean.check_same (clean_pure _) (clean_lift hlenC _)).bind <|
    (clean_check_ask .arrayPtr _ ((hobj.objectAt).reads hbase hmap).1 ⟨p, hptr⟩).bind <|
    (clean_read hlenC).bind ?_
  simp only [beq_self_eq_true, if_true, Int.toNat_natCast]
  exact clean_compareElements r heap name v hobj hbase hmap 0 elems.length (by omega)

/-- Typed data: the marker is read alike on both sides, as the checked tier finds data there, and
the other accessors only when both sides read it set, which is what they require. -/
theorem clean_compareData (v : Value) (hobj : ObjectAt r.facts heap.memory v TypeCode.data)
    (hbase : ArenaBase heap.memory.base) (hmap : heap.memory.mapped ≤ mapLimit) :
    Clean (compareData (Sides.checkedTier r heap) name v) () := by
  obtain ⟨hdata, hslot⟩ := hobj.reads hbase hmap
  obtain ⟨b, hb⟩ := hslot .typedDataP rfl
  obtain ⟨hbP, hbC⟩ := Query.asks_of_met r .typedDataP hdata hb
  unfold compareData
  simp only [Sides.checkedTier_want, Sides.checkedTier_got, Sides.checkedTier_memory]
  refine Clean.ite (fun _ ↦ ?_) (fun _ ↦ clean_pure ())
  refine (clean_read hbP).bind <| (Clean.check_same (clean_pure _) (clean_lift hbC _)).bind <|
    (clean_read hbC).bind <| Clean.ite (fun htyped ↦ ?_) (fun _ ↦ clean_pure ())
  obtain rfl : b = true := by simpa using htyped
  have hmet : Requirement.typed.Met (Api.uncheckedPlain r) heap.memory v := ⟨hdata, hb⟩
  exact (clean_check_ask .typedDataEmbeddedP _ hmet (hslot _ rfl)).bind <|
    (clean_check_ask .typedDataType _ hmet (hslot _ rfl)).bind <|
    clean_check_ask .typedDataGetData _ hmet (hslot _ rfl)

/-- Every check of a sample of some shape is clean: the tag and type tests, then the checks of a
special constant, or those of a heap reference's header and of its type. -/
theorem clean_compareSample (v : Value) (hsh : Shape r.facts heap.memory heap.symbols v)
    (hbase : ArenaBase heap.memory.base) (hmap : heap.memory.mapped ≤ mapLimit) :
    Clean (compareSample (Sides.checkedTier r heap) name v) () := by
  unfold compareSample
  simp only [Sides.checkedTier_want, Sides.checkedTier_got, Sides.checkedTier_memory,
    Sides.checkedTier_heap, Api.layout_ofRelease]
  refine (clean_compareKinds r heap name v (hsh.read_ok hbase hmap)).bind <|
    Clean.ite (fun _ ↦ clean_compareImmediate r heap name v) (fun hsc ↦ ?_)
  replace hsc : r.facts.isSpecialConst v = false := by simpa using hsc
  obtain ⟨ty, hobj⟩ := hsh.objectAt hsc
  obtain ⟨hheap, hslot⟩ := hobj.reads hbase hmap
  obtain ⟨⟨k, set⟩, hk⟩ := hslot .basicClass rfl
  obtain ⟨hkP, hkC⟩ := Query.asks_of_met r .basicClass hsc hk
  refine (clean_check_ask .builtinType _ hsc ⟨ty, hheap.2⟩).bind <|
    (clean_read hkP).bind <| (clean_read hkC).bind <| (clean_record_self _ _ _).bind <|
    (clean_record_self _ _ _).bind <|
    (clean_read (Query.asks_of_met r .builtinType hsc hheap.2).1).bind ?_
  cases hsh with
  | special h => exact absurd (hsc.symm.trans h) Bool.false_ne_true
  | string hstr =>
    obtain rfl := hobj.type_eq hstr.objectAt hbase hmap
    simp only [beq_self_eq_true, if_true]
    exact clean_compareString r heap name v hstr hbase hmap
  | array hary =>
    obtain rfl := hobj.type_eq hary.objectAt hbase hmap
    simp +decide only [if_true, if_false]
    exact clean_compareArray r heap name v hary hbase hmap
  | symbol hsym hbound =>
    obtain rfl := hobj.type_eq hsym hbase hmap
    simp +decide only [if_true, if_false]
    obtain ⟨id, hid⟩ := Api.sym2Id_ok (Api.uncheckedPlain r) hbound
    exact Clean.check_same (clean_liftHost hid _) (clean_liftHost hid _)
  | object hobj' hstr hary hsym =>
    obtain rfl := hobj.type_eq hobj' hbase hmap
    simp only [beq_false_of_ne hstr, beq_false_of_ne hary, beq_false_of_ne hsym,
      Bool.false_eq_true, if_false]
    refine Clean.ite (fun hbig ↦ ?_) (fun _ ↦ Clean.ite (fun hdata ↦ ?_) (fun _ ↦ clean_pure ()))
    · obtain rfl : ty = TypeCode.bignum := beq_iff_eq.mp hbig
      exact (clean_check_ask .bignumPositiveP _ hheap (hslot _ rfl)).bind <|
        clean_check_ask .bignumNegativeP _ hheap (hslot _ rfl)
    · obtain rfl : ty = TypeCode.data := beq_iff_eq.mp hdata
      exact clean_compareData r heap name v hobj hbase hmap

end Sample

/-- The codec checks are clean: the tests and the tagging of identifiers are the same functions
on both sides, and an integer is tagged only when it fits, which the checked tier requires. -/
theorem clean_compareCodec (r : Release) (heap : Heap) :
    Clean (compareCodec (Sides.checkedTier r heap)) () := by
  unfold compareCodec
  simp only [Sides.checkedTier_want, Sides.checkedTier_got, Api.layout_ofRelease]
  refine (clean_forIn codecLongs fun i _ ↦ ?_).bind <|
    (clean_forIn codecULongs fun _ _ ↦ ?_).bind <| (clean_forIn codecIds fun _ _ ↦ ?_).bind <|
    clean_pure ()
  · refine (clean_record_self _ _ _).bind <| Clean.ite (fun hfix ↦ ?_) (fun _ ↦ clean_pure _)
    have hP := Api.longToFix_uncheckedPlain r i
    have hC := ((Api.longToFix_checked r false i).2 hfix).trans hP
    exact (Clean.check_same (clean_lift hP _) (clean_lift hC _)).bind (clean_pure _)
  · exact (clean_record_self _ _ _).bind (clean_pure _)
  · exact (clean_record_self _ _ _).bind (clean_pure _)

/-! ### The whole comparison -/

/-- `y` adds no disagreement to any tally. -/
def Quiet {α : Type} (y : StateM Tally α) : Prop :=
  ∀ t : Tally, (y.run t).2.mismatches = t.mismatches

theorem quiet_pure {α : Type} (a : α) : Quiet (pure a : StateM Tally α) := fun _ ↦ rfl

theorem Quiet.bind {α β : Type} {y : StateM Tally α} {f : α → StateM Tally β} (hy : Quiet y)
    (hf : ∀ a, Quiet (f a)) : Quiet (y >>= f) := by
  intro t
  rw [StateT.run_bind]
  exact (hf _ _).trans (hy t)

/-- A clean comparison, run under its guard, records nothing. -/
theorem quiet_guarded (name : String) {x : CompareM Unit} (hx : Clean x ()) :
    Quiet (guarded name x) := by
  intro t
  obtain ⟨h1, h2⟩ := hx t
  unfold guarded
  rw [StateT.run_bind]
  rcases hp : (ExceptT.run x).run t with ⟨e, t1⟩
  rw [hp] at h1 h2
  cases h1
  exact h2

/-- A loop whose every round records nothing records nothing. -/
theorem quiet_forIn {γ : Type} (xs : List γ) {body : γ → PUnit → StateM Tally (ForInStep PUnit)}
    (h : ∀ b ∈ xs, Quiet (body b PUnit.unit)) : Quiet (forIn xs PUnit.unit body) := by
  induction xs with
  | nil => exact quiet_pure _
  | cons b rest ih =>
    rw [List.forIn_cons]
    refine Quiet.bind (h b List.mem_cons_self) fun step ↦ ?_
    cases step with
    | done u => exact quiet_pure u
    | yield u => exact ih fun b' hb' ↦ h b' (List.mem_cons_of_mem _ hb')

/-- A comparison whose every sample and whose codec are compared cleanly reports no
disagreement. -/
theorem compare_mismatches_eq_nil {want got : Api} {heap : Heap} {samples : List Sample}
    (hs : ∀ s ∈ samples, Clean (compareSample ⟨want, got, heap⟩ s.case.name s.value) ())
    (hc : Clean (compareCodec ⟨want, got, heap⟩) ()) :
    (compare want got heap samples).mismatches = [] := by
  unfold compare
  dsimp only
  split
  rename_i u t hrun
  have hquiet : ∀ y : StateM Tally Unit, Quiet y → y.run {} = (u, t) → t.mismatches = #[] :=
    fun y hy hr ↦ by simpa [hr] using hy {}
  rw [hquiet _ ?_ hrun, Array.toList_empty]
  exact (quiet_forIn samples fun s hs' ↦ (quiet_guarded _ (hs s hs')).bind fun _ ↦ quiet_pure _).bind
    fun _ ↦ quiet_guarded _ hc

/-- The report's facts, fingerprints and sample count come from the two sets of accessors and
the samples alone. -/
theorem compare_facts (want got : Api) (heap : Heap) (samples : List Sample)
    (hrep : want.reported = got.reported) :
    (compare want got heap samples).factsDiff = [] ∧
      (compare want got heap samples).wantFingerprint =
        (compare want got heap samples).gotFingerprint ∧
      (compare want got heap samples).samples = samples.length := by
  unfold compare
  dsimp only
  split
  simp [hrep]

/-- A report that found nothing on a corpus of `n` cases: no disagreement, no difference of
facts, equal fingerprints and one sample per case. -/
def Report.Agrees (rep : Report) (n : Nat) : Prop :=
  rep.mismatches = [] ∧ rep.factsDiff = [] ∧ rep.wantFingerprint = rep.gotFingerprint ∧
    rep.samples = n

/-- The plain accessors of a release and their checked tier agree on every corpus built on a
sound heap with a class for every type of boot. -/
theorem compare_checkedTier_agrees (r : Release) (c : Corpus) {h0 h1 : Heap}
    {samples : List Sample} (hs : Sound h0 r) (hb : Booted h0)
    (hbuild : c.build.run h0 = (.ok samples, h1)) :
    (compare (Api.uncheckedPlain r) (Api.ofRelease r false .checked) h1 samples).Agrees
      c.cases.length := by
  obtain ⟨hs1, hcases, hshapes⟩ := Conformance.build_samples_shaped c hs hb hbuild
  obtain ⟨hdiff, hfp, hn⟩ := compare_facts (Api.uncheckedPlain r) (Api.ofRelease r false .checked)
    h1 samples rfl
  refine ⟨compare_mismatches_eq_nil (fun s hsm ↦ ?_) (clean_compareCodec r h1), hdiff, hfp, ?_⟩
  · exact clean_compareSample r h1 s.case.name s.value (hshapes s hsm) hs1.base hs1.mapped_le
  · rw [hn, ← hcases, List.length_map]

/-- The same on a fresh heap of the release's facts, which is sound and has a class for every
type of boot. -/
theorem compare_checkedTier_agrees_of_create (r : Release) (c : Corpus) {size : Int}
    {h0 h1 : Heap} {samples : List Sample} (hcreate : Heap.create r.facts size = .ok h0)
    (hbuild : c.build.run h0 = (.ok samples, h1)) :
    (compare (Api.uncheckedPlain r) (Api.ofRelease r false .checked) h1 samples).Agrees
      c.cases.length := by
  obtain ⟨-, -, hbooted⟩ := Heap.create_classTable hcreate
  exact compare_checkedTier_agrees r c (Heap.create_sound hcreate) hbooted hbuild

end Conformance

namespace Service

open Conformance

/-- A sweep of one pair that answers is the comparison of the pair on the corpus built in a fresh
heap of the reference's facts. -/
theorem sweepPair_eq_ok {c : Corpus} {want got : Api} {rep : Report}
    (h : sweepPair c (want, got) = .ok rep) :
    ∃ h0 h1 samples, Heap.create want.reported 0 = .ok h0 ∧
      c.build.run h0 = (.ok samples, h1) ∧ rep = compare want got h1 samples := by
  unfold sweepPair at h
  dsimp only at h
  split at h
  · cases h
  · rename_i h0 hcreate
    unfold compareOn at h
    split at h
    · cases h
    · rename_i h1 hcmp
      cases h
      split at hcmp
      · cases hcmp
      · cases hcmp
        rename_i samples hbuild
        exact ⟨h0, h1, samples, hcreate, hbuild, rfl⟩

/-- Every result of a traversal that succeeds is the result of one of its inputs. -/
theorem mem_of_mapM_eq_ok {α β ε : Type} {f : α → Except ε β} {xs : List α} {ys : List β}
    (h : xs.mapM f = .ok ys) : ∀ y ∈ ys, ∃ x ∈ xs, f x = .ok y := by
  induction xs generalizing ys with
  | nil =>
    cases h
    exact fun _ hy ↦ absurd hy List.not_mem_nil
  | cons x rest ih =>
    rw [List.mapM_cons] at h
    cases hx : f x with
    | error e => rw [hx] at h; cases h
    | ok y =>
      cases hrest : rest.mapM f with
      | error e => rw [hx, hrest] at h; cases h
      | ok ys' =>
        rw [hx, hrest] at h
        cases h
        intro y' hy'
        rcases List.mem_cons.mp hy' with rfl | hy'
        · exact ⟨x, List.mem_cons_self, hx⟩
        · obtain ⟨x', hx', hfx'⟩ := ih hrest y' hy'
          exact ⟨x', List.mem_cons_of_mem _ hx', hfx'⟩

end Service

open Conformance Service

/-- Comparing the plain accessors of a release with their checked tier finds nothing: for every
release and every corpus built in a fresh heap of the release's facts, the comparison reports no
disagreement, no difference of facts, equal fingerprints and one sample per case; and so does
every report of a sweep over such pairs. -/
theorem checked_tier_agrees_on_corpus (c : Corpus) :
    (∀ (r : Release) (size : Int) (h0 h1 : Heap) (samples : List Sample),
      Heap.create r.facts size = .ok h0 → c.build.run h0 = (.ok samples, h1) →
      (compare (Api.uncheckedPlain r) (Api.ofRelease r false .checked) h1 samples).Agrees
        c.cases.length) ∧
    (∀ (rs : List Release) (reports : List Report),
      (rs.map fun r ↦ (Api.uncheckedPlain r, Api.ofRelease r false .checked)).mapM
        (sweepPair c) = .ok reports →
      ∀ rep ∈ reports, rep.Agrees c.cases.length) := by
  refine ⟨fun r _ h0 h1 samples ↦ compare_checkedTier_agrees_of_create r c,
    fun rs reports hsweep rep hrep ↦ ?_⟩
  obtain ⟨pair, hpair, hone⟩ := mem_of_mapM_eq_ok hsweep rep hrep
  obtain ⟨r, -, rfl⟩ := List.mem_map.mp hpair
  obtain ⟨h0, h1, samples, hcreate, hbuild, rfl⟩ := sweepPair_eq_ok hone
  exact compare_checkedTier_agrees_of_create r c hcreate hbuild

/-- On a fresh 4.0 heap of 4096 bytes a corpus of `nil` and the string "abc" builds, and the
comparison of its two samples with the checked tier finds nothing. The string's slot fits past
boot's class objects. -/
theorem checked_tier_agrees_on_nil_and_string :
    ∃ h0 h1 samples, Heap.create Release.v40.facts 4096 = .ok h0 ∧
      (⟨[{ name := "n", kind := "special", text := "nil" },
        { name := "s", kind := "string", text := "abc" }]⟩ : Corpus).build.run h0 =
        (.ok samples, h1) ∧
      (compare (Api.uncheckedPlain .v40) (Api.ofRelease .v40 false .checked) h1 samples).Agrees 2 := by
  obtain ⟨h0, hc, hnext, hsize⟩ := Heap.create_ok (r := .v40) 4096 (.inr ⟨by decide, by decide⟩)
  have hs := Heap.create_sound hc
  have hsize' : h0.memory.size = 4096 := hsize
  have hlt := hs.nextAligned_lt
  obtain ⟨v, h1, hv⟩ := Heap.exec_string_of_room hs (s := "abc".toUTF8) (by decide) (by decide)
    (show h0.nextAligned + 40 ≤ h0.memory.size by omega)
  have hbuild : (⟨[{ name := "n", kind := "special", text := "nil" },
      { name := "s", kind := "string", text := "abc" }]⟩ : Corpus).build.run h0 =
      (.ok [⟨{ name := "n", kind := "special", text := "nil" }, SpecialConstant.nil.word h0.facts⟩,
        ⟨{ name := "s", kind := "string", text := "abc" }, v⟩], h1) := by
    unfold Corpus.build
    rw [List.mapM_cons, run_bind, run_buildCase_plain rfl rfl, run_buildValue_special rfl rfl]
    dsimp only
    rw [run_bind, List.mapM_cons, run_bind, run_buildCase_plain rfl rfl,
      run_buildValue_string rfl rfl, run_onHeap]
    dsimp only
    rw [stringSample, if_neg Bool.false_ne_true, hv]
    rfl
  exact ⟨h0, h1, _, hc, hbuild, (checked_tier_agrees_on_corpus _).1 .v40 4096 h0 h1 _ hc hbuild⟩

end RubyLayout
