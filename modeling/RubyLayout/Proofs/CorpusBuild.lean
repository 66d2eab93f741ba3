import RubyLayout.Proofs.BuildFailures
import RubyLayout.Proofs.Integers
import RubyLayout.Conformance.Build

/-!
# Building a valid corpus

A valid corpus is built case by case into one heap. What can go wrong is read off the steps of a
case: the heap call that makes its value, the interning and the freezing it asks for, and, for a
string without text or an array, the length of its filler or elements.

* The heap calls are builders, so they fail only as a builder may (`Builder.failsCleanly`), and
  the value they return is an immediate or a fresh slot (`Heap.BuildsValue`).
* Interning and freezing set flag bits in the word the value points to (`exec_orFlags_cases`).
  For a fresh slot that is its header word; a special constant is no address of the arena, and
  the write faults at the word itself (`CaseStep.of_flagValue`).
* A container length bound to the capacity with a negative offset, or one past the largest
  allocation, cannot be made (`Case.LengthFault`); validation checks the length field alone.

`CaseStep r k P x Q` is a triple for a step of building the case `k`: from a sound heap where
`P` holds, every run keeps the arena; one that succeeds leaves `Q` of its value, and one that
fails fails as building `k` may (`BuildError.IsCaseFailure`). The steps compose (`CaseStep.bind`),
and a corpus is built by running them for each case in turn.

Main statement: `validated_corpus_build`. A valid corpus built on a sound heap returns one
sample per case, in case order, or fails with a failure of one of its cases. It keeps the arena
either way.
-/

set_option autoImplicit false
set_option relaxedAutoImplicit false

namespace RubyLayout

/-- A settled value stays settled while the bump pointer moves forward over the same arena. -/
theorem Settled.of_next_le {f : Facts} {h h' : Heap} {v : Value} (hv : Settled f h v)
    (hnext : h.next ≤ h'.next) (ha : Heap.SameArena h h') : Settled f h' v := by
  rcases hv with hsc | ⟨off, slot, rfl, hfr⟩
  · exact .inl hsc
  · exact .inr ⟨off, slot, by rw [ha.base_eq], hfr.aligned, hfr.past, hfr.n_le, hfr.base_le,
      Nat.le_trans hfr.below hnext, ha.size_eq ▸ hfr.inside⟩

/-- The word of every special constant is not a heap reference. -/
theorem SpecialConstant.isSpecialConst_word (r : Release) (s : SpecialConstant) :
    r.facts.isSpecialConst (s.word r.facts) = Bool.true := by
  cases r <;> cases s <;> decide

/-- The word of every static symbol is an immediate. -/
theorem Release.isSpecialConst_symbol (r : Release) (id : UInt64) :
    r.facts.isSpecialConst
      (Word.shl id r.facts.specials.specialShift ||| r.facts.specials.symbolFlag) = true := by
  have hflag : r.facts.specials.symbolFlag &&& r.facts.specials.immediateMask ≠ 0 := by
    cases r <;> decide
  simp only [Facts.isSpecialConst, Facts.isImmediate, Bool.or_eq_true, bne_iff_ne, ne_eq]
  left
  rw [Bits.or_and]
  exact Bits.or_ne_zero_of_right _ hflag

/-- The header word of a fresh slot is readable. -/
theorem Settled.readable_of_not_special {r : Release} {h : Heap} {v : Value} (hs : h.Sound r)
    (hv : Settled r.facts h v)
    (hsc : r.facts.isSpecialConst v = false) : h.memory.readable v 8 = true := by
  rcases hv with hv | ⟨off, slot, rfl, hfr⟩
  · rw [hv] at hsc
    cases hsc
  · have hlim := hs.size_le
    have hmap := h.memory.size_le_mapped
    have hin := hfr.inside
    have hbase := hfr.base_le
    simp only [Memory.readable, Bool.and_eq_true, decide_eq_true_eq,
      hs.base.toNat_add_off (show off ≤ Heap.mapLimit by omega)]
    constructor <;> omega

namespace Heap

open Memory

variable {r : Release} {h h' : Heap} {x : HeapM Value}

theorem size_fillerBytes (n : Nat) : (fillerBytes n).size = n := by
  simp [fillerBytes, ByteArray.size]

/-- Setting flag bits in the word at `v`: a readable word is rewritten with the bits set, over
the same arena and with the same bump pointer; otherwise the read faults at `v` and nothing
changes. -/
theorem exec_orFlags_cases (hs : Sound h r) (v bits : UInt64) :
    (h.memory.readable v 8 = true ∧ ∃ h', exec h (orFlags v bits) = (.ok (), h') ∧
      SameArena h h' ∧ h'.next = h.next) ∨
    (h.memory.readable v 8 = false ∧
      exec h (orFlags v bits) = (.error (.fault (Fault.at v)), h)) := by
  unfold orFlags
  rw [exec_bind_of_ok exec_get, hs.facts_eq, Release.flagsOffset_eq]
  dsimp only
  rw [UInt64.add_zero]
  by_cases hr : h.memory.readable v 8 = true
  · obtain ⟨w, hw⟩ : ∃ w, h.memory.readWord v = .ok w := by
      unfold Memory.readWord
      rw [if_pos hr]
      exact ⟨_, rfl⟩
    have hin := hr
    simp only [readable, Bool.and_eq_true, decide_eq_true_eq] at hin
    rw [exec_bind_of_ok (exec_readWord hw), writeWord,
      exec_writeBytes (show v.toNat = h.memory.base.toNat + (v.toNat - h.memory.base.toNat) by omega)
        (by rw [wordBytes_size]; omega)]
    exact .inl ⟨hr, _, rfl, sameArena_withBytes _ _ _, next_withBytes _ _ _⟩
  · have hw : h.memory.readWord v = .error (Fault.at v) := by
      unfold Memory.readWord
      rw [if_neg hr]
    have hread : exec h (readWord v) = (.error (.fault (Fault.at v)), h) := by
      unfold readWord
      rw [exec_bind_of_ok exec_get, hw]
      rfl
    rw [exec_bind, hread]
    exact .inr ⟨by simpa using hr, rfl⟩


/-- Freezing sets the frozen flag in the word the value points to, and returns the value. -/
theorem exec_freeze_eq (hs : Sound h r) (v : Value) :
    exec h (freeze v) = match exec h (orFlags v r.facts.header.freeze) with
      | (.ok _, h') => (.ok v, h')
      | (.error e, h') => (.error e, h') := by
  unfold freeze
  rw [exec_bind_of_ok exec_getFacts, hs.facts_eq, exec_bind]
  rcases exec h (orFlags v r.facts.header.freeze) with ⟨_ | u, h'⟩ <;> rfl

/-- On a layout with the interned flag, interning a sample sets that flag and the frozen flag,
and returns the value. -/
theorem exec_internSample_eq (hs : Sound h r) (hF : r.facts.string.fstr ≠ 0) (v : Value) :
    exec h (internSample v) =
      match exec h (orFlags v (r.facts.string.fstr ||| r.facts.header.freeze)) with
      | (.ok _, h') => (.ok v, h')
      | (.error e, h') => (.error e, h') := by
  unfold internSample intern
  rw [exec_bind, exec_bind_of_ok exec_getFacts, hs.facts_eq, if_neg hF]
  rcases exec h (orFlags v (r.facts.string.fstr ||| r.facts.header.freeze)) with ⟨_ | u, h'⟩ <;>
    rfl

/-! ### Builders of sample values -/

/-- A builder of sample values: it fails only as a builder may, and every value it returns from a
sound heap is settled in the heap it leaves. -/
structure BuildsValue (r : Release) (x : HeapM Value) : Prop where
  clean : ∀ {base : UInt64}, FailsCleanly r base 0 x
  settled : ∀ h v h', Sound h r → exec h x = (.ok v, h') → Settled r.facts h' v

namespace BuildsValue

theorem of_buildsSlot {n : Nat} (hb : BuildsSlot r n x) (hc : ∀ {base}, FailsCleanly r base 0 x) :
    BuildsValue r x := by
  refine ⟨hc, fun h v h' hs hx ↦ ?_⟩
  obtain ⟨off, slot, rfl, hfr⟩ := hb.returns h v h' hs hx
  exact .inr ⟨off, slot, rfl, hfr.aligned, Nat.zero_le _, Nat.zero_le _, hfr.base_le, hfr.below,
    hfr.inside⟩

theorem getFacts_bind {f : Facts → HeapM Value} (hf : BuildsValue r (f r.facts)) :
    BuildsValue r (getFacts >>= f) := by
  refine ⟨failsCleanly_getFacts_bind hf.clean, fun h v h' hs hx ↦ ?_⟩
  rw [exec_bind_of_ok exec_getFacts, hs.facts_eq] at hx
  exact hf.settled h v h' hs hx

end BuildsValue

/-- An integer is a fixnum, an immediate, or a bignum object. -/
theorem buildsValue_integer (i : Int) : BuildsValue r (integer i) := by
  unfold integer
  split
  · refine BuildsValue.getFacts_bind ⟨failsCleanly_pure _, fun h v h' _ hx ↦ ?_⟩
    rw [exec_pure] at hx
    cases hx
    have hmask : r.facts.specials.fixnumFlag &&& r.facts.specials.immediateMask =
        r.facts.specials.fixnumFlag := by
      cases r <;> decide
    exact .inl (Facts.specialConst_of_fixnum _ _ (isFixnum_fixnumOf r i) hmask)
  · exact .of_buildsSlot (buildsSlot_bignum i) (failsCleanly_bignum i)

/-- A static symbol is an immediate, made after interning its name. -/
theorem buildsValue_symbol (name : String) : BuildsValue r (symbol name) := by
  unfold symbol
  refine BuildsValue.getFacts_bind ⟨FailsCleanly.bind (failsCleanly_internId name) fun _ ↦
    failsCleanly_pure _, fun h v h' _ hx ↦ ?_⟩
  obtain ⟨id, h1, -, hx⟩ := exec_bind_eq_ok hx
  rw [exec_pure] at hx
  cases hx
  exact .inl (Release.isSpecialConst_symbol r id)

theorem buildsValue_float (bits : UInt64) : BuildsValue r (float bits) :=
  ⟨failsCleanly_float bits, fun _ _ _ hs hx ↦ Builder.settled (.float bits) rfl hs hx⟩

theorem buildsValue_stringSample (s : ByteArray) (onHeap : Bool) :
    BuildsValue r (stringSample s onHeap) := by
  unfold stringSample
  split
  · exact .of_buildsSlot (buildsSlot_heapStringOf s.size _ rfl)
      (failsCleanly_heapStringOf s.size _ rfl)
  · exact .of_buildsSlot (buildsSlot_string s) (failsCleanly_string s)

/-- A string of filler bytes, with a separate buffer or embedded when it fits. -/
theorem buildsValue_fillerString (n : Nat) (onHeap : Bool) :
    BuildsValue r (if onHeap then heapStringOf n fun _ ↦ fillerBytes n
      else stringOf n fun _ ↦ fillerBytes n) := by
  split
  · exact .of_buildsSlot (buildsSlot_heapStringOf n _ (size_fillerBytes n))
      (failsCleanly_heapStringOf n _ (size_fillerBytes n))
  · exact .of_buildsSlot (buildsSlot_stringOf n _ (size_fillerBytes n))
      (failsCleanly_stringOf n _ (size_fillerBytes n))

/-- An array of `n` elements, with a separate buffer or embedded when it fits. -/
theorem buildsValue_arrayOf (n : Nat) (elems : Unit → List Value) (hn : (elems ()).length = n)
    (onHeap : Bool) :
    BuildsValue r (if onHeap then heapArrayOf n elems else arrayOf n elems) := by
  split
  · exact .of_buildsSlot (buildsSlot_heapArrayOf n elems hn) (failsCleanly_heapArrayOf n elems hn)
  · exact .of_buildsSlot (buildsSlot_arrayOf n elems hn) (failsCleanly_arrayOf n elems hn)

theorem buildsValue_dynamicSymbol (name : String) : BuildsValue r (dynamicSymbol name) :=
  .of_buildsSlot (buildsSlot_dynamicSymbol name) (failsCleanly_dynamicSymbol name)

theorem buildsValue_hash : BuildsValue r hash :=
  .of_buildsSlot buildsSlot_hash failsCleanly_hash

theorem buildsValue_plainObject : BuildsValue r plainObject :=
  .of_buildsSlot buildsSlot_plainObject failsCleanly_plainObject

theorem buildsValue_untypedData (data : UInt64) : BuildsValue r (untypedData data) :=
  .of_buildsSlot (buildsSlot_untypedData data) (failsCleanly_untypedData data)

/-- A typed data sample: its data type record and, out of line, its payload's buffer come first,
then the object. -/
theorem buildsValue_typedSample (payload : ByteArray) (onHeap : Bool) :
    BuildsValue r (typedSample payload onHeap) := by
  have hb : BuildsSlot r 0 (typedSample payload onHeap) := by
    unfold typedSample
    refine BuildsSlot.after (fun _ _ ↦ writesIn_dataType _) fun typ ↦ ?_
    split
    · exact BuildsSlot.after (fun _ _ ↦ writesIn_buffer _) fun buf ↦ buildsSlot_typedData typ buf
    · exact buildsSlot_embeddedTypedData typ payload
  refine .of_buildsSlot hb fun {base} ↦ ?_
  unfold typedSample
  refine FailsCleanly.bind (failsCleanly_dataType _) fun typ ↦ ?_
  split
  · exact FailsCleanly.bind (failsCleanly_buffer _) fun buf ↦ failsCleanly_typedData typ buf
  · exact failsCleanly_embeddedTypedData typ payload

end Heap

namespace Conformance

open Heap

variable {r : Release} {α β : Type} {k : Case}

/-! ### Running a build -/

theorem run_bind (x : BuildM α) (f : α → BuildM β) (h : Heap) :
    (x >>= f).run h = match x.run h with
      | (.ok a, h1) => (f a).run h1
      | (.error e, h1) => (.error e, h1) := by
  rw [ExceptT.run_bind]
  show StateT.bind _ _ h = _
  unfold StateT.bind
  rcases x.run h with ⟨_ | a, h1⟩ <;> rfl

@[simp] theorem run_pure (a : α) (h : Heap) : (pure a : BuildM α).run h = (.ok a, h) := rfl

@[simp] theorem run_throw (e : BuildError) (h : Heap) :
    (throw e : BuildM α).run h = (.error e, h) := rfl

@[simp] theorem run_get (h : Heap) : (get : BuildM Heap).run h = (.ok h, h) := rfl

/-- A heap operation for a case runs as itself; its failure names the case. -/
theorem run_onHeap (name : String) (x : HeapM α) (h : Heap) :
    (onHeap name x).run h = match exec h x with
      | (.ok a, h') => (.ok a, h')
      | (.error e, h') => (.error (.heap name e), h') := rfl

/-- A case that asks for neither interning nor freezing is a sample of the value its kind
builds. -/
theorem run_buildCase_plain (hi : k.interned = false) (hf : k.frozen = false) (h : Heap) :
    (buildCase k).run h = match (buildValue k).run h with
      | (.ok v, h') => (.ok ⟨k, v⟩, h')
      | (.error e, h') => (.error e, h') := by
  unfold buildCase
  rw [run_bind]
  rcases (buildValue k).run h with ⟨_ | v, h'⟩
  · rfl
  · dsimp only
    rw [run_bind, run_get]
    dsimp only
    rw [hi, Bool.false_and, if_neg Bool.false_ne_true, pure_bind, hf, if_neg Bool.false_ne_true,
      pure_bind, run_pure]

/-- A special constant is its word in the heap's layout, and the heap is left as it was. -/
theorem run_buildValue_special {s : SpecialConstant} (hk : Kind.ofName? k.kind = some .special)
    (hs : SpecialConstant.ofName? k.text = some s) (h : Heap) :
    (buildValue k).run h = (.ok (s.word h.facts), h) := by
  unfold buildValue
  rw [run_bind, run_get]
  dsimp only
  rw [hk]
  dsimp only
  rw [hs]
  rfl

/-- A string with a text is the string sample of the text, built for the case. -/
theorem run_buildValue_string (hk : Kind.ofName? k.kind = some .string)
    (ht : k.text.isEmpty = false) (h : Heap) :
    (buildValue k).run h = (onHeap k.name (stringSample k.text.toUTF8 k.heap)).run h := by
  unfold buildValue
  rw [run_bind, run_get]
  dsimp only
  rw [hk]
  dsimp only
  rw [ht]
  rfl

/-! ### Lengths that cannot be made -/

/-- The filler of a length is refused, with a fault of the program, only for a negative length
or one whose alphabet repeats past the largest allocation. -/
theorem fillerLength_eq_error {n : Int} {e : BuildError} (he : fillerLength n = .error e) :
    (e = .negativeRepeat ∨ e = .repeatOverflow ∨ e = .allocationLength ∨ e = .sliceBounds n) ∧
      (n < 0 ∨ allocationLimit < 26 * (n / 26 + 1)) := by
  have hlim : allocationLimit = 2 ^ 48 := rfl
  have hlen : lengthLimit = 2 ^ 63 - 1 := rfl
  unfold fillerLength at he
  dsimp only at he
  refine ⟨by split_ifs at he <;> cases he <;> simp, ?_⟩
  by_cases hn : n < 0
  · exact .inl hn
  have htd : n.tdiv 26 = n / 26 := Int.tdiv_eq_ediv_of_nonneg (by omega)
  rw [htd] at he
  right
  rw [hlim]
  split_ifs at he with h1 h2 h3
  · omega
  · rw [hlen] at h2
    omega
  · rw [hlim, Bool.and_eq_true, decide_eq_true_eq, decide_eq_true_eq] at h3
    omega

/-- The elements of an array are refused only for a negative length or one past the largest
allocation. -/
theorem elementCount_eq_error {n : Int} {e : BuildError} (he : elementCount n = .error e) :
    e = .allocationLength ∧ (n < 0 ∨ allocationLimit < 8 * n) := by
  unfold elementCount at he
  split at he
  · rename_i hc
    cases he
    simp only [Bool.or_eq_true, decide_eq_true_eq] at hc
    exact ⟨rfl, hc⟩
  · cases he

/-- A container length of a case that cannot be made: a string without text whose filler, or an
array whose elements, have a negative length or one past the largest allocation. -/
def Case.LengthFault (r : Release) (k : Case) : Prop :=
  (Kind.ofName? k.kind = some .string ∧ k.text.isEmpty = true ∧
    (k.lengthFor r.facts.string.embedCapacity < 0 ∨
      allocationLimit < 26 * (k.lengthFor r.facts.string.embedCapacity / 26 + 1))) ∨
  (Kind.ofName? k.kind = some .array ∧
    (k.lengthFor r.facts.array.embedCapacity < 0 ∨
      allocationLimit < 8 * k.lengthFor r.facts.array.embedCapacity))

/-- How building the valid case `k` may fail on an arena of `size` bytes: the heap refuses its
value as a builder may; interning or freezing it faults at the value itself, a word that is not
a heap reference; or its container length cannot be made. -/
def BuildError.IsCaseFailure (r : Release) (size : Nat) (k : Case) : BuildError → Prop
  | .heap name e => name = k.name ∧ (e.IsBuildFailure size ∨
      ((k.interned = true ∨ k.frozen = true) ∧
        ∃ v, r.facts.isSpecialConst v = true ∧ e = .fault (Fault.at v)))
  | .sliceBounds _ | .allocationLength | .negativeRepeat | .repeatOverflow => k.LengthFault r
  | .unknownSpecial .. | .unknownKind .. | .noInteger => False

/-! ### Valid cases -/

/-- Every case of a valid corpus checks. -/
theorem checkCases_eq_ok {i : Nat} {seen : List String} {cs : List Case}
    (hc : checkCases i seen cs = .ok ()) : ∀ k ∈ cs, k.check = .ok () := by
  induction cs generalizing i seen with
  | nil => exact fun k hk ↦ absurd hk List.not_mem_nil
  | cons c rest ih =>
    unfold checkCases at hc
    split_ifs at hc
    rcases hck : c.check with e | u
    · rw [hck] at hc
      cases hc
    · rw [hck] at hc
      intro k hk
      rcases List.mem_cons.mp hk with rfl | hk
      · exact hck
      · exact ih hc k hk

theorem Corpus.check_of_validate {c : Corpus} (hv : c.validate = .ok ()) :
    ∀ k ∈ c.cases, k.check = .ok () :=
  checkCases_eq_ok hv

theorem Case.kind_of_check (hk : k.check = .ok ()) : ∃ kd, Kind.ofName? k.kind = some kd := by
  rcases hkd : Kind.ofName? k.kind with _ | kd
  · unfold Case.check at hk
    rw [hkd] at hk
    cases hk
  · exact ⟨kd, rfl⟩

theorem Case.special_of_check (hk : k.check = .ok ())
    (hkind : Kind.ofName? k.kind = some .special) :
    ∃ s, SpecialConstant.ofName? k.text = some s := by
  unfold Case.check at hk
  rw [hkind] at hk
  dsimp only at hk
  split at hk
  · rename_i hc
    simp only [specialNames, List.contains_cons, List.contains_nil, Bool.or_eq_true,
      beq_iff_eq, Bool.or_false] at hc
    rcases hc with ht | ht | ht | ht <;> exact ⟨_, by rw [ht]; rfl⟩
  · cases hk

/-- An integer case that passes its check has an integer: a text, when there is one, is a
decimal integer, which the check makes sure of. -/
theorem Case.integer_of_check (hk : k.check = .ok ())
    (hkind : Kind.ofName? k.kind = some .fixnum ∨ Kind.ofName? k.kind = some .bignum) :
    ∃ i, k.integer? = some i := by
  unfold Case.integer?
  by_cases ht : k.text.isEmpty = true
  · rw [if_neg (by simp [ht])]
    exact ⟨_, rfl⟩
  · have hdec : readDecimal k.text ≠ none := by
      unfold Case.check at hk
      rcases hkind with hkind | hkind <;> rw [hkind] at hk <;> dsimp only at hk <;>
        split_ifs at hk with h1 h2 <;> simpa [ht] using h2
    rw [if_pos (by simpa using ht)]
    exact Option.ne_none_iff_exists'.mp hdec


/-! ### Steps of building a case -/

/-- A step of building the case `k`: from a sound heap where `P` holds, every run keeps the
arena; one that succeeds leaves `Q` of its value, and one that fails fails as building `k`
may. -/
def CaseStep (r : Release) (k : Case) (P : Heap → Prop) (x : BuildM α)
    (Q : α → Heap → Prop) : Prop :=
  ∀ h, Sound h r → P h →
    SameArena h (x.run h).2 ∧
    (∀ a h', x.run h = (.ok a, h') → Q a h') ∧
    (∀ e h', x.run h = (.error e, h') → e.IsCaseFailure r h.memory.size k)

namespace CaseStep

variable {P : Heap → Prop} {Q : α → Heap → Prop}

theorem of_pure {a : α} (hQ : ∀ h, Sound h r → P h → Q a h) : CaseStep r k P (pure a) Q := by
  intro h hs hP
  refine ⟨SameArena.refl h, fun a' h' hx ↦ ?_, fun e h' hx ↦ ?_⟩
  · rw [run_pure] at hx
    cases hx
    exact hQ h hs hP
  · rw [run_pure] at hx
    cases hx

/-- Steps in sequence: the first keeps the arena, so the second starts from a sound heap over
it. -/
theorem bind {x : BuildM α} {f : α → BuildM β} {R : β → Heap → Prop}
    (hx : CaseStep r k P x Q) (hf : ∀ a, CaseStep r k (Q a) (f a) R) :
    CaseStep r k P (x >>= f) R := by
  intro h hs hP
  obtain ⟨harena, hok, hfail⟩ := hx h hs hP
  rw [run_bind]
  rcases hr : x.run h with ⟨_ | a, h1⟩ <;> rw [hr] at harena <;> dsimp only at harena ⊢
  · refine ⟨harena, fun _ _ he ↦ (by cases he), fun e h' he ↦ ?_⟩
    cases he
    exact hfail _ _ hr
  · have hs1 := hs.of_sameArena harena
    obtain ⟨harena', hok', hfail'⟩ := hf a h1 hs1 (hok a h1 hr)
    refine ⟨harena.trans harena', hok', fun e h' he ↦ ?_⟩
    rw [← harena.size_eq]
    exact hfail' e h' he

theorem conseq {x : BuildM α} {P' : Heap → Prop} {Q' : α → Heap → Prop} (hx : CaseStep r k P x Q)
    (hP : ∀ h, P' h → P h) (hQ : ∀ a h, Q a h → Q' a h) : CaseStep r k P' x Q' := by
  intro h hs hP'
  obtain ⟨harena, hok, hfail⟩ := hx h hs (hP h hP')
  exact ⟨harena, fun a h' hx ↦ hQ a h' (hok a h' hx), hfail⟩

/-- A step that reads the heap goes on from it, sound and where `P` holds. -/
theorem get_bind {f : Heap → BuildM α}
    (hf : ∀ h0, Sound h0 r → P h0 → CaseStep r k (fun h ↦ h = h0) (f h0) Q) :
    CaseStep r k P (get >>= f) Q := by
  intro h hs hP
  rw [run_bind, run_get]
  exact hf h hs hP h hs rfl

/-- A heap call for the case that builds a sample value: it fails as a builder may, and leaves
its value settled. -/
theorem onHeap_buildsValue {x : HeapM Value} (hx : BuildsValue r x) :
    CaseStep r k P (onHeap k.name x) (fun v h ↦ Settled r.facts h v) := by
  intro h hs _
  have hk := hx.clean.writes h hs rfl (Nat.zero_le _)
  rw [run_onHeap]
  rcases hr : exec h x with ⟨_ | v, h1⟩ <;> rw [hr] at hk <;> dsimp only at hk ⊢
  · refine ⟨hk.arena, fun _ _ he ↦ (by cases he), fun e h' he ↦ ?_⟩
    cases he
    exact ⟨rfl, .inl (hx.clean.fails h _ _ hs rfl (Nat.zero_le _) (Nat.zero_le _) hr)⟩
  · refine ⟨hk.arena, fun v' h' he ↦ ?_, fun e h' he ↦ by cases he⟩
    cases he
    exact hx.settled h v h1 hs hr

/-- A fault of the program over the length of the case: the heap is left as it was. -/
theorem of_fault {y : Except BuildError α}
    (hy : ∀ e size, y = .error e → e.IsCaseFailure r size k) :
    CaseStep r k P (fault y) (fun a h ↦ P h ∧ y = .ok a) := by
  intro h _ hP
  cases y with
  | error e =>
    refine ⟨SameArena.refl h, fun _ _ he ↦ (by cases he), fun e' h' he ↦ ?_⟩
    cases he
    exact hy e _ rfl
  | ok a =>
    refine ⟨SameArena.refl h, fun a' h' he ↦ ?_, fun _ _ he ↦ by cases he⟩
    cases he
    exact ⟨hP, rfl⟩

end CaseStep


/-- Interning or freezing a settled value for the case: a special constant faults at itself,
and a heap object, whose header word is readable, takes the flag bits and stays settled. -/
theorem CaseStep.of_flagValue {y : HeapM Value} {v bits : UInt64}
    (hfl : k.interned = true ∨ k.frozen = true)
    (hy : ∀ h, Sound h r → exec h y = match exec h (orFlags v bits) with
      | (.ok _, h') => (.ok v, h')
      | (.error e, h') => (.error e, h')) :
    CaseStep r k (fun h ↦ Settled r.facts h v) (flagValue k.name r.facts v y)
      (fun v' h ↦ Settled r.facts h v') := by
  intro h hs hv
  unfold flagValue
  cases hsc : r.facts.isSpecialConst v
  · rw [if_neg Bool.false_ne_true, run_onHeap, hy h hs]
    rcases exec_orFlags_cases hs v bits with ⟨-, h', hx, harena, hnext⟩ | ⟨hrd, -⟩
    · rw [hx]
      refine ⟨harena, fun v' h'' he ↦ ?_, fun _ _ he ↦ (by cases he)⟩
      cases he
      exact hv.of_next_le (Nat.le_of_eq hnext.symm) harena
    · have hrd' := Settled.readable_of_not_special hs hv hsc
      rw [hrd] at hrd'
      cases hrd'
  · rw [if_pos rfl, run_throw]
    refine ⟨SameArena.refl h, fun _ _ he ↦ (by cases he), fun e h' he ↦ ?_⟩
    cases he
    exact ⟨rfl, .inr ⟨hfl, v, hsc, rfl⟩⟩

/-- Making the value of a valid case fails only as building it may, and leaves the value
settled. -/
theorem caseStep_buildValue (hk : k.check = .ok ()) :
    CaseStep r k (fun _ ↦ True) (buildValue k) (fun v h ↦ Settled r.facts h v) := by
  obtain ⟨kd, hkind⟩ := Case.kind_of_check hk
  unfold buildValue
  refine CaseStep.get_bind fun h0 hs0 _ ↦ ?_
  rw [hs0.facts_eq, hkind]
  cases kd <;> dsimp only
  case special =>
    obtain ⟨s, hsp⟩ := Case.special_of_check hk hkind
    rw [hsp]
    exact CaseStep.of_pure fun _ _ _ ↦ .inl (s.isSpecialConst_word r)
  case fixnum =>
    obtain ⟨i, hi⟩ := Case.integer_of_check hk (.inl hkind)
    rw [hi]
    exact CaseStep.onHeap_buildsValue (buildsValue_integer i)
  case bignum =>
    obtain ⟨i, hi⟩ := Case.integer_of_check hk (.inr hkind)
    rw [hi]
    exact CaseStep.onHeap_buildsValue (buildsValue_integer i)
  case float => exact CaseStep.onHeap_buildsValue (buildsValue_float _)
  case string =>
    split
    · exact CaseStep.onHeap_buildsValue (buildsValue_stringSample _ _)
    · rename_i htext
      refine CaseStep.bind (CaseStep.of_fault fun e size he ↦ ?_) fun n ↦
        CaseStep.onHeap_buildsValue (buildsValue_fillerString n k.heap)
      obtain ⟨hcases, hlen⟩ := fillerLength_eq_error he
      have hfault : k.LengthFault r := .inl ⟨hkind, by simpa using htext, hlen⟩
      rcases hcases with rfl | rfl | rfl | rfl <;> exact hfault
  case array =>
    refine CaseStep.bind (CaseStep.of_fault fun e size he ↦ ?_) fun n ↦
      CaseStep.onHeap_buildsValue (buildsValue_arrayOf n _ (by simp) k.heap)
    obtain ⟨rfl, hlen⟩ := elementCount_eq_error he
    exact .inr ⟨hkind, hlen⟩
  case symbol => exact CaseStep.onHeap_buildsValue (buildsValue_symbol _)
  case dynamicSymbol => exact CaseStep.onHeap_buildsValue (buildsValue_dynamicSymbol _)
  case hash => exact CaseStep.onHeap_buildsValue buildsValue_hash
  case object => exact CaseStep.onHeap_buildsValue buildsValue_plainObject
  case data => exact CaseStep.onHeap_buildsValue (buildsValue_untypedData 0)
  case typedData =>
    split
    · exact CaseStep.onHeap_buildsValue (buildsValue_typedSample _ _)
    · exact CaseStep.onHeap_buildsValue (buildsValue_untypedData 0)

/-- The freezing a case asks for, then its sample. -/
theorem caseStep_freezeSample (v : Value) :
    CaseStep r k (fun h ↦ Settled r.facts h v)
      (do
        let v ← if k.frozen then flagValue k.name r.facts v (Heap.freeze v) else pure v
        pure (⟨k, v⟩ : Sample))
      (fun s _ ↦ s.case = k) := by
  split
  · rename_i hfr
    exact CaseStep.bind (CaseStep.of_flagValue (.inr hfr) fun h hs ↦ exec_freeze_eq hs v)
      fun _ ↦ CaseStep.of_pure fun _ _ _ ↦ rfl
  · exact CaseStep.bind (Q := fun _ _ ↦ True) (CaseStep.of_pure fun _ _ _ ↦ trivial) fun _ ↦
      CaseStep.of_pure fun _ _ _ ↦ rfl

/-- Building a valid case returns a sample of it, or fails as building it may: the interning
and the freezing it asks for act on the settled value its heap call made. -/
theorem caseStep_buildCase (hk : k.check = .ok ()) :
    CaseStep r k (fun _ ↦ True) (buildCase k) (fun s _ ↦ s.case = k) := by
  unfold buildCase
  refine CaseStep.bind (caseStep_buildValue hk) fun v ↦ CaseStep.get_bind fun h0 hs0 hv ↦ ?_
  rw [hs0.facts_eq]
  dsimp only
  split
  · rename_i hint
    simp only [Bool.and_eq_true, bne_iff_ne, ne_eq] at hint
    exact CaseStep.bind ((CaseStep.of_flagValue (.inl hint.1) fun h hs ↦
      exec_internSample_eq hs hint.2 v).conseq (fun h hh ↦ hh ▸ hv) (fun _ _ hq ↦ hq))
      caseStep_freezeSample
  · exact CaseStep.bind (CaseStep.of_pure fun h _ hh ↦ hh ▸ hv) caseStep_freezeSample

/-- Building valid cases in turn from a sound heap keeps the arena; it returns one sample per
case, in order, or fails as building one of them may. By induction on the cases, each built by
`caseStep_buildCase` from the heap the ones before it left. -/
theorem run_mapM_buildCase (cs : List Case) (hcs : ∀ k ∈ cs, k.check = .ok ()) (h : Heap)
    (hs : Sound h r) :
    SameArena h ((cs.mapM buildCase).run h).2 ∧
    (∀ ss h', (cs.mapM buildCase).run h = (.ok ss, h') → ss.map Sample.case = cs) ∧
    (∀ e h', (cs.mapM buildCase).run h = (.error e, h') →
      ∃ k ∈ cs, e.IsCaseFailure r h.memory.size k) := by
  induction cs generalizing h with
  | nil =>
    refine ⟨SameArena.refl h, fun ss h' hx ↦ ?_, fun e h' hx ↦ ?_⟩
    · rw [List.mapM_nil, run_pure] at hx
      cases hx
      rfl
    · rw [List.mapM_nil, run_pure] at hx
      cases hx
  | cons k rest ih =>
    obtain ⟨harena, hok, hfail⟩ :=
      caseStep_buildCase (hcs k List.mem_cons_self) h hs trivial
    rw [List.mapM_cons, run_bind]
    rcases hr : (buildCase k).run h with ⟨_ | s, h1⟩ <;> rw [hr] at harena <;>
      dsimp only at harena ⊢
    · refine ⟨harena, fun _ _ hx ↦ (by cases hx), fun e h' hx ↦ ?_⟩
      cases hx
      exact ⟨k, List.mem_cons_self, hfail _ _ hr⟩
    · have hs1 := hs.of_sameArena harena
      obtain ⟨harena', hok', hfail'⟩ :=
        ih (fun k' hk' ↦ hcs k' (List.mem_cons_of_mem k hk')) h1 hs1
      rw [run_bind]
      rcases hr' : (rest.mapM buildCase).run h1 with ⟨_ | ss, h2⟩ <;> rw [hr'] at harena' <;>
        dsimp only at harena' ⊢
      · refine ⟨harena.trans harena', fun _ _ hx ↦ (by cases hx), fun e h' hx ↦ ?_⟩
        cases hx
        obtain ⟨k', hk', hfk⟩ := hfail' _ _ hr'
        rw [← harena.size_eq]
        exact ⟨k', List.mem_cons_of_mem k hk', hfk⟩
      · refine ⟨harena.trans harena', fun ss' h' hx ↦ ?_, fun _ _ hx ↦ (by cases hx)⟩
        rw [run_pure] at hx
        cases hx
        rw [List.map_cons, hok s h1 hr, hok' ss h2 hr']

end Conformance

/-- Building a valid corpus, on a sound heap of any release. Every run keeps the arena. One that
returns gives one sample per case, in case order. One that fails fails as building one of the
cases may:

* the heap refuses a case's value as a builder may: the arena is exhausted, the object exceeds
  the largest slot, or nothing was asked for at the very end of the arena;
* interning or freezing a case's value faults at the value itself, a word that is not a heap
  reference;
* a case's container length cannot be made: a string without text or an array of negative
  length, or one past the largest allocation. -/
theorem validated_corpus_build (r : Release) (c : Conformance.Corpus)
    (hv : c.validate = .ok ()) (h : Heap) (hs : h.Sound r) :
    Heap.SameArena h (c.build.run h).2 ∧
    (∀ samples h', c.build.run h = (.ok samples, h') →
      samples.map Conformance.Sample.case = c.cases) ∧
    (∀ e h', c.build.run h = (.error e, h') →
      ∃ k ∈ c.cases, e.IsCaseFailure r h.memory.size k) :=
  Conformance.run_mapM_buildCase c.cases (Conformance.Corpus.check_of_validate hv) h hs


/-- The build of a corpus of one frozen `nil` on a page of arena of the fourth layout. -/
theorem validated_corpus_build_frozen_nil :
    (⟨[{ name := "x", kind := "special", text := "nil", frozen := true }]⟩ :
      Conformance.Corpus).validate = .ok () ∧
    (⟨Release.v34.facts, ⟨Heap.arenaBase, 4096, .empty⟩, 0, [], default, []⟩ : Heap).Sound
      .v34 ∧
    Heap.SameArena ⟨Release.v34.facts, ⟨Heap.arenaBase, 4096, .empty⟩, 0, [], default, []⟩
      ((⟨[{ name := "x", kind := "special", text := "nil", frozen := true }]⟩ :
        Conformance.Corpus).build.run
          ⟨Release.v34.facts, ⟨Heap.arenaBase, 4096, .empty⟩, 0, [], default, []⟩).2 ∧
    (∀ samples h', (⟨[{ name := "x", kind := "special", text := "nil", frozen := true }]⟩ :
        Conformance.Corpus).build.run
          ⟨Release.v34.facts, ⟨Heap.arenaBase, 4096, .empty⟩, 0, [], default, []⟩ =
          (.ok samples, h') →
      samples.map Conformance.Sample.case =
        [{ name := "x", kind := "special", text := "nil", frozen := true }]) ∧
    (∀ e h', (⟨[{ name := "x", kind := "special", text := "nil", frozen := true }]⟩ :
        Conformance.Corpus).build.run
          ⟨Release.v34.facts, ⟨Heap.arenaBase, 4096, .empty⟩, 0, [], default, []⟩ =
          (.error e, h') →
      ∃ k ∈ [({ name := "x", kind := "special", text := "nil", frozen := true } :
        Conformance.Case)], e.IsCaseFailure .v34 4096 k) :=
  ⟨by decide, ⟨rfl, Heap.arenaBase_valid, by decide⟩,
    validated_corpus_build .v34 _ (by decide) _ ⟨rfl, Heap.arenaBase_valid, by decide⟩⟩

/-- A valid corpus whose only case is a frozen `nil` does not build: freezing writes through the
word of `nil` as an address, which faults in the null page, a runtime failure rather than a
sample or an error of the heap. -/
theorem frozen_nil_case_faults :
    (⟨[{ name := "x", kind := "special", text := "nil", frozen := true }]⟩ :
      Conformance.Corpus).validate = .ok () ∧
    ((⟨[{ name := "x", kind := "special", text := "nil", frozen := true }]⟩ :
      Conformance.Corpus).build.run
        ⟨Release.v34.facts, ⟨Heap.arenaBase, 4096, .empty⟩, 0, [], default, []⟩).1 =
      .error (.heap "x" (.fault (.nilPage 4))) ∧
    (Conformance.BuildError.heap "x" (.fault (.nilPage 4))).kind = .heap .runtime ∧
    (Conformance.BuildError.heap "x" (.fault (.nilPage 4))).message =
      "runtime error: invalid memory address or nil pointer dereference" :=
  ⟨by decide, rfl, rfl, rfl⟩

end RubyLayout
