import RubyLayout.Proofs.CheckedTier

/-!
# The assertions of the debug build

The debug build asserts the preconditions of its accessors itself, before it reads: a heap
reference, the header type, the fixnum tag, and for an element the array type and the index.
`Requirement.assertion` is that assertion for each requirement, and `Query.read_debug` shows
that every accessor the debug build guards is its assertion followed by the accessor of the
plain build. The assertions verify the same requirements as the checked tier
(`Requirement.assertion_verifies`), with one difference in the name they report: an element
read asserts the array type through the length read, whose own assertion reports `RArrayLen`
first (`Requirement.index_assertion_violation`).

Main statement, `debug_assertions_agree_with_checked`: for every release, memory, value whose
type the debug build can tell, index and integer, each guarded accessor of the debug build
reports a violated precondition exactly where its checked form over the debug build does,
which is exactly where the requirement is broken; the checked form always names the accessor;
the debug build names it too, except for an element read of a value that is not an array,
where it names `RArrayLen`. `debug_element_of_nil_names_length` is that case at `nil`.

Scope. The debug build cannot tell the type of an immediate with no known tag: its `RBType`
asserts, and the checked tier reports that assertion from inside its own requirement. The
value's type is taken to be readable, which also keeps out heap references whose header cannot
be read, where the fixnum assertion of the debug build fires but the checked tier faults.
-/

set_option autoImplicit false
set_option relaxedAutoImplicit false

namespace RubyLayout

namespace Accessors

variable {r : Release} {m : Memory} {v : Value}

/-- A type the debug build tells is the plain build's. -/
theorem rbType_plain_of_debug {t : TypeCode} (h : (⟨r, true⟩ : Accessors).rbType m v = .ok t) :
    (⟨r, false⟩ : Accessors).rbType m v = .ok t := by
  unfold rbType at h ⊢
  cases hsc : r.facts.isSpecialConst v with
  | false =>
    have hsc' : (⟨r, true⟩ : Accessors).layout.isSpecialConst v = false := hsc
    simp only [layout, hsc, Bool.not_false, if_true] at h ⊢
    rwa [builtinType_of_heap hsc'] at h
  | true =>
    simp only [layout, hsc, Bool.not_true, Bool.false_eq_true, if_false] at h ⊢
    cases himm : r.facts.immediateType? v with
    | some u =>
      rw [himm] at h
      exact h
    | none =>
      rw [himm] at h
      cases h

/-- Of a heap reference, the type assertion of the debug build is the checked tier's type
requirement. -/
theorem assertType_debug_of_heap (hsc : r.facts.isSpecialConst v = false) (op : String)
    (t : TypeCode) :
    (⟨r, true⟩ : Accessors).assertType op m v t =
      (Api.ofRelease r true .unchecked).requireType m op v t := by
  have hsc' : (⟨r, true⟩ : Accessors).layout.isSpecialConst v = false := hsc
  have hsc'' : (Api.ofRelease r true .unchecked).layout.isSpecialConst v = false := hsc
  unfold assertType Api.requireType
  rw [Api.requireHeap_of_heap hsc'']
  simp only [if_true]
  rw [assertHeap_eq_ok hsc']
  rfl

/-- Of a special constant, the type assertion of the debug build fails at once. -/
theorem assertType_debug_of_special (hsc : r.facts.isSpecialConst v = true) (op : String)
    (t : TypeCode) :
    (⟨r, true⟩ : Accessors).assertType op m v t =
      .error (.precondition op v "heap reference" "special constant") := by
  simp only [assertType, if_true, assertHeap, assert, layout, hsc]
  rfl

/-- The type assertion of the debug build passes exactly on a heap object of the type. -/
theorem assertType_debug_eq_ok_iff (op : String) (t : TypeCode) :
    (⟨r, true⟩ : Accessors).assertType op m v t = .ok () ↔
      (Api.ofRelease r true .unchecked).HeapOf m v t := by
  refine ⟨fun h ↦ ?_, fun h ↦ Api.assertType_raw h op⟩
  cases hsc : r.facts.isSpecialConst v with
  | true =>
    rw [assertType_debug_of_special hsc] at h
    cases h
  | false =>
    have hsc' : (Api.ofRelease r true .unchecked).layout.isSpecialConst v = false := hsc
    rw [assertType_debug_of_heap hsc, Api.requireType_of_heap hsc'] at h
    cases hb : (Api.ofRelease r true .unchecked).plain.builtinType m v with
    | error e =>
      rw [hb] at h
      cases h
    | ok u =>
      rw [hb, ok_bind] at h
      by_cases hu : u = t
      · exact ⟨hsc, hu ▸ hb⟩
      · rw [if_pos hu] at h
        cases h

/-- The debug build reads the length of an array after asserting its type. -/
theorem arrayLength_debug :
    (⟨r, true⟩ : Accessors).arrayLength m v =
      ((⟨r, true⟩ : Accessors).assertType "RArrayLen" m v TypeCode.array >>= fun _ ↦
        (⟨r, false⟩ : Accessors).arrayLength m v) := rfl

/-- The debug build refuses to convert an integer that does not fit a fixnum, naming the
conversion and the integer's word. -/
theorem longToFix_debug (i : Int) :
    Access.violation ((⟨r, true⟩ : Accessors).longToFix i) = some ("Long2Fix", Word.ofInt i) ↔
      fixable i = false := by
  cases hfix : fixable i
  · simp only [longToFix, assert, hfix]
    exact iff_of_true rfl trivial
  · simp [longToFix, assert, hfix]

/-- An element read of the debug build asserts the array type through its length read, then
the index; its pointer read asserts the array type again, which then holds. -/
theorem arrayRef_debug (i : Int) :
    (⟨r, true⟩ : Accessors).arrayRef m v i =
      ((⟨r, true⟩ : Accessors).arrayLength m v >>= fun n ↦
        (⟨r, true⟩ : Accessors).assert (decide (0 ≤ i ∧ i < n)) "RArrayAref" v "index in range"
          "out of bounds") >>= fun _ ↦ (⟨r, false⟩ : Accessors).arrayRef m v i := by
  cases hA : (⟨r, true⟩ : Accessors).assertType "RArrayLen" m v TypeCode.array with
  | error e =>
    have hlen : (⟨r, true⟩ : Accessors).arrayLength m v = .error e := by
      unfold arrayLength
      rw [hA]
      rfl
    simp only [arrayRef, if_true, hlen]
    rfl
  | ok u =>
    have hheap := (assertType_debug_eq_ok_iff "RArrayLen" TypeCode.array).mp hA
    have hptr : (⟨r, true⟩ : Accessors).arrayPtr m v = (⟨r, false⟩ : Accessors).arrayPtr m v := by
      have hP : (⟨r, true⟩ : Accessors).assertType "RArrayConstPtr" m v TypeCode.array = .ok () :=
        Api.assertType_raw hheap "RArrayConstPtr"
      unfold arrayPtr at hP ⊢
      rw [hP]
      rfl
    simp only [arrayRef, if_true, hptr, bind_assoc, Bool.false_eq_true, if_false]

end Accessors

/-! ### The assertions of each requirement -/

namespace Requirement

/-- The debug build's own assertion of a requirement under `op`: its heap and type assertions,
the fixnum tag, and for an element its length read, which asserts the array type under the
length's name, then the index. -/
def assertion (a : Accessors) (m : Memory) (op : String) (v : Value) : Requirement → Access Unit
  | .nothing => pure ()
  | .heap => a.assertHeap op v
  | .type t => a.assertType op m v t
  | .typed => a.assertType op m v TypeCode.data
  | .fixnum => a.assert (a.layout.isFixnum v) op v "fixnum" "non-fixnum"
  | .index i => do
    let n ← a.arrayLength m v
    a.assert (decide (0 ≤ i ∧ i < n)) op v "index in range" "out of bounds"

/-- Whether the debug build asserts the requirement itself: not where nothing is required, and
not typed data, whose marker it does not read. -/
def assertedByDebug : Requirement → Bool
  | .heap | .type _ | .fixnum | .index _ => true
  | .nothing | .typed => false

/-- Whether the requirement is an element index. -/
def IsIndex (R : Requirement) : Prop := ∃ i, R = .index i

variable {r : Release} {m : Memory} {v : Value}

/-- Assumes: the debug build tells the type of `v`. Its assertions of a heap reference, a type
and a fixnum verify the requirement under the name they are given. -/
theorem assertion_verifies {t : TypeCode} (hv : (⟨r, true⟩ : Accessors).rbType m v = .ok t)
    {R : Requirement} (hR : R.assertedByDebug = true) (hidx : ¬ R.IsIndex) (op : String) :
    R.Verifies (Api.ofRelease r true .unchecked) m v op (R.assertion ⟨r, true⟩ m op v) := by
  have hplain := Accessors.rbType_plain_of_debug hv
  have hrb' : (⟨r, true⟩ : Accessors).rbType m v = (⟨r, false⟩ : Accessors).rbType m v := by
    rw [hv, hplain]
  have hrb : (Api.ofRelease r true .unchecked).raw.rbType m v =
      (Api.ofRelease r true .unchecked).plain.rbType m v := hrb'
  cases R with
  | nothing => cases hR
  | typed => cases hR
  | index i => exact (hidx ⟨i, rfl⟩).elim
  | heap =>
    cases hsc : r.facts.isSpecialConst v with
    | false =>
      have hok : (⟨r, true⟩ : Accessors).assertHeap op v = .ok () :=
        Accessors.assertHeap_eq_ok (a := ⟨r, true⟩) hsc op
      refine ⟨fun _ ↦ hok, fun hb ↦ ?_, fun hm _ ↦ (hm hsc).elim⟩
      change r.facts.isSpecialConst v = true at hb
      rw [hsc] at hb
      cases hb
    | true =>
      have herr : (⟨r, true⟩ : Accessors).assertHeap op v =
          .error (.precondition op v "heap reference" "special constant") := by
        simp only [Accessors.assertHeap, Accessors.assert, Accessors.layout, hsc]
        rfl
      refine ⟨fun hm ↦ ?_, fun _ ↦ by rw [assertion, herr]; rfl, fun _ hb ↦ (hb hsc).elim⟩
      change r.facts.isSpecialConst v = false at hm
      rw [hsc] at hm
      cases hm
  | type t =>
    cases hsc : r.facts.isSpecialConst v with
    | false =>
      have heq : (Requirement.type t).assertion ⟨r, true⟩ m op v =
          (Requirement.type t).check (Api.ofRelease r true .unchecked) m op v :=
        Accessors.assertType_debug_of_heap hsc op t
      rw [heq]
      exact check_verifies hrb (.type t) op
    | true =>
      refine ⟨fun hm ↦ ?_, fun _ ↦ ?_, fun _ hb ↦ (hb (.inl hsc)).elim⟩
      · have hm' : r.facts.isSpecialConst v = false := hm.1
        rw [hsc] at hm'
        cases hm'
      · rw [assertion, Accessors.assertType_debug_of_special hsc]
        rfl
  | fixnum =>
    cases hfix : r.facts.isFixnum v with
    | true =>
      refine ⟨fun _ ↦ ?_, fun hb ↦ ?_, fun hm _ ↦ (hm hfix).elim⟩
      · simp only [assertion, Accessors.assert, Accessors.layout, hfix]
        rfl
      · have hb' : r.facts.isFixnum v = false := hb.1
        rw [hfix] at hb'
        cases hb'
    | false =>
      have hbroken : Requirement.fixnum.Broken (Api.ofRelease r true .unchecked) m v :=
        ⟨hfix, t, hplain⟩
      refine ⟨fun hm ↦ ?_, fun _ ↦ ?_, fun _ hb ↦ (hb hbroken).elim⟩
      · have hm' : r.facts.isFixnum v = true := hm
        rw [hfix] at hm'
        cases hm'
      · simp only [assertion, Accessors.assert, Accessors.layout, hfix]
        rfl

/-- Where an element is required and the requirement is met, the debug build's element
assertion passes. -/
theorem index_assertion_of_met {i : Int}
    (h : (Requirement.index i).Met (Api.ofRelease r true .unchecked) m v) (op : String) :
    (Requirement.index i).assertion ⟨r, true⟩ m op v = .ok () := by
  obtain ⟨hheap, n, hn, hlo, hhi⟩ := h
  have hlen : (⟨r, true⟩ : Accessors).arrayLength m v = .ok n :=
    (Api.arrayLength_raw hheap).trans hn
  simp only [assertion, hlen, Accessors.ok_bind, Accessors.assert, decide_eq_true (And.intro hlo hhi),
    Bool.not_true, Bool.and_false, Bool.false_eq_true, if_false]

/-- An element read that reports nothing, of a value that is an array or cannot be told not to be
one and whose index is not known to be out of range, gives the three answers of `index_guarded`
negatively. -/
theorem index_answers_of_none {api : Api} {i : Int} {o : Option (String × Value)} (ho : o = none)
    (hnot : ¬ api.NotHeapOf m v TypeCode.array)
    (hout : ¬ (api.HeapOf m v TypeCode.array ∧
      ∃ n, api.plain.arrayLength m v = .ok n ∧ (i < 0 ∨ n ≤ i))) :
    (o = some ("RArrayLen", v) ↔ api.NotHeapOf m v TypeCode.array) ∧
    (o = some ("RArrayAref", v) ↔ api.HeapOf m v TypeCode.array ∧
      ∃ n, api.plain.arrayLength m v = .ok n ∧ (i < 0 ∨ n ≤ i)) ∧
    (o ≠ none ↔ (Requirement.index i).Broken api m v) := by
  subst ho
  exact ⟨iff_of_false (by simp) hnot, iff_of_false (by simp) hout,
    iff_of_false (by simp) fun hb ↦ hb.elim hnot hout⟩

/-- Assumes: the debug build tells the type of `v`. After the debug build's element assertion,
a call that reports nothing itself reports `RArrayLen` for a value that is not an array,
`RArrayAref` for an array and an index outside it, and nothing otherwise. -/
theorem index_guarded {t : TypeCode} (hv : (⟨r, true⟩ : Accessors).rbType m v = .ok t)
    (i : Int) {β : Type} {y : Access β} (hy : Access.violation y = none) :
    (Access.violation ((Requirement.index i).assertion ⟨r, true⟩ m "RArrayAref" v >>= fun _ ↦ y) =
        some ("RArrayLen", v) ↔
      (Api.ofRelease r true .unchecked).NotHeapOf m v TypeCode.array) ∧
    (Access.violation ((Requirement.index i).assertion ⟨r, true⟩ m "RArrayAref" v >>= fun _ ↦ y) =
        some ("RArrayAref", v) ↔
      (Api.ofRelease r true .unchecked).HeapOf m v TypeCode.array ∧
        ∃ n, (Api.ofRelease r true .unchecked).plain.arrayLength m v = .ok n ∧ (i < 0 ∨ n ≤ i)) ∧
    (Access.violation ((Requirement.index i).assertion ⟨r, true⟩ m "RArrayAref" v >>= fun _ ↦ y) ≠
        none ↔ (Requirement.index i).Broken (Api.ofRelease r true .unchecked) m v) := by
  have hne : ("RArrayLen", v) ≠ ("RArrayAref", v) := by simp
  have hlen : (Requirement.type TypeCode.array).Verifies (Api.ofRelease r true .unchecked) m v
      "RArrayLen" ((⟨r, true⟩ : Accessors).assertType "RArrayLen" m v TypeCode.array) :=
    assertion_verifies hv rfl (fun ⟨_, h⟩ ↦ by cases h) "RArrayLen"
  have hsplit : ((Requirement.index i).assertion ⟨r, true⟩ m "RArrayAref" v >>= fun _ ↦ y) =
      ((⟨r, true⟩ : Accessors).assertType "RArrayLen" m v TypeCode.array >>= fun _ ↦
        (⟨r, false⟩ : Accessors).arrayLength m v >>= fun n ↦
          (⟨r, true⟩ : Accessors).assert (decide (0 ≤ i ∧ i < n)) "RArrayAref" v
            "index in range" "out of bounds" >>= fun _ ↦ y) := by
    simp only [assertion, Accessors.arrayLength_debug, bind_assoc]
  rw [hsplit]
  by_cases hheap : (Api.ofRelease r true .unchecked).HeapOf m v TypeCode.array
  · have hnot := Api.not_notHeapOf_of_heapOf hheap
    rw [hlen.bind_of_met hheap]
    cases hn : (⟨r, false⟩ : Accessors).arrayLength m v with
    | error e =>
      have hev : e.violation = none := Api.violation_of_plain_error Query.arrayLength
        (show Query.arrayLength.read (Api.ofRelease r true .unchecked).plain m v = .error e from hn)
      rw [Access.error_bind, Access.violation_error, hev]
      exact index_answers_of_none rfl hnot fun ⟨_, n, hn', _⟩ ↦ by cases hn.symm.trans hn'
    | ok n =>
      rw [Accessors.ok_bind]
      by_cases hin : 0 ≤ i ∧ i < n
      · simp only [Accessors.assert, decide_eq_true hin, Bool.not_true, Bool.and_false,
          Bool.false_eq_true, if_false, Accessors.ok_bind, hy]
        refine index_answers_of_none rfl hnot fun ⟨_, n', hn', hout⟩ ↦ ?_
        cases hn.symm.trans hn'
        omega
      · have hv' : Access.violation ((⟨r, true⟩ : Accessors).assert (decide (0 ≤ i ∧ i < n))
            "RArrayAref" v "index in range" "out of bounds" >>= fun _ ↦ y) = some ("RArrayAref", v) := by
          simp only [Accessors.assert, decide_eq_false hin, Bool.not_false, Bool.and_self, if_true]
          rfl
        rw [hv']
        have hout : i < 0 ∨ n ≤ i := by omega
        exact ⟨iff_of_false (fun h ↦ hne (Option.some.inj h).symm) hnot,
          iff_of_true rfl ⟨hheap, n, hn, hout⟩, iff_of_true (by simp) (.inr ⟨hheap, n, hn, hout⟩)⟩
  · by_cases hnot : (Api.ofRelease r true .unchecked).NotHeapOf m v TypeCode.array
    · have hv' := hlen.bind_of_broken hnot fun _ ↦
        (⟨r, false⟩ : Accessors).arrayLength m v >>= fun n ↦
          (⟨r, true⟩ : Accessors).assert (decide (0 ≤ i ∧ i < n)) "RArrayAref" v
            "index in range" "out of bounds" >>= fun _ ↦ y
      rw [hv']
      exact ⟨iff_of_true rfl hnot, iff_of_false (fun h ↦ hne (Option.some.inj h))
        (fun h ↦ hheap h.1), iff_of_true (by simp) (.inl hnot)⟩
    · obtain ⟨e, he, hev⟩ := hlen.bind_of_neither hheap hnot fun _ ↦
        (⟨r, false⟩ : Accessors).arrayLength m v >>= fun n ↦
          (⟨r, true⟩ : Accessors).assert (decide (0 ≤ i ∧ i < n)) "RArrayAref" v
            "index in range" "out of bounds" >>= fun _ ↦ y
      rw [he, Access.violation_error, hev]
      exact index_answers_of_none rfl hnot fun h ↦ hheap h.1

end Requirement

namespace Query

variable {α : Type} {r : Release} {m : Memory} {v : Value}

/-- Every accessor the debug build guards is its assertion, under the accessor's name, followed
by the accessor of the plain build. -/
theorem read_debug (q : Query α) (hq : q.requirement.assertedByDebug = true) :
    q.read ⟨r, true⟩ m v =
      (q.requirement.assertion ⟨r, true⟩ m q.name v >>= fun _ ↦ q.read ⟨r, false⟩ m v) := by
  cases q with
  | arrayRef i => exact Accessors.arrayRef_debug i
  | builtinType | basicClass | bignumPositiveP | bignumNegativeP | stringLength | stringPtr
    | stringInternedP | arrayLength | arrayPtr | fixToLong | fixToULong | typedDataP => rfl
  | rbType | typeP _ | symbolP | dynamicSymP | floatTypeP | integerTypeP | frozenP
    | typedDataEmbeddedP | typedDataType | typedDataGetData => cases hq

theorem name_of_index {q : Query α} {i : Int} (h : q.requirement = .index i) :
    q.name = "RArrayAref" := by
  cases q <;> cases h
  rfl

/-- Assumes: the debug build tells the type of `v`. Where an accessor's requirement is met, the
debug build reads as the plain build and reports nothing. -/
theorem violation_read_debug_of_met {t : TypeCode} (hv : (⟨r, true⟩ : Accessors).rbType m v = .ok t)
    (q : Query α) (hq : q.requirement.assertedByDebug = true)
    (h : q.requirement.Met (Api.ofRelease r true .unchecked) m v) :
    Access.violation (q.read ⟨r, true⟩ m v) = none := by
  have hpass : q.requirement.assertion ⟨r, true⟩ m q.name v = .ok () := by
    by_cases hidx : q.requirement.IsIndex
    · obtain ⟨i, hi⟩ := hidx
      rw [hi] at h ⊢
      exact Requirement.index_assertion_of_met h q.name
    · exact (Requirement.assertion_verifies hv hq hidx q.name).pass h
  rw [q.read_debug hq, hpass, Accessors.ok_bind]
  exact violation_plain r q m v

/-- Assumes: the debug build tells the type of `v`. Each accessor the debug build guards reports
a violation exactly where its requirement is broken, under its own name except for an element
read of a value that is not an array, which reports `RArrayLen`. -/
theorem violation_read_debug {t : TypeCode} (hv : (⟨r, true⟩ : Accessors).rbType m v = .ok t)
    (q : Query α) (hq : q.requirement.assertedByDebug = true) :
    (Access.violation (q.read ⟨r, true⟩ m v) ≠ none ↔
      q.requirement.Broken (Api.ofRelease r true .unchecked) m v) ∧
    (Access.violation (q.read ⟨r, true⟩ m v) = some (q.name, v) ↔
      q.requirement.Broken (Api.ofRelease r true .unchecked) m v ∧
        ¬ (q.requirement.IsIndex ∧
          (Api.ofRelease r true .unchecked).NotHeapOf m v TypeCode.array)) ∧
    (q.requirement.IsIndex → (Api.ofRelease r true .unchecked).NotHeapOf m v TypeCode.array →
      Access.violation (q.read ⟨r, true⟩ m v) = some ("RArrayLen", v)) := by
  rw [q.read_debug hq]
  by_cases hidx : q.requirement.IsIndex
  · obtain ⟨i, hi⟩ := hidx
    rw [q.name_of_index hi, hi]
    obtain ⟨hlen, hel, hany⟩ := Requirement.index_guarded hv i (violation_plain r q m v)
    refine ⟨hany, ?_, fun _ hnot ↦ hlen.mpr hnot⟩
    rw [hel]
    constructor
    · rintro ⟨hheap, hout⟩
      exact ⟨.inr ⟨hheap, hout⟩, fun h ↦ Api.not_notHeapOf_of_heapOf hheap h.2⟩
    · rintro ⟨hb | hb, hno⟩
      · exact (hno ⟨⟨i, rfl⟩, hb⟩).elim
      · exact hb
  · obtain ⟨hiff, hnames, -, -⟩ :=
      (Requirement.assertion_verifies hv hq hidx q.name).guarded fun _ ↦ violation_plain r q m v
    refine ⟨⟨fun hne ↦ ?_, fun hb ↦ by rw [hiff.mpr hb]; simp⟩, ?_, fun h ↦ (hidx h).elim⟩
    · rcases hnames with h | h
      · exact (hne h).elim
      · exact hiff.mp h
    · rw [hiff]
      exact ⟨fun hb ↦ ⟨hb, fun h ↦ hidx h.1⟩, fun h ↦ h.1⟩

end Query

/-! ### The debug build against the checked tier -/

/-- The assertions of the debug build fire where the checked tier's requirements do. For every
release, memory and value whose type the debug build can tell, each accessor the debug build
guards reports a violated precondition exactly where its requirement is broken, and so does its
checked form over the debug build. The checked form always names the accessor and the value;
the debug build names the accessor too, except for an element read of a value that is not an
array, where its length read reports `RArrayLen` first. The conversion of an integer to a
fixnum is refused by both, under its own name, exactly when the integer does not fit. -/
theorem debug_assertions_agree_with_checked (r : Release) {α : Type} (q : Query α)
    (hq : q.requirement.assertedByDebug = true) (m : Memory) (v : Value) {t : TypeCode}
    (hv : (⟨r, true⟩ : Accessors).rbType m v = .ok t) :
    (Access.violation (q.ask (Api.ofRelease r true .checked) m v) = some (q.name, v) ↔
      q.requirement.Broken (Api.ofRelease r true .unchecked) m v) ∧
    (Access.violation (q.ask (Api.ofRelease r true .checked) m v) = none ∨
      Access.violation (q.ask (Api.ofRelease r true .checked) m v) = some (q.name, v)) ∧
    (Access.violation (q.ask (Api.ofRelease r true .unchecked) m v) ≠ none ↔
      q.requirement.Broken (Api.ofRelease r true .unchecked) m v) ∧
    (Access.violation (q.ask (Api.ofRelease r true .unchecked) m v) = some (q.name, v) ↔
      q.requirement.Broken (Api.ofRelease r true .unchecked) m v ∧
        ¬ (q.requirement.IsIndex ∧
          (Api.ofRelease r true .unchecked).NotHeapOf m v TypeCode.array)) ∧
    (q.requirement.IsIndex → (Api.ofRelease r true .unchecked).NotHeapOf m v TypeCode.array →
      Access.violation (q.ask (Api.ofRelease r true .unchecked) m v) = some ("RArrayLen", v)) ∧
    (∀ i : Int,
      (Access.violation ((Api.ofRelease r true .unchecked).longToFix i) =
          some ("Long2Fix", Word.ofInt i) ↔ Accessors.fixable i = false) ∧
      (Access.violation ((Api.ofRelease r true .checked).longToFix i) =
          some ("Long2Fix", Word.ofInt i) ↔ Accessors.fixable i = false)) := by
  have hplain := Accessors.rbType_plain_of_debug hv
  have hrb' : (⟨r, true⟩ : Accessors).rbType m v = (⟨r, false⟩ : Accessors).rbType m v := by
    rw [hv, hplain]
  have hrb : (Api.ofRelease r true .unchecked).raw.rbType m v =
      (Api.ofRelease r true .unchecked).plain.rbType m v := hrb'
  have hchecked := (Requirement.check_verifies hrb q.requirement q.name).guarded
    (Query.violation_read_debug_of_met hv q hq)
  obtain ⟨hraises, hnamed, hlength⟩ := q.violation_read_debug hv hq
  rw [Query.ask_checked, Query.ask_unchecked]
  exact ⟨hchecked.1, hchecked.2.1, hraises, hnamed, hlength,
    fun i ↦ ⟨Accessors.longToFix_debug i, (Api.longToFix_checked r true i).1⟩⟩

/-- At `nil` of 3.4, whose type the debug build tells, the element read of the debug build
reports the length read. -/
theorem debug_assertions_agree_with_checked_at_nil :
    (Query.arrayRef 0).requirement.assertedByDebug = true ∧
    (⟨.v34, true⟩ : Accessors).rbType ⟨Heap.arenaBase, 4096, .empty⟩
        Release.v34.facts.specials.qnil = .ok TypeCode.nil ∧
    Access.violation ((Query.arrayRef 0).ask (Api.ofRelease .v34 true .unchecked)
        ⟨Heap.arenaBase, 4096, .empty⟩ Release.v34.facts.specials.qnil) =
      some ("RArrayLen", Release.v34.facts.specials.qnil) := by
  have hv : (⟨.v34, true⟩ : Accessors).rbType ⟨Heap.arenaBase, 4096, .empty⟩
      Release.v34.facts.specials.qnil = .ok TypeCode.nil := by decide
  have hnil : (Api.ofRelease .v34 true .unchecked).NotHeapOf ⟨Heap.arenaBase, 4096, .empty⟩
      Release.v34.facts.specials.qnil TypeCode.array := .inl (by decide)
  exact ⟨rfl, hv,
    (debug_assertions_agree_with_checked .v34 (.arrayRef 0) rfl _ _ hv).2.2.2.2.1 ⟨0, rfl⟩ hnil⟩

/-- The debug build reports an element read of `nil` under the length read's name, where the
checked tier names the element read. -/
theorem debug_element_of_nil_names_length :
    Access.violation ((Query.arrayRef 0).ask (Api.ofRelease .v34 true .unchecked)
        ⟨Heap.arenaBase, 4096, .empty⟩ Release.v34.facts.specials.qnil) =
      some ("RArrayLen", Release.v34.facts.specials.qnil) ∧
    Access.violation ((Query.arrayRef 0).ask (Api.ofRelease .v34 true .checked)
        ⟨Heap.arenaBase, 4096, .empty⟩ Release.v34.facts.specials.qnil) =
      some ("RArrayAref", Release.v34.facts.specials.qnil) := by
  decide

end RubyLayout
