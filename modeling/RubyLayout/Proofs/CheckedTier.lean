import RubyLayout.Proofs.Queries
import RubyLayout.Proofs.Objects

/-!
# The checked tier

The checked tier runs one requirement before each accessor that has a checked form and then
the accessor itself; every other method is forwarded. The requirements are few
(`Requirement`): a heap reference, a heap object of one type, typed data, a fixnum, an array
element in range. `Query.requirement` assigns one to each accessor and `ask_checked` shows that
the checked form of every accessor is its requirement followed by the raw accessor.

What a requirement verifies is said by the plain build's readings of the value, without the
tier (`Requirement.Met`, `Requirement.Broken`): `v` is a special constant or not, a heap object
whose header reads type `t` or another type (`Api.HeapOf`, `Api.NotHeapOf`), typed or untyped
data, an array with an index inside or outside its length. A requirement that is met passes
(`Requirement.check_of_met`); one that is broken fails reporting the accessor and the value
(`Requirement.check_of_broken`); in the one remaining case, a heap reference whose header or
length cannot be read, the check faults (`Requirement.check_of_neither`).

Main statement, `checked_tier_preconditions`: for every release, memory, value, index and
integer, the checked tier of the plain build reports a violated precondition, under the
accessor's own name, exactly when the accessor's requirement is broken; where it is met, and for
every forwarded method, it answers what the unchecked tier answers; and it exposes the same
optional forms.

Scope. A requirement reads through the raw accessors of its build, which in the debug build
assert on immediates with no known tag; the lemmas take as hypothesis that the raw build tells
the type of `v` as the plain build does, which always holds of the plain build
(`Api.rbType_raw_of_plain`).
-/

set_option autoImplicit false
set_option relaxedAutoImplicit false

namespace RubyLayout

namespace Accessors

variable {a : Accessors} {m : Memory} {v : Value}

/-- Of a heap reference, every build reads the header type of the plain build. -/
theorem builtinType_of_heap (hsc : a.layout.isSpecialConst v = false) :
    a.builtinType m v = (⟨a.release, false⟩ : Accessors).builtinType m v := by
  unfold builtinType
  rw [assertHeap_eq_ok hsc]
  rfl

end Accessors

namespace Api

variable {api : Api} {m : Memory} {v : Value}

/-! ### Heap objects of a type -/

/-- `v` is a heap object whose header, read by the plain build, has type `t`. -/
def HeapOf (api : Api) (m : Memory) (v : Value) (t : TypeCode) : Prop :=
  api.layout.isSpecialConst v = false ∧ api.plain.builtinType m v = .ok t

/-- `v` is not a heap object of type `t`: a special constant, or a heap object whose header
reads another type. -/
def NotHeapOf (api : Api) (m : Memory) (v : Value) (t : TypeCode) : Prop :=
  api.layout.isSpecialConst v = true ∨ ∃ u, api.plain.builtinType m v = .ok u ∧ u ≠ t

theorem not_notHeapOf_of_heapOf {t : TypeCode} (h : api.HeapOf m v t) : ¬ api.NotHeapOf m v t := by
  rintro (hsc | ⟨u, hu, hne⟩)
  · rw [h.1] at hsc
    cases hsc
  · rw [h.2] at hu
    cases hu
    exact hne rfl

/-- A failure of a plain read is a memory fault. -/
theorem violation_of_plain_error {α : Type} (q : Query α) {e : AccessError}
    (h : q.read api.plain m v = .error e) : e.violation = none := by
  have hq : Access.violation (q.read api.plain m v) = none := Query.violation_plain api.release q m v
  rwa [h] at hq

/-- The plain build tells the type of every value as itself. -/
theorem rbType_raw_of_plain (hd : api.debug = false) : api.raw.rbType m v = api.plain.rbType m v := by
  show (⟨api.release, api.debug⟩ : Accessors).rbType m v = (⟨api.release, false⟩ : Accessors).rbType m v
  rw [hd]

/-- The raw build tells the header type of a heap reference as the plain build. -/
theorem builtinType_raw (hsc : api.layout.isSpecialConst v = false) :
    api.raw.builtinType m v = api.plain.builtinType m v :=
  Accessors.builtinType_of_heap hsc

/-- The type assertion of any build passes on a heap object of the wanted type. -/
theorem assertType_raw {t : TypeCode} (h : api.HeapOf m v t) (op : String) :
    api.raw.assertType op m v t = .ok () := by
  have hsc : api.raw.layout.isSpecialConst v = false := h.1
  have hb : api.raw.builtinType m v = .ok t := (builtinType_raw h.1).trans h.2
  unfold Accessors.assertType
  cases api.raw.debug
  · rfl
  · simp only [if_true]
    rw [Accessors.assertHeap_eq_ok hsc, Accessors.ok_bind, hb, Accessors.ok_bind,
      if_neg (fun hne ↦ hne rfl)]
    rfl

/-- Of typed data, the raw build reads the typed marker of the plain build. -/
theorem typedDataP_raw (h : api.HeapOf m v TypeCode.data) :
    api.raw.typedDataP m v = api.plain.typedDataP m v := by
  have hassert := assertType_raw h "RTypedDataP"
  unfold Accessors.typedDataP at hassert ⊢
  rw [hassert]
  rfl

/-- Of an array, the raw build reads the length of the plain build. -/
theorem arrayLength_raw (h : api.HeapOf m v TypeCode.array) :
    api.raw.arrayLength m v = api.plain.arrayLength m v := by
  have hassert := assertType_raw h "RArrayLen"
  unfold Accessors.arrayLength at hassert ⊢
  rw [hassert]
  rfl

/-- The plain build tells the type of every special constant. -/
theorem plain_rbType_of_special (hsc : api.layout.isSpecialConst v = true) :
    ∃ t, api.plain.rbType m v = .ok t := by
  have hsc' : api.plain.layout.isSpecialConst v = true := hsc
  unfold Accessors.rbType
  simp only [hsc', Bool.not_true, Bool.false_eq_true, if_false]
  cases api.plain.layout.immediateType? v with
  | some t => exact ⟨t, rfl⟩
  | none => exact ⟨TypeCode.float, rfl⟩

/-! ### The requirements -/

theorem requireHeap_of_heap (hsc : api.layout.isSpecialConst v = false) (op : String) :
    api.requireHeap m op v = .ok () := by
  simp only [requireHeap, hsc, Bool.false_eq_true, if_false]
  rfl

/-- Assumes: a special constant whose type the raw build tells. -/
theorem requireHeap_of_special (hsc : api.layout.isSpecialConst v = true) {t : TypeCode}
    (ht : api.raw.rbType m v = .ok t) (op : String) :
    api.requireHeap m op v = .error (.precondition op v "heap reference" t.name) := by
  simp only [requireHeap, hsc, if_true, ht, Accessors.ok_bind]
  rfl

/-- Of a heap reference, the type requirement compares the plain build's header type. -/
theorem requireType_of_heap (hsc : api.layout.isSpecialConst v = false) (op : String)
    (want : TypeCode) :
    api.requireType m op v want = (api.plain.builtinType m v >>= fun got ↦
      if got ≠ want then .error (.precondition op v want.name got.name) else .ok ()) := by
  unfold requireType
  rw [requireHeap_of_heap hsc, Accessors.ok_bind, builtinType_raw hsc]
  rfl

theorem requireType_of_heapOf {t : TypeCode} (h : api.HeapOf m v t) (op : String) :
    api.requireType m op v t = .ok () := by
  rw [requireType_of_heap h.1, h.2]
  simp

/-- Assumes: the raw build tells the type of `v` as the plain build. -/
theorem requireType_of_notHeapOf (hrb : api.raw.rbType m v = api.plain.rbType m v)
    {t : TypeCode} (h : api.NotHeapOf m v t) (op : String) :
    Access.violation (api.requireType m op v t) = some (op, v) := by
  cases hsc : api.layout.isSpecialConst v with
  | true =>
    obtain ⟨u, hu⟩ := plain_rbType_of_special (m := m) hsc
    unfold requireType
    rw [requireHeap_of_special hsc (hrb.trans hu)]
    rfl
  | false =>
    obtain hsc' | ⟨u, hu, hne⟩ := h
    · rw [hsc] at hsc'
      cases hsc'
    · rw [requireType_of_heap hsc, hu, Accessors.ok_bind, if_pos hne]
      rfl

/-- Of a heap reference whose header cannot be read, the type requirement faults. -/
theorem requireType_of_error (hsc : api.layout.isSpecialConst v = false) {e : AccessError}
    (he : api.plain.builtinType m v = .error e) (op : String) (want : TypeCode) :
    api.requireType m op v want = .error e := by
  rw [requireType_of_heap hsc, he]
  rfl

/-- Of a heap reference, every requirement on its header either meets its type, or breaks
it, or faults reading the header. -/
theorem heapOf_cases (hsc : api.layout.isSpecialConst v = false) (t : TypeCode) :
    api.HeapOf m v t ∨ api.NotHeapOf m v t ∨ ∃ e, api.plain.builtinType m v = .error e := by
  cases hb : api.plain.builtinType m v with
  | error e => exact .inr (.inr ⟨e, rfl⟩)
  | ok u =>
    by_cases hu : u = t
    · exact .inl ⟨hsc, hu ▸ hb⟩
    · exact .inr (.inl (.inr ⟨u, hb, hu⟩))

end Api

/-! ### What the checked tier verifies -/

/-- What the checked tier verifies of a value before an accessor reads it. -/
inductive Requirement where
  /-- Nothing: the accessor is forwarded. -/
  | nothing
  /-- A heap reference. -/
  | heap
  /-- A heap object of type `t`. -/
  | type (t : TypeCode)
  /-- A typed data object. -/
  | typed
  /-- A fixnum. -/
  | fixnum
  /-- A heap array with an element at index `i`. -/
  | index (i : Int)

namespace Requirement

/-- The checked tier's verification of a requirement, reporting a violation under `op`. -/
def check (api : Api) (m : Memory) (op : String) (v : Value) : Requirement → Access Unit
  | .nothing => pure ()
  | .heap => api.requireHeap m op v
  | .type t => api.requireType m op v t
  | .typed => api.requireTyped m op v
  | .fixnum => api.requireFixnum m op v
  | .index i => do
    api.requireType m op v TypeCode.array
    let n ← api.raw.arrayLength m v
    if i < 0 ∨ i ≥ n then
      throw (.precondition op v ("index in [0, " ++ toString n ++ ")") (toString i))

/-- The requirement holds of `v`, by the readings of the plain build. -/
def Met (api : Api) (m : Memory) (v : Value) : Requirement → Prop
  | .nothing => True
  | .heap => api.layout.isSpecialConst v = false
  | .type t => api.HeapOf m v t
  | .typed => api.HeapOf m v TypeCode.data ∧ api.plain.typedDataP m v = .ok true
  | .fixnum => api.layout.isFixnum v = true
  | .index i =>
    api.HeapOf m v TypeCode.array ∧ ∃ n, api.plain.arrayLength m v = .ok n ∧ 0 ≤ i ∧ i < n

/-- The requirement fails of `v`, by the readings of the plain build: a special constant where
a heap reference is required, a heap object of another type, untyped data, a word without the
fixnum tag whose type can be told, an index outside the array. -/
def Broken (api : Api) (m : Memory) (v : Value) : Requirement → Prop
  | .nothing => False
  | .heap => api.layout.isSpecialConst v = true
  | .type t => api.NotHeapOf m v t
  | .typed =>
    api.NotHeapOf m v TypeCode.data ∨
      (api.HeapOf m v TypeCode.data ∧ api.plain.typedDataP m v = .ok false)
  | .fixnum => api.layout.isFixnum v = false ∧ ∃ t, api.plain.rbType m v = .ok t
  | .index i =>
    api.NotHeapOf m v TypeCode.array ∨
      (api.HeapOf m v TypeCode.array ∧ ∃ n, api.plain.arrayLength m v = .ok n ∧ (i < 0 ∨ n ≤ i))

variable {api : Api} {m : Memory} {v : Value}

theorem not_broken_of_met {R : Requirement} (h : R.Met api m v) : ¬ R.Broken api m v := by
  cases R with
  | nothing => exact id
  | heap =>
    intro hb
    change api.layout.isSpecialConst v = true at hb
    change api.layout.isSpecialConst v = false at h
    rw [h] at hb
    cases hb
  | type t => exact Api.not_notHeapOf_of_heapOf h
  | typed =>
    rintro (hb | ⟨-, hf⟩)
    · exact Api.not_notHeapOf_of_heapOf h.1 hb
    · rw [h.2] at hf
      cases hf
  | fixnum =>
    rintro ⟨hb, -⟩
    change api.layout.isFixnum v = true at h
    rw [h] at hb
    cases hb
  | index i =>
    obtain ⟨hheap, n, hn, hlo, hhi⟩ := h
    rintro (hb | ⟨-, n', hn', hout⟩)
    · exact Api.not_notHeapOf_of_heapOf hheap hb
    · rw [hn] at hn'
      cases hn'
      omega

/-- A requirement that is met passes. -/
theorem check_of_met {R : Requirement} (h : R.Met api m v) (op : String) :
    R.check api m op v = .ok () := by
  cases R with
  | nothing => rfl
  | heap => exact Api.requireHeap_of_heap h op
  | type t => exact Api.requireType_of_heapOf h op
  | typed =>
    obtain ⟨hheap, htyped⟩ := h
    simp only [check, Api.requireTyped, Api.requireType_of_heapOf hheap, Accessors.ok_bind,
      Api.typedDataP_raw hheap, htyped]
    rfl
  | fixnum =>
    simp only [check, Api.requireFixnum, show api.layout.isFixnum v = true from h]
    rfl
  | index i =>
    obtain ⟨hheap, n, hn, hlo, hhi⟩ := h
    have hin : ¬ (i < 0 ∨ i ≥ n) := by omega
    simp only [check, Api.requireType_of_heapOf hheap, Accessors.ok_bind, Api.arrayLength_raw hheap,
      hn, hin, if_false]
    rfl

/-- Assumes: the raw build tells the type of `v` as the plain build. A requirement that is
broken fails, reporting `op` and `v`. -/
theorem check_of_broken (hrb : api.raw.rbType m v = api.plain.rbType m v) {R : Requirement}
    (h : R.Broken api m v) (op : String) :
    Access.violation (R.check api m op v) = some (op, v) := by
  cases R with
  | nothing => exact h.elim
  | heap =>
    obtain ⟨t, ht⟩ := Api.plain_rbType_of_special (m := m) h
    rw [check, Api.requireHeap_of_special h (hrb.trans ht)]
    rfl
  | type t => exact Api.requireType_of_notHeapOf hrb h op
  | typed =>
    obtain hb | ⟨hheap, huntyped⟩ := h
    · exact Access.violation_bind_of_some (Api.requireType_of_notHeapOf hrb hb op) _
    · simp only [check, Api.requireTyped, Api.requireType_of_heapOf hheap, Accessors.ok_bind,
        Api.typedDataP_raw hheap, huntyped]
      rfl
  | fixnum =>
    obtain ⟨hnf, t, ht⟩ := h
    simp only [check, Api.requireFixnum, hnf, Bool.not_false, if_true, hrb, ht, Accessors.ok_bind]
    rfl
  | index i =>
    obtain hb | ⟨hheap, n, hn, hout⟩ := h
    · exact Access.violation_bind_of_some (Api.requireType_of_notHeapOf hrb hb op) _
    · have hout' : i < 0 ∨ i ≥ n := by omega
      simp only [check, Api.requireType_of_heapOf hheap, Accessors.ok_bind,
        Api.arrayLength_raw hheap, hn, hout', if_true]
      rfl

/-- Assumes: the raw build tells the type of `v` as the plain build, and the requirement is
neither met nor broken. The check then faults: `v` is a heap reference and a word the check
reads cannot be read. -/
theorem check_of_neither (hrb : api.raw.rbType m v = api.plain.rbType m v) {R : Requirement}
    (hmet : ¬ R.Met api m v) (hbroken : ¬ R.Broken api m v) (op : String) :
    ∃ e, R.check api m op v = .error e ∧ e.violation = none := by
  cases R with
  | nothing => exact (hmet trivial).elim
  | heap =>
    cases hsc : api.layout.isSpecialConst v
    · exact (hmet hsc).elim
    · exact (hbroken hsc).elim
  | type t =>
    cases hsc : api.layout.isSpecialConst v
    · obtain hheap | hnot | ⟨e, he⟩ := Api.heapOf_cases (m := m) hsc t
      · exact (hmet hheap).elim
      · exact (hbroken hnot).elim
      · exact ⟨e, Api.requireType_of_error hsc he op t,
          Api.violation_of_plain_error Query.builtinType he⟩
    · exact (hbroken (.inl hsc)).elim
  | typed =>
    cases hsc : api.layout.isSpecialConst v
    · obtain hheap | hnot | ⟨e, he⟩ := Api.heapOf_cases (m := m) hsc TypeCode.data
      · cases ht : api.plain.typedDataP m v with
        | ok b =>
          cases b
          · exact (hbroken (.inr ⟨hheap, ht⟩)).elim
          · exact (hmet ⟨hheap, ht⟩).elim
        | error e =>
          refine ⟨e, ?_, Api.violation_of_plain_error Query.typedDataP ht⟩
          simp only [check, Api.requireTyped, Api.requireType_of_heapOf hheap, Accessors.ok_bind,
            Api.typedDataP_raw hheap, ht]
          rfl
      · exact (hbroken (.inl hnot)).elim
      · refine ⟨e, ?_, Api.violation_of_plain_error Query.builtinType he⟩
        simp only [check, Api.requireTyped, Api.requireType_of_error hsc he]
        rfl
    · exact (hbroken (.inl (.inl hsc))).elim
  | fixnum =>
    cases hf : api.layout.isFixnum v
    · cases ht : api.plain.rbType m v with
      | ok t => exact (hbroken ⟨hf, t, ht⟩).elim
      | error e =>
        refine ⟨e, ?_, Api.violation_of_plain_error Query.rbType ht⟩
        simp only [check, Api.requireFixnum, hf, Bool.not_false, if_true, hrb, ht]
        rfl
    · exact (hmet hf).elim
  | index i =>
    cases hsc : api.layout.isSpecialConst v
    · obtain hheap | hnot | ⟨e, he⟩ := Api.heapOf_cases (m := m) hsc TypeCode.array
      · cases hn : api.plain.arrayLength m v with
        | ok n =>
          by_cases hin : 0 ≤ i ∧ i < n
          · exact (hmet ⟨hheap, n, hn, hin⟩).elim
          · exact (hbroken (.inr ⟨hheap, n, hn, by omega⟩)).elim
        | error e =>
          refine ⟨e, ?_, Api.violation_of_plain_error Query.arrayLength hn⟩
          simp only [check, Api.requireType_of_heapOf hheap, Accessors.ok_bind,
            Api.arrayLength_raw hheap, hn]
          rfl
      · exact (hbroken (.inl hnot)).elim
      · refine ⟨e, ?_, Api.violation_of_plain_error Query.builtinType he⟩
        simp only [check, Api.requireType_of_error hsc he]
        rfl
    · exact (hbroken (.inl (.inl hsc))).elim

/-! ### Verifying a requirement -/

/-- `g` verifies the requirement `R` of `v` under the name `op`: it passes where `R` is met,
reports `op` and `v` where `R` is broken, and otherwise fails without reporting a violation. -/
structure Verifies (R : Requirement) (api : Api) (m : Memory) (v : Value) (op : String)
    (g : Access Unit) : Prop where
  pass : R.Met api m v → g = .ok ()
  report : R.Broken api m v → Access.violation g = some (op, v)
  fault : ¬ R.Met api m v → ¬ R.Broken api m v → ∃ e, g = .error e ∧ e.violation = none

/-- Assumes: the raw build tells the type of `v` as the plain build. The checked tier verifies
every requirement under the name it is given. -/
theorem check_verifies (hrb : api.raw.rbType m v = api.plain.rbType m v) (R : Requirement)
    (op : String) : R.Verifies api m v op (R.check api m op v) :=
  ⟨fun h ↦ check_of_met h op, fun h ↦ check_of_broken hrb h op,
    fun hm hb ↦ check_of_neither hrb hm hb op⟩

namespace Verifies

variable {R : Requirement} {op : String} {g : Access Unit} {β : Type}

/-- A call after a verification that is met is the call. -/
theorem bind_of_met (hg : R.Verifies api m v op g) (h : R.Met api m v) (f : Unit → Access β) :
    (g >>= f) = f () := by
  rw [hg.pass h]
  rfl

/-- A call after a verification that is broken fails with its report. -/
theorem bind_of_broken (hg : R.Verifies api m v op g) (h : R.Broken api m v)
    (f : Unit → Access β) : Access.violation (g >>= f) = some (op, v) := by
  have hrep := hg.report h
  cases hgr : g with
  | ok u =>
    rw [hgr] at hrep
    cases hrep
  | error e =>
    rw [hgr] at hrep
    exact hrep

/-- A call after a verification that can be neither met nor broken fails as it does. -/
theorem bind_of_neither (hg : R.Verifies api m v op g) (hmet : ¬ R.Met api m v)
    (hbroken : ¬ R.Broken api m v) (f : Unit → Access β) :
    ∃ e, (g >>= f) = .error e ∧ e.violation = none := by
  obtain ⟨e, he, hev⟩ := hg.fault hmet hbroken
  refine ⟨e, ?_, hev⟩
  rw [he]
  rfl

/-- A call guarded by a verification of `R` reports a violation exactly where `R` is broken,
under the guard's name, provided the call itself reports none where `R` is met; where `R` is
met it is the call, and otherwise it fails without reporting one. -/
theorem guarded {y : Access β} (hg : R.Verifies api m v op g)
    (hy : R.Met api m v → Access.violation y = none) :
    (Access.violation (g >>= fun _ ↦ y) = some (op, v) ↔ R.Broken api m v) ∧
    (Access.violation (g >>= fun _ ↦ y) = none ∨
      Access.violation (g >>= fun _ ↦ y) = some (op, v)) ∧
    (R.Met api m v → (g >>= fun _ ↦ y) = y) ∧
    (¬ R.Met api m v → ¬ R.Broken api m v →
      ∃ e, (g >>= fun _ ↦ y) = .error e ∧ e.violation = none) := by
  by_cases hmet : R.Met api m v
  · rw [hg.bind_of_met hmet, hy hmet]
    exact ⟨iff_of_false (fun h ↦ by cases h) (not_broken_of_met hmet), .inl rfl,
      fun _ ↦ rfl, fun h ↦ (h hmet).elim⟩
  · by_cases hbroken : R.Broken api m v
    · have hv := hg.bind_of_broken hbroken fun _ ↦ y
      exact ⟨iff_of_true hv hbroken, .inr hv, fun h ↦ (hmet h).elim, fun _ h ↦ (h hbroken).elim⟩
    · obtain ⟨e, he, hev⟩ := hg.bind_of_neither hmet hbroken fun _ ↦ y
      rw [he, Access.violation_error, hev]
      exact ⟨iff_of_false (fun h ↦ by cases h) hbroken, .inl rfl, fun h ↦ (hmet h).elim,
        fun _ _ ↦ ⟨e, rfl, hev⟩⟩

end Verifies

end Requirement

/-! ### Each accessor through the checked tier -/

namespace Query

/-- What the checked tier verifies before each accessor: nothing before the type tests, which
are forwarded; a heap reference before the header accessors; the object's type before the
bignum, string and array accessors and the typed-data marker; the index before an element;
typed data before the other typed-data accessors; a fixnum before the fixnum conversions. -/
def requirement {α : Type} : Query α → Requirement
  | .rbType => .nothing
  | .typeP _ => .nothing
  | .symbolP => .nothing
  | .dynamicSymP => .nothing
  | .floatTypeP => .nothing
  | .integerTypeP => .nothing
  | .frozenP => .nothing
  | .builtinType => .heap
  | .basicClass => .heap
  | .bignumPositiveP => .type TypeCode.bignum
  | .bignumNegativeP => .type TypeCode.bignum
  | .stringLength => .type TypeCode.string
  | .stringPtr => .type TypeCode.string
  | .stringInternedP => .type TypeCode.string
  | .arrayLength => .type TypeCode.array
  | .arrayPtr => .type TypeCode.array
  | .arrayRef i => .index i
  | .fixToLong => .fixnum
  | .fixToULong => .fixnum
  | .typedDataP => .type TypeCode.data
  | .typedDataEmbeddedP => .typed
  | .typedDataType => .typed
  | .typedDataGetData => .typed

variable {α : Type} (r : Release) (debug : Bool) (q : Query α) (m : Memory) (v : Value)

/-- The checked form of every accessor is its requirement, reported under the accessor's name,
followed by the accessor of the build. -/
theorem ask_checked :
    q.ask (Api.ofRelease r debug .checked) m v =
      (q.requirement.check (Api.ofRelease r debug .unchecked) m q.name v >>= fun _ ↦
        q.read ⟨r, debug⟩ m v) := by
  cases q
  case arrayRef i =>
    simp only [ask, Api.arrayRef, requirement, Requirement.check, bind_assoc]
    rw [if_pos (show (Api.ofRelease r debug .checked).checking = true from rfl)]
    refine congrArg (_ >>= ·) (funext fun _ ↦ congrArg (_ >>= ·) (funext fun n ↦ ?_))
    split <;> rfl
  all_goals rfl

end Query

/-! ### The checked tier of the plain build -/

section PlainBuild

variable {α : Type} (r : Release) (q : Query α) (m : Memory) (v : Value)

/-- Through the checked tier of the plain build, an accessor is guarded by a verification of
its requirement, under its own name, and the plain accessor reports no violation. -/
theorem Query.checked_plain_guarded :
    (Access.violation (q.ask (Api.ofRelease r false .checked) m v) = some (q.name, v) ↔
      q.requirement.Broken (Api.ofRelease r false .unchecked) m v) ∧
    (Access.violation (q.ask (Api.ofRelease r false .checked) m v) = none ∨
      Access.violation (q.ask (Api.ofRelease r false .checked) m v) = some (q.name, v)) ∧
    (q.requirement.Met (Api.ofRelease r false .unchecked) m v →
      q.ask (Api.ofRelease r false .checked) m v = q.ask (Api.ofRelease r false .unchecked) m v) ∧
    (¬ q.requirement.Met (Api.ofRelease r false .unchecked) m v →
      ¬ q.requirement.Broken (Api.ofRelease r false .unchecked) m v →
      ∃ e, q.ask (Api.ofRelease r false .checked) m v = .error e ∧ e.violation = none) := by
  have hrb : (Api.ofRelease r false .unchecked).raw.rbType m v =
      (Api.ofRelease r false .unchecked).plain.rbType m v := rfl
  rw [Query.ask_checked, Query.ask_unchecked]
  exact (Requirement.check_verifies hrb q.requirement q.name).guarded
    (fun _ ↦ Query.violation_plain r q m v)

/-- The checked conversion of an integer to a fixnum reports a violation exactly when the
integer does not fit, and otherwise converts as the unchecked one. -/
theorem Api.longToFix_checked (debug : Bool) (i : Int) :
    (Access.violation ((Api.ofRelease r debug .checked).longToFix i) =
        some ("Long2Fix", Word.ofInt i) ↔ Accessors.fixable i = false) ∧
    (Accessors.fixable i = true →
      (Api.ofRelease r debug .checked).longToFix i =
        (Api.ofRelease r debug .unchecked).longToFix i) := by
  constructor
  · cases hfix : Accessors.fixable i
    · simp only [longToFix, hfix]
      exact iff_of_true rfl trivial
    · simp [longToFix, raw, Accessors.longToFix, Accessors.assert, hfix]
  · intro hfix
    simp only [longToFix, hfix, Bool.not_true, Bool.and_false, Bool.false_eq_true, if_false]
    rfl

end PlainBuild

/-- The checked tier of the plain build verifies each accessor's requirement: for every
release, memory, value, index and integer it reports a violated precondition, under the
accessor's own name, exactly when the requirement is broken; where the requirement is met it
answers as the unchecked tier; in the one case left, a heap reference whose words cannot be
read, it faults. Every forwarded method answers as the unchecked tier, and the optional
accessor forms are exposed alike. -/
theorem checked_tier_preconditions (r : Release) :
    (∀ {α : Type} (q : Query α) (m : Memory) (v : Value),
      (Access.violation (q.ask (Api.ofRelease r false .checked) m v) = some (q.name, v) ↔
        q.requirement.Broken (Api.ofRelease r false .unchecked) m v) ∧
      (Access.violation (q.ask (Api.ofRelease r false .checked) m v) = none ∨
        Access.violation (q.ask (Api.ofRelease r false .checked) m v) = some (q.name, v)) ∧
      (q.requirement.Met (Api.ofRelease r false .unchecked) m v →
        q.ask (Api.ofRelease r false .checked) m v =
          q.ask (Api.ofRelease r false .unchecked) m v) ∧
      (¬ q.requirement.Met (Api.ofRelease r false .unchecked) m v →
        ¬ q.requirement.Broken (Api.ofRelease r false .unchecked) m v →
        ∃ e, q.ask (Api.ofRelease r false .checked) m v = .error e ∧ e.violation = none)) ∧
    (∀ i : Int,
      (Access.violation ((Api.ofRelease r false .checked).longToFix i) =
          some ("Long2Fix", Word.ofInt i) ↔ Accessors.fixable i = false) ∧
      (Accessors.fixable i = true →
        (Api.ofRelease r false .checked).longToFix i =
          (Api.ofRelease r false .unchecked).longToFix i)) ∧
    (∀ i : Int, (Api.ofRelease r false .checked).long2Num i =
      (Api.ofRelease r false .unchecked).long2Num i) ∧
    (∀ u : UInt64, (Api.ofRelease r false .checked).ulong2Num u =
      (Api.ofRelease r false .unchecked).ulong2Num u) ∧
    (∀ v : Value, (Api.ofRelease r false .checked).num2Long v =
      (Api.ofRelease r false .unchecked).num2Long v) ∧
    (∀ v : Value, (Api.ofRelease r false .checked).num2ULong v =
      (Api.ofRelease r false .unchecked).num2ULong v) ∧
    (∀ v : Value, (Api.ofRelease r false .checked).sym2Id v =
      (Api.ofRelease r false .unchecked).sym2Id v) ∧
    (Api.ofRelease r false .checked).layout = (Api.ofRelease r false .unchecked).layout ∧
    (Api.ofRelease r false .checked).reported = (Api.ofRelease r false .unchecked).reported ∧
    (Api.ofRelease r false .checked).hasInternedStrings =
      (Api.ofRelease r false .unchecked).hasInternedStrings ∧
    (Api.ofRelease r false .checked).hasTypedData =
      (Api.ofRelease r false .unchecked).hasTypedData := by
  exact ⟨fun q m v ↦ q.checked_plain_guarded r m v, Api.longToFix_checked r false,
    fun _ ↦ rfl, fun _ ↦ rfl, fun _ ↦ rfl, fun _ ↦ rfl, fun _ ↦ rfl, rfl, rfl, rfl, rfl⟩

end RubyLayout
