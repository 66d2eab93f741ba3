import RubyLayout.Proofs.WordKinds

/-!
# Type tests against the type

Besides the type of a value (`Accessors.rbType`), the accessors answer five questions by fast
paths of their own: whether a value has a given type (`typeP`), and whether it is a symbol, a
dynamic symbol, a float or an integer. Each splits heap references from the rest first, reads
the header type on the heap side, and tests tags on the other side in an order of its own.

This module proves that they agree with the type (`type_tests_agree`). For every release, either
build, every memory and every word that is not an unknown immediate, each test is the matching
question about `rbType`, and it fails exactly when reading the type fails. A dynamic symbol is a
symbol that is not static, on every word. An unknown immediate has no type by `typeP`, while the
plain build's `rbType` takes it for a float and the debug build refuses it.

The argument follows the kinds of words. On the heap side every test reads the one header type
(`Accessors.tests_of_heap`). On the immediate side a tag test holds exactly when the word has that
tag's kind (`Facts.isKind_eq_beq`), and the kinds' types are distinct
(`WordKind.tags_of_typeCode?`), so each test answers the question about the type that the tag order
of `rbType` gives (`Accessors.tests_of_immediate`).
-/

set_option autoImplicit false
set_option relaxedAutoImplicit false

namespace RubyLayout

/-- The types of the recognized kinds are distinct: only a static symbol has the symbol type,
only a flonum the float type, and no kind has the bignum type. -/
theorem WordKind.tags_of_typeCode? {k : WordKind} {u : TypeCode} (hu : k.typeCode? = some u) :
    (WordKind.staticSymbol == k) = (u == TypeCode.symbol) ∧
      (WordKind.flonum == k) = (u == TypeCode.float) ∧ u ≠ TypeCode.bignum := by
  cases k <;> simp only [typeCode?, Option.some.injEq, reduceCtorEq] at hu <;> subst hu <;>
    decide

theorem WordKind.exists_typeCode? {k : WordKind} (hheap : k ≠ .heap)
    (hunknown : k ≠ .unknownImmediate) : ∃ u, k.typeCode? = some u := by
  cases k
  case heap => exact absurd rfl hheap
  case unknownImmediate => exact absurd rfl hunknown
  all_goals exact ⟨_, rfl⟩

namespace Facts

variable {f : Facts} {v : Value} {k : WordKind}

/-- On a word of exactly one kind, the test of a kind holds exactly for that kind. -/
theorem isKind_eq_beq (hone : ∀ k', f.isKind v k' = true → k' = k) (hk : f.isKind v k = true)
    (k' : WordKind) : f.isKind v k' = (k' == k) := by
  by_cases heq : k' = k
  · rw [heq, hk, beq_self_eq_true]
  · rw [beq_false_of_ne heq]
    cases hk' : f.isKind v k'
    · rfl
    · exact absurd (hone k' hk') heq

end Facts

/-- Every word of a release has a kind. -/
theorem Release.exists_isKind (r : Release) (v : Value) : ∃ k, r.facts.isKind v k = true := by
  apply Facts.exists_isKind
  intro hf
  rcases (Release.truthy_eq_false_iff r v).mp hf with h | h
  · exact Or.inl (beq_iff_eq.mp h)
  · exact Or.inr (beq_iff_eq.mp h)

namespace Accessors

@[simp] theorem map_ok {α β : Type} (g : α → β) (x : α) :
    (g <$> (Except.ok x : Access α)) = .ok (g x) := rfl

variable (a : Accessors) (m : Memory) {v : Value}

/-! ### The two sides of the tests -/

/-- On a heap reference every test reads the header type, as `rbType` does. -/
theorem tests_of_heap (hsc : a.layout.isSpecialConst v = false)
    (hfix : a.layout.isFixnum v = false) (hsym : a.layout.isStaticSymbol v = false) :
    (∀ t, a.typeP m v t = (· == t) <$> a.rbType m v) ∧
      a.symbolP m v = (· == TypeCode.symbol) <$> a.rbType m v ∧
      a.floatTypeP m v = (· == TypeCode.float) <$> a.rbType m v ∧
      a.integerTypeP m v =
        (fun u ↦ a.layout.isFixnum v || u == TypeCode.bignum) <$> a.rbType m v ∧
      a.dynamicSymP m v = (fun b ↦ b && !a.layout.isStaticSymbol v) <$> a.symbolP m v := by
  simp only [typeP, symbolP, floatTypeP, integerTypeP, dynamicSymP, rbType, hsc, hfix, hsym,
    Bool.not_false, Bool.false_or, Bool.and_true, if_true]
  refine ⟨fun t ↦ ?_, ?_, ?_, ?_, ?_⟩ <;> cases a.builtinType m v <;> rfl

/-- On an immediate of the type `u`, `typeP` compares the type, and each compound test answers
its tag; where the tags answer as the type does, the tests are questions about the type. -/
theorem tests_of_immediate {u : TypeCode} (hsc : a.layout.isSpecialConst v = true)
    (hu : a.layout.immediateType? v = some u)
    (hsym : a.layout.isStaticSymbol v = (u == TypeCode.symbol))
    (hflo : a.layout.isFlonum v = (u == TypeCode.float)) (hbig : u ≠ TypeCode.bignum) :
    a.rbType m v = .ok u ∧
      (∀ t, a.typeP m v t = (· == t) <$> a.rbType m v) ∧
      a.symbolP m v = (· == TypeCode.symbol) <$> a.rbType m v ∧
      a.floatTypeP m v = (· == TypeCode.float) <$> a.rbType m v ∧
      a.integerTypeP m v =
        (fun w ↦ a.layout.isFixnum v || w == TypeCode.bignum) <$> a.rbType m v ∧
      a.dynamicSymP m v = (fun b ↦ b && !a.layout.isStaticSymbol v) <$> a.symbolP m v := by
  have htype : a.rbType m v = .ok u := by
    simp only [rbType, hsc, Bool.not_true, hu]
    rfl
  have hbne : (u == TypeCode.bignum) = false := beq_false_of_ne hbig
  refine ⟨htype, fun t ↦ ?_, ?_, ?_, ?_, ?_⟩
  · simp only [typeP, hsc, Bool.not_true, hu, htype]
    rfl
  · simp only [symbolP, hsc, Bool.not_true, hsym, htype]
    rfl
  · simp only [floatTypeP, hsc, Bool.not_true, hflo, htype]
    rfl
  · simp only [integerTypeP, hsc, Bool.not_true, Bool.false_eq_true, if_false, htype, map_ok,
      hbne, Bool.or_false]
    rfl
  · simp only [dynamicSymP, symbolP, hsc, Bool.not_true, Bool.false_eq_true, if_false]
    show Except.ok false = Except.ok (_ && _)
    rw [Bool.and_not_self]

/-- An unknown immediate has no type by `typeP`; the plain build's `rbType` takes it for a
float, and the debug build refuses it. -/
theorem tests_of_unknown (hsc : a.layout.isSpecialConst v = true)
    (hu : a.layout.immediateType? v = none) :
    (∀ t, a.typeP m v t = .ok false) ∧
      a.rbType m v = (if a.debug then
        .error (.precondition "RBType" v "flonum" "unknown immediate") else .ok TypeCode.float) ∧
      a.dynamicSymP m v = (fun b ↦ b && !a.layout.isStaticSymbol v) <$> a.symbolP m v := by
  refine ⟨fun t ↦ ?_, ?_, ?_⟩
  · simp only [typeP, hsc, Bool.not_true, hu]
    rfl
  · simp only [rbType, hsc, Bool.not_true, hu, assert, Bool.not_false, Bool.and_true]
    cases a.debug <;> rfl
  · simp only [dynamicSymP, symbolP, hsc, Bool.not_true, Bool.false_eq_true, if_false]
    show Except.ok false = Except.ok (_ && _)
    rw [Bool.and_not_self]

end Accessors

/-! ### Every word of a release -/

/-- The type tests of every release agree with the type, in either build and whatever memory
holds. On every word that is not an unknown immediate, `typeP` at each type, the symbol test and
the float test ask whether the type is that type, and the integer test whether the word is a
fixnum or the type is the bignum type; each fails exactly when reading the type fails. On every
word, a dynamic symbol is a symbol that is not static. An unknown immediate has no type by
`typeP`, while the plain build's `rbType` takes it for a float and the debug build refuses it. -/
theorem type_tests_agree (r : Release) (debug : Bool) (m : Memory) (v : Value) :
    (Accessors.mk r debug).dynamicSymP m v =
        (fun b ↦ b && !r.facts.isStaticSymbol v) <$> (Accessors.mk r debug).symbolP m v ∧
    (r.facts.isKind v .unknownImmediate = false →
      (∀ t, (Accessors.mk r debug).typeP m v t =
        (· == t) <$> (Accessors.mk r debug).rbType m v) ∧
      (Accessors.mk r debug).symbolP m v =
        (· == TypeCode.symbol) <$> (Accessors.mk r debug).rbType m v ∧
      (Accessors.mk r debug).floatTypeP m v =
        (· == TypeCode.float) <$> (Accessors.mk r debug).rbType m v ∧
      (Accessors.mk r debug).integerTypeP m v =
        (fun u ↦ r.facts.isFixnum v || u == TypeCode.bignum) <$>
          (Accessors.mk r debug).rbType m v) ∧
    (r.facts.isKind v .unknownImmediate = true →
      (∀ t, (Accessors.mk r debug).typeP m v t = .ok false) ∧
      (Accessors.mk r false).rbType m v = .ok TypeCode.float ∧
      (Accessors.mk r true).rbType m v =
        .error (.precondition "RBType" v "flonum" "unknown immediate")) := by
  obtain ⟨k, hk⟩ := Release.exists_isKind r v
  have hone : ∀ k', r.facts.isKind v k' = true → k' = k :=
    fun k' hk' ↦ Release.isKind_unique r hk' hk
  have htag := Facts.isKind_eq_beq hone hk
  by_cases hheap : k = .heap
  · subst hheap
    have hsc : r.facts.isSpecialConst v = false := by simpa [Facts.isKind] using hk
    obtain ⟨htp, hsym, hflo, hint, hdyn⟩ := Accessors.tests_of_heap (Accessors.mk r debug) m hsc
      (htag .fixnum) (htag .staticSymbol)
    exact ⟨hdyn, fun _ ↦ ⟨htp, hsym, hflo, hint⟩, fun hu ↦ absurd (htag .unknownImmediate ▸ hu)
      (by decide)⟩
  · have hsc : r.facts.isSpecialConst v = true := by
      have h0 : r.facts.isKind v .heap = false := by
        rw [htag .heap]
        exact beq_false_of_ne (Ne.symm hheap)
      simpa [Facts.isKind] using h0
    have hu := Facts.immediateType?_eq_of_isKind hone hk hheap
    by_cases hunknown : k = .unknownImmediate
    · subst hunknown
      have h := fun debug' ↦ Accessors.tests_of_unknown (Accessors.mk r debug') m hsc hu
      exact ⟨(h debug).2.2, fun hno ↦ absurd (htag .unknownImmediate ▸ hno) (by decide),
        fun _ ↦ ⟨(h debug).1, (h false).2.1, (h true).2.1⟩⟩
    · obtain ⟨u, hku⟩ := WordKind.exists_typeCode? hheap hunknown
      obtain ⟨hs, hf, hb⟩ := WordKind.tags_of_typeCode? hku
      obtain ⟨-, htp, hsym, hflo, hint, hdyn⟩ := Accessors.tests_of_immediate
        (Accessors.mk r debug) m hsc (hu.trans hku) ((htag .staticSymbol).trans hs)
        ((htag .flonum).trans hf) hb
      exact ⟨hdyn, fun _ ↦ ⟨htp, hsym, hflo, hint⟩,
        fun hyes ↦ absurd (hone _ hyes) (Ne.symm hunknown)⟩

/-- `0x2c` carries an immediate tag of 3.3 that no test recognizes: the plain build calls it a
float, and `typeP` denies it that type. -/
example : (Accessors.mk .v33 false).rbType ⟨0, 0, .empty⟩ 0x2c = .ok TypeCode.float ∧
    (Accessors.mk .v33 false).typeP ⟨0, 0, .empty⟩ 0x2c TypeCode.float = .ok false :=
  ⟨rfl, rfl⟩

end RubyLayout
