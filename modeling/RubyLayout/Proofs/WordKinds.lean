import RubyLayout.Api.Access
import RubyLayout.Proofs.Bits

/-!
# The kinds of words

A word of the interpreter is a heap reference, one of the four special constants (`false`,
`nil`, `true`, the undefined marker), a fixnum, a static symbol, a flonum, or an immediate
that no tag recognizes. `Facts.isKind` states each kind by the library's own tests, and this
module proves that for every release and every 64-bit word exactly one kind holds
(`word_kinds_partition`). The other tests then follow from the kind alone: a word is a
special constant exactly when it is not a heap reference, it is falsy exactly when it is
`false` or `nil`, it is frozen whatever memory holds, and the type of a recognized immediate
is its kind's type whatever order the type test tries the tags in.

The argument has three steps. Each tag test of a release reads the word's number modulo a
power of two, or compares it with a constant (`isFixnum_iff`, `isStaticSymbol_iff`, …), so
each kind is a residue class `kindClass`, and two classes never meet (`kindClass_unique`).
That some kind holds needs only that no word but `false` and `nil` is falsy
(`exists_isKind`). Everything said about the type test and the frozen test is derived from
the partition, for any facts (`immediateType?_eq_of_isKind`, `frozenP_of_isSpecialConst`).
-/

set_option autoImplicit false
set_option relaxedAutoImplicit false

namespace RubyLayout

/-- The kinds of words, in the order the type test tries them. -/
inductive WordKind where
  | heap
  | qfalse
  | nil
  | qtrue
  | undef
  | fixnum
  | staticSymbol
  | flonum
  | unknownImmediate
deriving DecidableEq, Repr

/-- The type of a kind that the tags recognize; none for heap references and unknown
immediates. -/
def WordKind.typeCode? : WordKind → Option TypeCode
  | .qfalse => some TypeCode.false
  | .nil => some TypeCode.nil
  | .qtrue => some TypeCode.true
  | .undef => some TypeCode.undef
  | .fixnum => some TypeCode.fixnum
  | .staticSymbol => some TypeCode.symbol
  | .flonum => some TypeCode.float
  | .heap | .unknownImmediate => none

/-- The special constants and tags every release shares, with `nil` at `qnil` and the
undefined marker at `qundef`. -/
def Release.commonSpecials (qnil qundef : UInt64) : Specials :=
  { qfalse := 0, qtrue := 0x14, qnil := qnil, qundef := qundef, immediateMask := 7,
    fixnumFlag := 1, flonumMask := 3, flonumFlag := 2, symbolFlag := 0xc, specialShift := 8 }

namespace Facts

/-- Whether one of the tags from `false` to the flonum tag recognizes the word. -/
def isTagged (f : Facts) (v : Value) : Bool :=
  v == f.specials.qfalse || f.isNil v || v == f.specials.qtrue || v == f.specials.qundef ||
    f.isFixnum v || f.isStaticSymbol v || f.isFlonum v

/-- Whether a word is of a kind, by the library's tests. -/
def isKind (f : Facts) (v : Value) : WordKind → Bool
  | .heap => !f.isSpecialConst v
  | .qfalse => v == f.specials.qfalse
  | .nil => f.isNil v
  | .qtrue => v == f.specials.qtrue
  | .undef => v == f.specials.qundef
  | .fixnum => f.isFixnum v
  | .staticSymbol => f.isStaticSymbol v
  | .flonum => f.isFlonum v
  | .unknownImmediate => f.isImmediate v && !f.isTagged v

/-! ### Some kind holds -/

/-- Some kind holds of a word, as soon as `false` and `nil` are the only falsy words. -/
theorem exists_isKind {f : Facts} {v : Value}
    (hfalsy : f.truthy v = false → v = f.specials.qfalse ∨ v = f.specials.qnil) :
    ∃ k, f.isKind v k = true := by
  by_cases hsc : f.isSpecialConst v = true
  · by_cases htag : f.isTagged v = true
    · simp only [isTagged, Bool.or_eq_true] at htag
      rcases htag with ((((((h | h) | h) | h) | h) | h) | h)
      · exact ⟨.qfalse, h⟩
      · exact ⟨.nil, h⟩
      · exact ⟨.qtrue, h⟩
      · exact ⟨.undef, h⟩
      · exact ⟨.fixnum, h⟩
      · exact ⟨.staticSymbol, h⟩
      · exact ⟨.flonum, h⟩
    · have himm : f.isImmediate v = true := by
        cases hi : f.isImmediate v
        · have hf : f.truthy v = false := by
            simpa [isSpecialConst, hi] using hsc
          rcases hfalsy hf with h | h
          · exact absurd (by simp [isTagged, h]) htag
          · exact absurd (by simp [isTagged, isNil, h]) htag
        · rfl
      exact ⟨.unknownImmediate, by simp [isKind, himm, htag]⟩
  · exact ⟨.heap, by simpa [isKind] using hsc⟩

/-! ### The tags of the releases as residue classes -/

section Tags

variable {f : Facts} {n u : UInt64}

theorem isFixnum_iff (hs : f.specials = Release.commonSpecials n u) (v : Value) :
    f.isFixnum v = true ↔ v.toNat % 2 ≠ 0 := by
  rw [isFixnum, hs, bne_iff_ne, ne_eq, Bits.and_lowMask_eq_iff (k := 1) (by rfl)]
  rfl

theorem isImmediate_iff (hs : f.specials = Release.commonSpecials n u) (v : Value) :
    f.isImmediate v = true ↔ v.toNat % 8 ≠ 0 := by
  rw [isImmediate, hs, bne_iff_ne, ne_eq, Bits.and_lowMask_eq_iff (k := 3) (by rfl)]
  rfl

/-- On the common specials, whose shift of eight makes the mask of the low byte, a static symbol
is a word whose low byte is 12. -/
theorem isStaticSymbol_iff (hs : f.specials = Release.commonSpecials n u) (v : Value) :
    f.isStaticSymbol v = true ↔ v.toNat % 256 = 12 := by
  have hmask : f.symbolTagMask = 0xff := by
    rw [symbolTagMask, hs]
    simp only [Release.commonSpecials]
    decide
  rw [isStaticSymbol, hmask, hs, beq_iff_eq, Bits.and_lowMask_eq_iff (k := 8) (by rfl)]
  rfl

theorem isFlonum_iff (hs : f.specials = Release.commonSpecials n u) (hfl : f.flonum = true)
    (v : Value) : f.isFlonum v = true ↔ v.toNat % 4 = 2 := by
  rw [isFlonum, hfl, hs, Bool.true_and, beq_iff_eq,
    Bits.and_lowMask_eq_iff (k := 2) (by rfl)]
  rfl

/-- With `nil` a single bit, the falsy words are `false` (zero) and `nil`. -/
theorem truthy_eq_false_iff (hs : f.specials = Release.commonSpecials n u) {j : Nat}
    (hj : j < 64) (hn : n.toNat = 2 ^ j) (v : Value) :
    f.truthy v = false ↔ v.toNat = 0 ∨ v.toNat = n.toNat := by
  rw [truthy, hs, bne_eq_false_iff_eq]
  simp only [Release.commonSpecials]
  rw [Bits.and_not_twoPow_eq_zero_iff v hj hn, ← UInt64.toNat_inj, ← UInt64.toNat_inj]
  rfl

/-- Each kind as a class of the word's number `x`, with `nil` at `N` and the undefined
marker at `U`. -/
def kindClass (N U x : Nat) : WordKind → Prop
  | .heap => x % 8 = 0 ∧ x ≠ 0 ∧ x ≠ N
  | .qfalse => x = 0
  | .nil => x = N
  | .qtrue => x = 20
  | .undef => x = U
  | .fixnum => x % 2 = 1
  | .staticSymbol => x % 256 = 12
  | .flonum => x % 4 = 2
  | .unknownImmediate => x % 8 ≠ 0 ∧ x ≠ 0 ∧ x ≠ N ∧ x ≠ 20 ∧ x ≠ U ∧ x % 2 = 0 ∧
      x % 256 ≠ 12 ∧ x % 4 ≠ 2

theorem isKind_iff_kindClass (hs : f.specials = Release.commonSpecials n u)
    (hfl : f.flonum = true) {j : Nat} (hj : j < 64) (hn : n.toNat = 2 ^ j) (v : Value)
    (k : WordKind) : f.isKind v k = true ↔ kindClass n.toNat u.toNat v.toNat k := by
  have hq : f.specials.qfalse.toNat = 0 ∧ f.specials.qnil = n ∧
      f.specials.qtrue.toNat = 20 ∧ f.specials.qundef = u := by
    rw [hs]
    exact ⟨rfl, rfl, rfl, rfl⟩
  have htruthy : f.truthy v = true ↔ ¬ (v.toNat = 0 ∨ v.toNat = n.toNat) := by
    rw [← truthy_eq_false_iff hs hj hn v]
    simp
  cases k <;> simp only [isKind, kindClass, isSpecialConst, isTagged, isNil, Bool.not_or,
    Bool.and_eq_true, Bool.not_eq_eq_eq_not, Bool.not_true, ← Bool.not_eq_true,
    Bits.beq_iff_toNat, isFixnum_iff hs, isImmediate_iff hs, isStaticSymbol_iff hs,
    isFlonum_iff hs hfl, htruthy, hq.1, hq.2.1, hq.2.2.1, hq.2.2.2, ne_eq, Classical.not_not,
    not_or, Nat.mod_two_ne_zero, Nat.mod_two_ne_one, and_assoc]

/-- Two residue classes of the releases' tags never meet. -/
theorem kindClass_unique {N U x : Nat} (hNU : N = 8 ∧ U = 52 ∨ N = 4 ∧ U = 36)
    {k k' : WordKind} (hk : kindClass N U x k) (hk' : kindClass N U x k') : k = k' := by
  rcases hNU with ⟨rfl, rfl⟩ | ⟨rfl, rfl⟩ <;>
    cases k <;> cases k' <;> simp only [kindClass] at hk hk' <;> first | rfl | omega

end Tags

end Facts

namespace Release

/-- Every release shares the tags, with `nil` and the undefined marker at `0x08` and `0x34`
up to 3.2 and at `0x04` and `0x24` from 3.3. -/
theorem specials_eq (r : Release) : ∃ n u, r.facts.specials = commonSpecials n u ∧
    (n.toNat = 8 ∧ u.toNat = 52 ∨ n.toNat = 4 ∧ u.toNat = 36) := by
  cases r
  case v27 | v30 | v31 | v32 => exact ⟨8, 0x34, rfl, Or.inl ⟨rfl, rfl⟩⟩
  case v33 | v34 | v40 => exact ⟨4, 0x24, rfl, Or.inr ⟨rfl, rfl⟩⟩

theorem facts_flonum (r : Release) : r.facts.flonum = true := by
  cases r <;> rfl

/-- The kinds of a release's words are residue classes of their numbers. -/
theorem exists_kindClass (r : Release) : ∃ N U, (N = 8 ∧ U = 52 ∨ N = 4 ∧ U = 36) ∧
    ∀ v k, r.facts.isKind v k = true ↔ Facts.kindClass N U v.toNat k := by
  obtain ⟨n, u, hs, hnu⟩ := specials_eq r
  refine ⟨n.toNat, u.toNat, hnu, fun v k ↦ ?_⟩
  rcases hnu with ⟨hn, -⟩ | ⟨hn, -⟩
  · exact Facts.isKind_iff_kindClass hs (facts_flonum r) (j := 3) (by decide) hn v k
  · exact Facts.isKind_iff_kindClass hs (facts_flonum r) (j := 2) (by decide) hn v k

/-- A word of a release has at most one kind. -/
theorem isKind_unique (r : Release) {v : Value} {k k' : WordKind}
    (hk : r.facts.isKind v k = true) (hk' : r.facts.isKind v k' = true) : k = k' := by
  obtain ⟨N, U, hNU, hclass⟩ := exists_kindClass r
  exact Facts.kindClass_unique hNU ((hclass v k).mp hk) ((hclass v k').mp hk')

/-- The falsy words of a release are `false` and `nil`. -/
theorem truthy_eq_false_iff (r : Release) (v : Value) :
    r.facts.truthy v = false ↔
      r.facts.isKind v .qfalse = true ∨ r.facts.isKind v .nil = true := by
  obtain ⟨n, u, hs, hnu⟩ := specials_eq r
  have hq : r.facts.specials.qfalse.toNat = 0 ∧ r.facts.specials.qnil = n := by
    rw [hs]
    exact ⟨rfl, rfl⟩
  have hfalsy : r.facts.truthy v = false ↔ v.toNat = 0 ∨ v.toNat = n.toNat := by
    rcases hnu with ⟨hn, -⟩ | ⟨hn, -⟩
    · exact Facts.truthy_eq_false_iff hs (j := 3) (by decide) hn v
    · exact Facts.truthy_eq_false_iff hs (j := 2) (by decide) hn v
  rw [hfalsy]
  simp only [Facts.isKind, Facts.isNil, Bits.beq_iff_toNat, hq.1, hq.2]

end Release

/-! ### What one kind per word gives, for any facts -/

namespace Facts

section Consequences

variable {f : Facts} {v : Value} {k : WordKind}

/-- Of a word with exactly one kind, the special constants are the words of every kind but a
heap reference. -/
theorem isSpecialConst_iff_exists (hpart : ∃! k, f.isKind v k = true) :
    f.isSpecialConst v = true ↔ ∃ k, k ≠ .heap ∧ f.isKind v k = true := by
  obtain ⟨k, hk, hone⟩ := hpart
  constructor
  · intro hsc
    refine ⟨k, ?_, hk⟩
    rintro rfl
    simp [isKind, hsc] at hk
  · rintro ⟨k', hne, hk'⟩
    cases hsc : f.isSpecialConst v
    · have hheap : f.isKind v .heap = true := by simp [isKind, hsc]
      exact absurd ((hone k' hk').trans (hone .heap hheap).symm) hne
    · rfl

/-- The type test's tags recognize a word of a recognized kind as that kind, whatever the
order they are tried in: no earlier tag can hold. -/
theorem immediateType?_eq_of_isKind (hone : ∀ k', f.isKind v k' = true → k' = k)
    (hk : f.isKind v k = true) (hheap : k ≠ .heap) : f.immediateType? v = k.typeCode? := by
  unfold immediateType?
  split_ifs with h₁ h₂ h₃ h₄ h₅ h₆ h₇
  · rw [← hone .qfalse h₁]; rfl
  · rw [← hone .nil h₂]; rfl
  · rw [← hone .qtrue h₃]; rfl
  · rw [← hone .undef h₄]; rfl
  · rw [← hone .fixnum h₅]; rfl
  · rw [← hone .staticSymbol h₆]; rfl
  · rw [← hone .flonum h₇]; rfl
  · cases k
    case heap => exact absurd rfl hheap
    case qfalse => exact absurd hk h₁
    case nil => exact absurd hk h₂
    case qtrue => exact absurd hk h₃
    case undef => exact absurd hk h₄
    case fixnum => exact absurd hk h₅
    case staticSymbol => exact absurd hk h₆
    case flonum => exact absurd hk h₇
    case unknownImmediate => rfl

end Consequences

end Facts

namespace Accessors

variable {v : Value} {k : WordKind}

/-- A word of a recognized kind has its kind's type, in either build. -/
theorem rbType_of_isKind (a : Accessors) (m : Memory) {t : TypeCode}
    (hone : ∀ k', a.layout.isKind v k' = true → k' = k) (hk : a.layout.isKind v k = true)
    (ht : k.typeCode? = some t) : a.rbType m v = .ok t := by
  have hheap : k ≠ .heap := by
    rintro rfl
    cases ht
  have hsc : a.layout.isSpecialConst v = true := by
    cases hsc : a.layout.isSpecialConst v
    · exact absurd (hone .heap (by simp [Facts.isKind, hsc])) (Ne.symm hheap)
    · rfl
  simp only [rbType, hsc, Bool.not_true, Facts.immediateType?_eq_of_isKind hone hk hheap, ht]
  rfl

/-- A special constant is frozen, whatever the memory holds. -/
theorem frozenP_of_isSpecialConst (a : Accessors) (m : Memory)
    (hsc : a.layout.isSpecialConst v = true) : a.frozenP m v = .ok true := by
  simp only [frozenP, hsc, if_true]
  rfl

end Accessors

/-- For every release and every word exactly one kind holds. The word is a special constant
exactly when it is not a heap reference, and falsy exactly when it is `false` or `nil`. A
word that is not a heap reference is frozen whatever the memory holds, and a recognized
immediate has its kind's type in either build. -/
theorem word_kinds_partition (r : Release) (v : Value) :
    (∃! k, r.facts.isKind v k = true) ∧
    (r.facts.isSpecialConst v = true ↔ ∃ k, k ≠ .heap ∧ r.facts.isKind v k = true) ∧
    (r.facts.truthy v = false ↔
      r.facts.isKind v .qfalse = true ∨ r.facts.isKind v .nil = true) ∧
    (∀ (debug : Bool) (m : Memory), r.facts.isKind v .heap = false →
      (Accessors.mk r debug).frozenP m v = .ok true) ∧
    (∀ (debug : Bool) (m : Memory) (k : WordKind) (t : TypeCode),
      r.facts.isKind v k = true → k.typeCode? = some t →
        (Accessors.mk r debug).rbType m v = .ok t) := by
  have hfalsy : r.facts.truthy v = false →
      v = r.facts.specials.qfalse ∨ v = r.facts.specials.qnil := by
    intro hf
    rcases (Release.truthy_eq_false_iff r v).mp hf with h | h
    · exact Or.inl (beq_iff_eq.mp h)
    · exact Or.inr (beq_iff_eq.mp h)
  obtain ⟨k, hk⟩ := Facts.exists_isKind hfalsy
  have hpart : ∃! k, r.facts.isKind v k = true :=
    ⟨k, hk, fun k' hk' ↦ Release.isKind_unique r hk' hk⟩
  refine ⟨hpart, Facts.isSpecialConst_iff_exists hpart, Release.truthy_eq_false_iff r v,
    ?_, ?_⟩
  · intro debug m hheap
    apply Accessors.frozenP_of_isSpecialConst
    simpa [Facts.isKind, Accessors.layout] using hheap
  · intro debug m k' t hk' ht
    exact Accessors.rbType_of_isKind ⟨r, debug⟩ m
      (fun k'' hk'' ↦ Release.isKind_unique r hk'' hk') hk' ht

end RubyLayout
