import RubyLayout.Api.Basic
import RubyLayout.Proofs.Decoders

/-!
# Questions put to a value

Most of what an extension asks of a value goes through an accessor that takes the value, and
possibly an index or a type, and reads the word and the memory behind it. `Query α` lists those
accessors, each with the type `α` of its answer, so that statements about all of them (what the
checked tier verifies before each, what building keeps of each) quantify over one type:

* `Query.name` is the accessor's name, the operation a violated precondition reports;
* `Query.ask` is the answer of an accessor set, through its tier where the accessor has a
  checked form and directly where it is forwarded as it is.

A failed call reports a violated precondition, or fails in the heap, or refuses a view.
`Access.violation` reads off which operation and value a failure reports as violating a
precondition, and `Access.violation_plain` shows that the plain build never reports one: every
failure of its accessors is a memory fault.
-/

set_option autoImplicit false
set_option relaxedAutoImplicit false

namespace RubyLayout

/-! ### Reported violations -/

/-- The operation and value a failure reports as violating a precondition. -/
def AccessError.violation : AccessError → Option (String × Value)
  | .precondition op v _ _ => some (op, v)
  | _ => none

/-- The operation and value whose precondition an accessor outcome reports as violated. -/
def Access.violation {α : Type} : Access α → Option (String × Value)
  | .ok _ => none
  | .error e => e.violation

namespace Access

@[simp] theorem violation_ok {α : Type} (a : α) : violation (.ok a : Access α) = none := rfl

@[simp] theorem violation_error {α : Type} (e : AccessError) :
    violation (.error e : Access α) = e.violation := rfl

@[simp] theorem violation_precondition (op : String) (v : Value) (want got : String) :
    (AccessError.precondition op v want got).violation = some (op, v) := rfl

@[simp] theorem violation_heap (e : HeapError) : (AccessError.heap e).violation = none := rfl

@[simp] theorem violation_pure {α : Type} (a : α) : violation (pure a : Access α) = none := rfl

@[simp] theorem error_bind {α β : Type} (e : AccessError) (f : α → Access β) :
    (Except.error e >>= f) = .error e := rfl

/-- A failure of the first step is the failure of the whole call. -/
theorem violation_bind {α β : Type} (x : Access α) (f : α → Access β) :
    violation (x >>= f) = match x with
      | .ok a => violation (f a)
      | .error e => e.violation := by
  cases x <;> rfl

/-- A call whose first step reports a violation reports it. -/
theorem violation_bind_of_some {α β : Type} {x : Access α} {p : String × Value}
    (hx : violation x = some p) (f : α → Access β) : violation (x >>= f) = some p := by
  rw [violation_bind]
  cases x with
  | ok a => cases hx
  | error e => exact hx

/-- A call reports no violation when no step of it does. -/
theorem violation_bind_eq_none {α β : Type} {x : Access α} {f : α → Access β}
    (hx : violation x = none) (hf : ∀ a, violation (f a) = none) : violation (x >>= f) = none := by
  rw [violation_bind]
  cases x with
  | ok a => exact hf a
  | error e => exact hx

@[simp] theorem violation_map {α β : Type} (g : α → β) (x : Access α) :
    violation (g <$> x) = violation x := by
  cases x <;> rfl

@[simp] theorem violation_ite {α : Type} (c : Prop) [Decidable c] (x y : Access α) :
    violation (if c then x else y) = if c then violation x else violation y := by
  split <;> rfl

/-- A memory read fails only by faulting. -/
@[simp] theorem violation_wordAt (m : Memory) (a : UInt64) : violation (m.wordAt a) = none := by
  unfold Memory.wordAt
  split <;> rfl

end Access

/-! ### The accessors that read a value -/

/-- An accessor that is asked about a value, with the type of its answer: the type tests, the
header, bignum, string, array, fixnum and typed-data accessors. -/
inductive Query : Type → Type where
  | rbType : Query TypeCode
  | typeP (t : TypeCode) : Query Bool
  | symbolP : Query Bool
  | dynamicSymP : Query Bool
  | floatTypeP : Query Bool
  | integerTypeP : Query Bool
  | frozenP : Query Bool
  | builtinType : Query TypeCode
  | basicClass : Query (Value × Bool)
  | bignumPositiveP : Query Bool
  | bignumNegativeP : Query Bool
  | stringLength : Query Int
  | stringPtr : Query UInt64
  | stringInternedP : Query Bool
  | arrayLength : Query Int
  | arrayPtr : Query UInt64
  | arrayRef (i : Int) : Query Value
  | fixToLong : Query Int
  | fixToULong : Query UInt64
  | typedDataP : Query Bool
  | typedDataEmbeddedP : Query Bool
  | typedDataType : Query UInt64
  | typedDataGetData : Query UInt64

namespace Query

/-- The name of the accessor, which its violated preconditions report. -/
def name {α : Type} : Query α → String
  | .rbType => "RBType"
  | .typeP _ => "TypeP"
  | .symbolP => "SymbolP"
  | .dynamicSymP => "DynamicSymP"
  | .floatTypeP => "FloatTypeP"
  | .integerTypeP => "IntegerTypeP"
  | .frozenP => "FrozenP"
  | .builtinType => "BuiltinType"
  | .basicClass => "RBasicClass"
  | .bignumPositiveP => "BignumPositiveP"
  | .bignumNegativeP => "BignumNegativeP"
  | .stringLength => "RStringLen"
  | .stringPtr => "RStringPtr"
  | .stringInternedP => "RStringInternedP"
  | .arrayLength => "RArrayLen"
  | .arrayPtr => "RArrayConstPtr"
  | .arrayRef _ => "RArrayAref"
  | .fixToLong => "Fix2Long"
  | .fixToULong => "Fix2ULong"
  | .typedDataP => "RTypedDataP"
  | .typedDataEmbeddedP => "RTypedDataEmbeddedP"
  | .typedDataType => "RTypedDataType"
  | .typedDataGetData => "RTypedDataGetData"

/-- The answer of the accessors `a` of one build about `v` over the memory `m`. -/
def read {α : Type} (a : Accessors) (m : Memory) (v : Value) : Query α → Access α
  | .rbType => a.rbType m v
  | .typeP t => a.typeP m v t
  | .symbolP => a.symbolP m v
  | .dynamicSymP => a.dynamicSymP m v
  | .floatTypeP => a.floatTypeP m v
  | .integerTypeP => a.integerTypeP m v
  | .frozenP => a.frozenP m v
  | .builtinType => a.builtinType m v
  | .basicClass => a.basicClass m v
  | .bignumPositiveP => a.bignumPositiveP m v
  | .bignumNegativeP => a.bignumNegativeP m v
  | .stringLength => a.stringLength m v
  | .stringPtr => a.stringPtr m v
  | .stringInternedP => a.stringInternedP m v
  | .arrayLength => a.arrayLength m v
  | .arrayPtr => a.arrayPtr m v
  | .arrayRef i => a.arrayRef m v i
  | .fixToLong => a.fixToLong v
  | .fixToULong => a.fixToULong v
  | .typedDataP => a.typedDataP m v
  | .typedDataEmbeddedP => a.typedDataEmbeddedP m v
  | .typedDataType => a.typedDataType m v
  | .typedDataGetData => a.typedDataGetData m v

/-- The answer of an accessor set about `v` over the memory `m`: through the tier for the
accessors that have a checked form, directly for the type tests, which are forwarded. -/
def ask {α : Type} (api : Api) (m : Memory) (v : Value) : Query α → Access α
  | .rbType => api.raw.rbType m v
  | .typeP t => api.raw.typeP m v t
  | .symbolP => api.raw.symbolP m v
  | .dynamicSymP => api.raw.dynamicSymP m v
  | .floatTypeP => api.raw.floatTypeP m v
  | .integerTypeP => api.raw.integerTypeP m v
  | .frozenP => api.raw.frozenP m v
  | .builtinType => api.builtinType m v
  | .basicClass => api.basicClass m v
  | .bignumPositiveP => api.bignumPositiveP m v
  | .bignumNegativeP => api.bignumNegativeP m v
  | .stringLength => api.stringLength m v
  | .stringPtr => api.stringPtr m v
  | .stringInternedP => api.stringInternedP m v
  | .arrayLength => api.arrayLength m v
  | .arrayPtr => api.arrayPtr m v
  | .arrayRef i => api.arrayRef m v i
  | .fixToLong => api.fixToLong m v
  | .fixToULong => api.fixToULong m v
  | .typedDataP => api.typedDataP m v
  | .typedDataEmbeddedP => api.typedDataEmbeddedP m v
  | .typedDataType => api.typedDataType m v
  | .typedDataGetData => api.typedDataGetData m v

/-- Without the checked tier an accessor set answers with the accessors of its build. -/
theorem ask_unchecked {α : Type} (r : Release) (debug : Bool) (q : Query α) (m : Memory)
    (v : Value) : q.ask (Api.ofRelease r debug .unchecked) m v = q.read ⟨r, debug⟩ m v := by
  cases q <;> rfl

/-- The plain build verifies nothing: every failure of its accessors is a memory fault. -/
theorem violation_plain {α : Type} (r : Release) (q : Query α) (m : Memory) (v : Value) :
    Access.violation (q.read ⟨r, false⟩ m v) = none := by
  cases q <;> simp [read, Accessors.layout, Accessors.rbType, Accessors.typeP, Accessors.symbolP,
    Accessors.dynamicSymP, Accessors.floatTypeP, Accessors.integerTypeP, Accessors.frozenP,
    Accessors.builtinType, Accessors.basicClass, Accessors.bignumPositiveP,
    Accessors.bignumNegativeP, Accessors.stringLength, Accessors.stringPtr,
    Accessors.stringInternedP, Accessors.arrayLength, Accessors.arrayPtr, Accessors.arrayRef,
    Accessors.fixToLong, Accessors.fixToULong, Accessors.typedDataP,
    Accessors.typedDataEmbeddedP, Accessors.typedDataType, Accessors.typedDataGetData,
    Accessors.assertType, Accessors.assertHeap, Accessors.assert, Accessors.flags,
    Accessors.flagsWord, Accessors.longAt, Access.violation_bind_eq_none] <;>
  split <;> simp [Access.violation_bind_eq_none]

end Query

end RubyLayout
