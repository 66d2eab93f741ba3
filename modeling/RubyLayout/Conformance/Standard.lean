import RubyLayout.Conformance.Case

/-!
# The standard corpus

The corpus every layout is checked against when no other is given: the four special constants;
zero, a negative fixnum and both fixnum edges; one past each fixnum edge, both C long edges and
a bignum of 39 digits; an immediate, a zero and a heap float; strings that are empty, short,
interned, frozen, at and one past the embedding capacity, large and short but out of line;
arrays of the same shapes; a static and a dynamic symbol; an empty hash; a plain and a frozen
object; untyped data; typed data with its payload embedded and behind a pointer.

Floats are written as their binary64 patterns: 1.5, 0 and 1e300.
-/

set_option autoImplicit false

namespace RubyLayout.Conformance

/-- The cases of the standard corpus, in order. -/
def standardCases : List Case :=
  [{ name := "special/nil", kind := "special", text := "nil" },
   { name := "special/true", kind := "special", text := "true" },
   { name := "special/false", kind := "special", text := "false" },
   { name := "special/undef", kind := "special", text := "undef" },
   { name := "fixnum/zero", kind := "fixnum", int := 0 },
   { name := "fixnum/negative", kind := "fixnum", int := (-12345) },
   { name := "fixnum/max", kind := "fixnum", bound := "fixnum-max" },
   { name := "fixnum/min", kind := "fixnum", bound := "fixnum-min" },
   { name := "bignum/above-fixnum-max", kind := "bignum", bound := "fixnum-max", offset := 1 },
   { name := "bignum/below-fixnum-min", kind := "bignum", bound := "fixnum-min", offset := (-1) },
   { name := "bignum/long-max", kind := "bignum", bound := "long-max" },
   { name := "bignum/long-min", kind := "bignum", bound := "long-min" },
   { name := "bignum/huge", kind := "bignum", text := "123456789012345678901234567890123456789" },
   { name := "float/flonum", kind := "float", float := 0x3ff8000000000000 },
   { name := "float/zero", kind := "float", float := 0x0000000000000000 },
   { name := "float/heap", kind := "float", float := 0x7e37e43c8800759c },
   { name := "string/empty", kind := "string", length := 0 },
   { name := "string/one", kind := "string", text := "x" },
   { name := "string/literal", kind := "string", text := "foo" },
   { name := "string/interned", kind := "string", text := "frozen literal", interned := true },
   { name := "string/frozen", kind := "string", text := "ice", frozen := true },
   { name := "string/at-capacity", kind := "string", bound := "capacity" },
   { name := "string/past-capacity", kind := "string", bound := "capacity", offset := 1 },
   { name := "string/large", kind := "string", length := 100000 },
   { name := "string/short-heap", kind := "string", text := "out of line", heap := true },
   { name := "array/empty", kind := "array", length := 0 },
   { name := "array/three", kind := "array", length := 3 },
   { name := "array/at-capacity", kind := "array", bound := "capacity" },
   { name := "array/past-capacity", kind := "array", bound := "capacity", offset := 1 },
   { name := "array/thousand", kind := "array", length := 1000 },
   { name := "array/short-heap", kind := "array", length := 2, heap := true },
   { name := "symbol/static", kind := "symbol", text := "each_with_object" },
   { name := "symbol/dynamic", kind := "dsymbol", text := "made at runtime" },
   { name := "hash/empty", kind := "hash" },
   { name := "object/plain", kind := "object" },
   { name := "object/frozen", kind := "object", frozen := true },
   { name := "data/untyped", kind := "data" },
   { name := "typeddata/embedded", kind := "typeddata", text := "inline payload" },
   { name := "typeddata/wrapped", kind := "typeddata", text := "payload behind a pointer",
     heap := true }]

/-- The standard corpus. -/
def Corpus.standard : Corpus := ⟨standardCases⟩

theorem standard_length : Corpus.standard.cases.length = 39 := by decide

end RubyLayout.Conformance
