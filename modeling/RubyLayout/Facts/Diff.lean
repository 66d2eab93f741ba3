import RubyLayout.Facts.Binary

/-!
# Differences between layout facts

Two sets of facts are compared field by field, in published order, and every field that
differs is listed as `Path: a != b` with both values in decimal (or `true`/`false`). Facts with
the same fingerprint are taken as equal and have no differences.

Main statement: `diff_self`, facts never differ from themselves.
-/

set_option autoImplicit false

namespace RubyLayout

/-- One differing field, written `Path: a != b`. -/
def FactEntry.difference (x y : FactEntry) : Option String :=
  if x.value = y.value then none
  else some (x.path ++ ": " ++ x.value.text ++ " != " ++ y.value.text)

/-- The fields in which `b` differs from `a`, none when their fingerprints agree. -/
def Facts.diff (a b : Facts) : List String :=
  if a.fingerprint = b.fingerprint then []
  else (a.entries.zip b.entries).filterMap fun p => p.1.difference p.2

theorem diff_self (f : Facts) : f.diff f = [] := by
  simp [Facts.diff]

end RubyLayout
