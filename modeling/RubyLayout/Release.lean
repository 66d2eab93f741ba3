import RubyLayout.LayoutConsts

/-!
# Layout releases

Seven interpreter releases have a layout of their own: 2.7, 3.0, 3.1, 3.2, 3.3, 3.4 and 4.0,
all for 64-bit words with immediate floats. `Release.consts` gives each one's layout constants
and `Release.facts` the facts it publishes from them. The releases differ in three ways that
the accessors follow:

* up to 3.1 an inline string keeps its length in the flags word, from 3.2 in a field, and
  from 3.3 every string keeps it in the same field;
* from 3.0 strings have an interned flag;
* from 3.3 typed data can embed its payload; 3.3 and 3.4 mark typed data with a marker word,
  4.0 with a header flag and a tag bit in the type pointer.

`Release.lookup` finds the release of a version and otherwise says why there is none, naming the
oldest or the newest release, the first and the last of `Release.all`.

Main statements: `ofVersion?_version` (every release is found by its version) and
`versions_sorted` (the releases are listed in increasing version order).
-/

set_option autoImplicit false

namespace RubyLayout

/-- A release with a layout of its own. -/
inductive Release where
  | v27 | v30 | v31 | v32 | v33 | v34 | v40
deriving DecidableEq, Repr, Inhabited

namespace Release

/-- All releases, oldest first. -/
def all : List Release := [.v27, .v30, .v31, .v32, .v33, .v34, .v40]

/-- The version of a release. -/
def version : Release → Version
  | .v27 => ⟨2, 7⟩
  | .v30 => ⟨3, 0⟩
  | .v31 => ⟨3, 1⟩
  | .v32 => ⟨3, 2⟩
  | .v33 => ⟨3, 3⟩
  | .v34 => ⟨3, 4⟩
  | .v40 => ⟨4, 0⟩

/-- The release the library answers for when none is named. -/
def standard : Release := .v34


/-- The release of a version, if it has a layout. -/
def ofVersion? (v : Version) : Option Release := all.find? (fun r => r.version == v)

theorem ofVersion?_version (r : Release) : ofVersion? r.version = some r := by
  cases r <;> decide

theorem versions_sorted : (all.map version).Pairwise Version.lt := by
  decide

/-- Why a version has no layout. -/
inductive Unsupported where
  /-- The version is older than the oldest release. -/
  | predates (v : Version)
  /-- The version is newer than the newest release. -/
  | newer (v : Version)
  /-- The version lies between two releases. -/
  | between (v : Version)
deriving DecidableEq, Repr

/-- The oldest release: the first of `all`. -/
def oldest : Release := all.head (by decide)

/-- The newest release: the last of `all`. -/
def newest : Release := all.getLast (by decide)

/-- The message of an unsupported version; it names the oldest or the newest release. -/
def Unsupported.message : Unsupported → String
  | .predates v => "unsupported ruby version: " ++ v.text ++
    (" predates the oldest layout, " ++ oldest.version.text)
  | .newer v => "unsupported ruby version: " ++ v.text ++
    (" is newer than the latest layout, " ++ newest.version.text)
  | .between v => "unsupported ruby version: " ++ v.text

/-- The release of a version, or why there is none. -/
def lookup (v : Version) : Except Unsupported Release :=
  match ofVersion? v with
  | some r => .ok r
  | none =>
    if Version.lt v oldest.version then .error (.predates v)
    else if Version.lt newest.version v then .error (.newer v)
    else .error (.between v)

/-! ### The constants and facts of each release -/

/-- The layout constants of a release. -/
def consts : Release → LayoutConsts
  | .v27 => LayoutConsts.ruby27
  | .v30 => LayoutConsts.ruby30
  | .v31 => LayoutConsts.ruby31
  | .v32 => LayoutConsts.ruby32
  | .v33 => LayoutConsts.ruby33
  | .v34 => LayoutConsts.ruby34
  | .v40 => LayoutConsts.ruby40

/-- The layout facts a release publishes, from its constants. -/
def facts (r : Release) : Facts := r.consts.facts

/-- Whether strings have an interned flag: whether the release has `RStringFStr`. -/
def hasInternedStrings (r : Release) : Bool := r.consts.rStringFStr.isSome

/-- Whether the typed data accessors exist: whether the release has typed-data constants. -/
def hasTypedData (r : Release) : Bool := r.consts.rTypedData.isSome

/-- The typed-data constants the typed-data accessors read. A release without typed data has
none; its accessors, which no accessor set exposes, read as if every one were zero. -/
def typedConsts (r : Release) : TypedDataConsts :=
  r.consts.rTypedData.getD ⟨.flagWord 0, 0, 0, 0, 0⟩

theorem facts_version (r : Release) : r.facts.version = r.version := by
  cases r <;> rfl

end Release

end RubyLayout
