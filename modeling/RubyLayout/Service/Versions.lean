import RubyLayout.Service.Render
import RubyLayout.Service.Input
import RubyLayout.Facts.Binary

/-!
# Versions, releases and type names

The answers about the supported releases: their list and the default release of the build,
reading a version text, comparing two versions, looking a version up, and the names of type
codes. Every request is answered by a build: the plain or the debug build of the accessors,
with one default release.
-/

set_option autoImplicit false

namespace RubyLayout.Service

/-- The build that answers a request: whether its accessors assert their preconditions, and
which release `"default"` names. -/
structure Build where
  /-- Whether the accessors assert their preconditions. -/
  debug : Bool := false
  /-- The release that `"default"` names. -/
  standard : Release := Release.standard
deriving Inhabited

/-- Answers that fail: a document ready to send. -/
abbrev Answer := Except Doc

/-- A malformed request as an answer. -/
def Answer.ofDecode {α : Type} (x : Decode α) : Answer α := x.mapError Doc.badInput

/-- The answer for a version that no release has. -/
def unsupportedDoc (u : Release.Unsupported) : Doc := Doc.error "ErrUnsupportedVersion" u.message

/-- The release a version text names: `"default"` for the build's default release. -/
def Build.release (b : Build) (text : String) : Answer Release :=
  if text = "default" then .ok b.standard
  else
    match Version.parse text with
    | .error e => .error (Doc.error "error" e.message)
    | .ok v =>
      match Release.lookup v with
      | .ok r => .ok r
      | .error u => .error (unsupportedDoc u)

/-- The release a version field names; the build's default release when it is absent. -/
def Build.releaseField (b : Build) (d : Doc) (k : String) : Answer Release := do
  match d.get? k with
  | none => pure b.standard
  | some _ =>
    let text ← Answer.ofDecode (stringField d k)
    b.release text

/-- The `versions` answer. -/
def versionsAnswer (b : Build) : Doc :=
  .obj [("versions", .arr (Release.all.map fun r => Render.versionDoc r.version)),
        ("all", .arr (Release.all.map fun r => .str r.version.text)),
        ("default", .str b.standard.version.text),
        ("fixnum_max", .str (toString fixnumMax)),
        ("fixnum_min", .str (toString fixnumMin))]

/-- The `parse_version` answer. -/
def parseVersionAnswer (d : Doc) : Answer Doc := do
  let s ← Answer.ofDecode (stringField d "s")
  match Version.parse s with
  | .ok v => pure (Render.versionDoc v)
  | .error e => throw (Doc.error "error" e.message)

/-- A version given as `[major, minor]`, each an integer field named by its index. -/
def versionPair (d : Doc) (k : String) : Decode Version :=
  match d.get? k with
  | some (.arr [a, b]) => do
    let pair := Doc.obj [("0", a), ("1", b)]
    let major ← intField pair "0"
    let minor ← intField pair "1"
    pure ⟨major, minor⟩
  | _ => .error (fieldName k ++ " must be [major, minor]")

/-- The `version_ops` answer. -/
def versionOpsAnswer (d : Doc) : Answer Doc := do
  let a ← Answer.ofDecode (versionPair d "a")
  let b ← Answer.ofDecode (versionPair d "b")
  pure (.obj [("a", Render.versionDoc a), ("b", Render.versionDoc b),
              ("a_less_b", .bool (decide (a.lt b))), ("b_less_a", .bool (decide (b.lt a))),
              ("equal", .bool (decide (a = b)))])

/-- The `for_version` answer. -/
def forVersionAnswer (d : Doc) : Answer Doc := do
  let major ← Answer.ofDecode (intField d "major")
  let minor ← Answer.ofDecode (intField d "minor")
  match Release.lookup ⟨major, minor⟩ with
  | .error u => throw (unsupportedDoc u)
  | .ok r =>
    pure (.obj [("version", .str r.version.text),
                ("interned_strings", .bool r.hasInternedStrings),
                ("typed_data", .bool r.hasTypedData),
                ("fingerprint", .str ("0x" ++ Word.hex16 r.facts.fingerprint))])

/-- The `type_name` answer. -/
def typeNameAnswer (d : Doc) : Answer Doc := do
  let t ← Answer.ofDecode (typeField d "t")
  pure (.obj [("name", .str t.name)])

/-- The `heap_types` answer. -/
def heapTypesAnswer : Doc := .obj [("types", .arr (TypeCode.heapTypes.map fun t => .str t.name))]

end RubyLayout.Service
