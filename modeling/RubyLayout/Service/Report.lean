import RubyLayout.Conformance.Compare
import RubyLayout.Service.Samples

/-!
# Comparison requests

`run` reads its corpus first, then builds it in a heap laid out for the `want` release and
compares the `want` and `got` accessors on it; each side has its own tier, and a missing side
is the default release. The disagreements' readings are written with
the arena's addresses relocated, and the answer adds the report's canonical CBOR and whether it
reads back equal.

`sweep` runs such a comparison for each pair `[want, got, got tier]`, each in a heap of its own with
the default arena; `pairs` that is not a list holds no pairs. A pair member is a version, or
`{version, patch}`: that release's accessors reporting facts with the patch applied, which may
change only the word size and the version, and without the optional accessor forms. A build that
fails answers its error, named by the version of the facts it was built for. Disagreements are
answered by case and operation only.

`unmarshal_report` reads a report from its CBOR.
-/

set_option autoImplicit false

namespace RubyLayout.Service

open Conformance

/-- The accessors of one side of a `run`. -/
def Build.sideField (b : Build) (d : Doc) (version tier : String) : Answer Api := do
  let r ← b.releaseField d version
  let t ← Answer.ofDecode (tierAt d tier)
  pure (Api.ofRelease r b.debug t)

/-- A disagreement as a document, with or without its readings. -/
def mismatchDoc (withReadings : Bool) (m : Mismatch) : Doc :=
  if withReadings then
    .obj [("case", .str m.name), ("op", .str m.op), ("want", .str m.want), ("got", .str m.got)]
  else .obj [("case", .str m.name), ("op", .str m.op)]

/-- A report as a document. -/
def reportDoc (withReadings : Bool) (r : Report) : Doc :=
  .obj [("want", .str r.want.text), ("got", .str r.got.text),
        ("want_fingerprint", .str ("0x" ++ Word.hex16 r.wantFingerprint)),
        ("got_fingerprint", .str ("0x" ++ Word.hex16 r.gotFingerprint)),
        ("facts_diff", .arr (r.factsDiff.map .str)), ("samples", Doc.int r.samples),
        ("checks", Doc.int r.checks), ("ok", .bool r.ok),
        ("mismatches", .arr (r.mismatches.map (mismatchDoc withReadings)))]

/-- A report with the arena's addresses relocated in its readings. -/
def relocate (render : Render) (r : Report) : Report :=
  { r with mismatches := r.mismatches.map fun m =>
      { m with want := render.message m.want, got := render.message m.got } }

/-- Builds a corpus in a heap and compares two sides on it. -/
def compareOn (want got : Api) (heap : Heap) (c : Corpus) : Except BuildError (Report × Heap) :=
  match c.build.run heap with
  | (.error e, _) => .error e
  | (.ok samples, heap) => .ok (compare want got heap samples, heap)

/-- The `run` answer. -/
def runAnswer (b : Build) (d : Doc) : Answer Doc := do
  let corpus ← corpusField d
  let want ← b.sideField d "want" "want_tier"
  let got ← b.sideField d "got" "got_tier"
  let heap ← freshHeap want d
  match compareOn want got heap corpus with
  | .error e => throw (buildErrorDoc e)
  | .ok (report, heap) =>
    let render : Render := { arena := some ⟨heap.memory.base, heap.memory.size⟩ }
    let report := relocate render report
    let bytes := report.encode
    let back := Report.decode (ByteArray.mk bytes.toArray)
    let same := match back with
      | .ok r => decide (r = report)
      | .error _ => false
    pure ((reportDoc true report).extend
      [("cbor", .str (Render.hexBytes (ByteArray.mk bytes.toArray))),
       ("roundtrip_equal", .bool same)])

/-- The accessors a pair member names. -/
def Build.memberOf (b : Build) (tier : Tier) (d : Doc) : Answer Api :=
  match d with
  | .str v => do
    let r ← b.release v
    pure (Api.ofRelease r b.debug tier)
  | .obj _ => do
    let r ← b.releaseField d "version"
    let api := Api.ofRelease r b.debug tier
    match d.get? "patch" with
    | none => pure api
    | some (.obj ms) =>
      if ms.all fun (k, _) => k == "WordSize" || k.startsWith "Version." then
        let f ← Answer.ofDecode (applyPatch r.facts (.obj ms))
        pure (api.withFacts f)
      else throw (Doc.badInput "sweep patches may only change WordSize and Version")
    | some _ => throw (Doc.badInput "patch must be an object")
  | _ => throw (Doc.badInput "pair member must be a version or an object")

/-- The sides of a sweep pair. -/
def Build.pairOf (b : Build) (d : Doc) : Answer (Api × Api) :=
  match d with
  | .arr [w, g] => return (← b.memberOf .unchecked w, ← b.memberOf .unchecked g)
  | .arr [w, g, .str t] => do
    let want ← b.memberOf .unchecked w
    let tier ← Answer.ofDecode (tierAt (.obj [("tier", .str t)]) "tier")
    return (want, ← b.memberOf tier g)
  | _ => throw (Doc.badInput "pair must be [want, got] or [want, got, tier]")

/-- Compares one pair in a heap of its own for the reference's reported facts. -/
def sweepPair (c : Corpus) (pair : Api × Api) : Answer Report :=
  let (want, got) := pair
  let facts := want.reported
  let prefix_ := "ruby " ++ facts.version.text ++ ": "
  match Heap.create facts 0 with
  | .error e => .error (Doc.error e.kind.name (prefix_ ++ e.message))
  | .ok heap =>
    match compareOn want got heap c with
    | .error e => .error (Doc.error e.kind.name (prefix_ ++ e.message))
    | .ok (report, _) => .ok report

/-- The `sweep` answer. -/
def sweepAnswer (b : Build) (d : Doc) : Answer Doc := do
  let corpus ← corpusField d
  let pairs ← match d.get? "pairs" with
    | some (.arr ps) => ps.mapM b.pairOf
    | _ => pure []
  let reports ← pairs.mapM (sweepPair corpus)
  pure (.obj [("reports", .arr (reports.map (reportDoc false)))])

/-- The `unmarshal_report` answer. -/
def unmarshalReportAnswer (d : Doc) : Answer Doc := do
  let text ← Answer.ofDecode (stringField d "hex")
  let bytes ← match readHex text with
    | some b => pure b
    | none => throw (Doc.badInput "bad hex")
  match Report.decode bytes with
  | .ok r => pure (reportDoc true r)
  | .error e => throw (Doc.error "error" e.message)

end RubyLayout.Service
