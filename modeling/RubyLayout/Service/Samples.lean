import RubyLayout.Conformance.Build
import RubyLayout.Service.Corpus
import RubyLayout.Service.Session.Run

/-!
# Building samples

`build` builds a corpus (the `text` of the request, or the standard corpus) in a fresh heap for
a release, and `build_cases` builds cases given as objects, without validating them. The heap's
arena is sized as for a heap session. Each sample is answered with its name, its value and its
description, after the whole corpus is built. The corpus is read before the release; the tier
of the descriptions is given under the empty key. A failed build answers its
error: the heap's kind for a refused object, `ErrInvalidCase` for an unknown kind, `runtime` and
`panic` for faults.
-/

set_option autoImplicit false

namespace RubyLayout.Service

open Conformance

/-- The answer for a failed build. -/
def buildErrorDoc (e : BuildError) : Doc := Doc.error e.kind.name e.message

/-- A fresh heap for a release's accessors, its arena sized as the request asks. -/
def freshHeap (api : Api) (d : Doc) : Answer Heap := do
  let size ← arenaRequest d
  match Heap.create api.layout size with
  | .ok h => pure h
  | .error e => throw (({} : Render).heapErrorDoc e)

/-- Builds a corpus in a fresh heap, answering the samples with their descriptions. -/
def samplesAnswer (api : Api) (heap : Heap) (c : Corpus) : Answer Doc :=
  match c.build.run heap with
  | (.error e, _) => .error (buildErrorDoc e)
  | (.ok samples, heap) =>
    let session : Session := { api := api, heap := heap, values := #[] }
    let describe (s : Sample) : Doc :=
      match ((describeValue s.value).run session).1 with
      | .ok doc => doc
      | .error e => e
    let sampleDoc (s : Sample) : Doc :=
      .obj [("name", .str s.case.name), ("v", session.render.wordDoc s.value),
            ("describe", describe s)]
    .ok (.obj [("samples", .arr (samples.map sampleDoc))])

/-- The accessors a build describes with: the release's, in the tier given under the empty
key. -/
def Build.samplesApi (b : Build) (d : Doc) : Answer Api := b.apiAt d ""

/-- The `build` answer; the corpus is read before the release. -/
def buildAnswer (b : Build) (d : Doc) : Answer Doc := do
  let corpus ← corpusField d
  let api ← b.samplesApi d
  let heap ← freshHeap api d
  samplesAnswer api heap corpus

/-- A member of a case object read by `read` when present, `dflt` when absent. -/
def memberOr {α : Type} (d : Doc) (k : String) (dflt : α) (read : Doc → String → Decode α) :
    Decode α :=
  match d.get? k with
  | none => .ok dflt
  | some _ => read d k

/-- A case given as an object; a member that is present must read as its kind. -/
def caseOfDoc (d : Doc) : Decode Case := do
  pure {
    name := ← memberOr d "name" "" stringField, kind := ← memberOr d "kind" "" stringField,
    text := ← memberOr d "text" "" stringField, bound := ← memberOr d "bound" "" stringField,
    int := ← memberOr d "int" 0 longField, offset := ← memberOr d "offset" 0 longField,
    float := ← memberOr d "float" 0 floatField, length := ← memberOr d "length" 0 intField,
    heap := d.getFlag "heap", frozen := d.getFlag "frozen", interned := d.getFlag "interned" }

/-- The cases of a `build_cases` request. -/
def casesField (d : Doc) : Answer (List Case) :=
  match d.get? "cases" with
  | some (.arr xs) =>
    xs.mapM fun x =>
      match x with
      | .obj _ => Answer.ofDecode (caseOfDoc x)
      | _ => .error (Doc.badInput "case must be an object")
  | _ => .error (Doc.badInput "cases must be a list")

/-- The `build_cases` answer. -/
def buildCasesAnswer (b : Build) (d : Doc) : Answer Doc := do
  let cases ← casesField d
  let api ← b.samplesApi d
  let heap ← freshHeap api d
  samplesAnswer api heap ⟨cases⟩

end RubyLayout.Service
