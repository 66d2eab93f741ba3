import RubyLayout.Service.Session.Build
import RubyLayout.Service.Session.Describe
import RubyLayout.Service.Session.Inspect

/-!
# Running a heap session

The `heap` request names a release, a tier, and how large an arena to map: `mmap_size` (any signed
integer, zero for the default), else `arena` (up to 16 MiB, zero for the default), else the default
4 MiB; `arena` is checked even when `mmap_size` overrides it. `word_size` (a word) replaces the
facts' word size, which a heap for other words refuses. The heap is made first; a heap that cannot
be made answers the whole request.

The steps then run in order, each on the heap the earlier ones left. A failing step answers its
error and leaves no value; the steps after it still run. The answer lists the steps' answers.
-/

set_option autoImplicit false

namespace RubyLayout.Service

open StepM

/-- The largest arena a request may ask for: 16 MiB. -/
def arenaLimit : Int := 16 * 1024 * 1024

/-- Runs one step. -/
def runStep (d : Doc) : StepM Outcome :=
  let kind := (d.getStr? "do").getD ""
  match buildStep kind d with
  | some step => step
  | none =>
    match kind with
    | "describe" => describeStep d
    | "call" => callStep d
    | "id" => idStep d
    | "symbol_name" => symbolNameStep d
    | "host" => hostStep d
    | "hb" => sampleStep d
    | "inspect" => inspectStep d
    | "words" => wordsStep d
    | "bytes" => bytesStep d
    | "facts" => factsStep
    | _ => throw (Doc.badInput ("unknown step " ++ Text.quote kind))

/-- Runs one step and records its value; a failure answers in its place. -/
def recordStep (d : Doc) : StateM Session Doc := do
  let outcome ← (runStep d).run
  match outcome with
  | .ok o =>
    modify fun s => { s with values := s.values.push o.value }
    pure o.doc
  | .error e =>
    modify fun s => { s with values := s.values.push none }
    pure e

/-- Runs the steps in order. -/
def runSteps (steps : List Doc) : StateM Session (List Doc) := steps.mapM recordStep

/-- The size of arena a request asks for, zero meaning the default. -/
def arenaRequest (d : Doc) : Answer Int := do
  let arena ← match d.get? "arena" with
    | some _ => do
      let n ← Answer.ofDecode (intField d "arena")
      if 0 ≤ n ∧ n ≤ arenaLimit then pure n else throw (Doc.badInput "arena out of range")
    | none => pure 0
  match d.get? "mmap_size" with
  | some _ => Answer.ofDecode (intField d "mmap_size")
  | none => pure arena

/-- The steps of a request, each an object. -/
def stepsField (d : Doc) : Answer (List Doc) :=
  match d.get? "steps" with
  | some (.arr xs) =>
    xs.mapM fun x =>
      match x with
      | .obj ms => .ok (.obj ms)
      | _ => .error (Doc.badInput "step must be an object")
  | _ => .error (Doc.badInput "steps must be a list")

/-- The `heap` answer. -/
def heapAnswer (b : Build) (d : Doc) : Answer Doc := do
  let api ← b.apiField d
  let facts ← match d.get? "word_size" with
    | some _ => do
      let w ← Answer.ofDecode (wordField d "word_size")
      pure { api.layout with wordSize := w }
    | none => pure api.layout
  let size ← arenaRequest d
  let heap ← match Heap.create facts size with
    | .ok h => pure h
    | .error e => throw (({} : Render).heapErrorDoc e)
  let steps ← stepsField d
  let (answers, _) := (runSteps steps).run { api := api, heap := heap, values := #[] }
  return .obj [("version", .str api.version.text), ("steps", .arr answers)]

end RubyLayout.Service
