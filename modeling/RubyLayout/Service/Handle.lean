import RubyLayout.Service.Classify
import RubyLayout.Service.Facts
import RubyLayout.Service.Session.Run
import RubyLayout.Service.Report

/-!
# Answering requests

A request names its operation in `op`; `debug` selects the build whose accessors assert their
preconditions, and `tag` the build whose default release is another one (checked after
`debug`, which always answers with the standard default); a `tag` that is not a string
selects nothing. The answer is one document: the operation's result or an error.
-/

set_option autoImplicit false

namespace RubyLayout.Service

/-- The build a request selects, or why none. -/
def selectBuild (d : Doc) : Answer Build :=
  if d.getFlag "debug" then .ok { debug := true }
  else
    match d.getStr? "tag" with
    | none => .ok {}
    | some t =>
      match Release.all.find? (fun r => r.version.tag == t) with
      | some r => .ok { standard := r }
      | none => .error (Doc.badInput "unknown tag")

/-- The answer of an operation. -/
def answer (b : Build) (op : String) (d : Doc) : Answer Doc :=
  match op with
  | "versions" => .ok (versionsAnswer b)
  | "parse_version" => parseVersionAnswer d
  | "version_ops" => versionOpsAnswer d
  | "for_version" => forVersionAnswer d
  | "type_name" => typeNameAnswer d
  | "heap_types" => .ok heapTypesAnswer
  | "classify" => classifyAnswer b d
  | "codec" => codecAnswer b d
  | "facts" => factsAnswer b d
  | "unmarshal_facts" => unmarshalFactsAnswer d
  | "diff_facts" => diffFactsAnswer b d
  | "heap" => heapAnswer b d
  | "corpus" => corpusAnswer d
  | "load_corpus" => loadCorpusAnswer d
  | "build" => buildAnswer b d
  | "build_cases" => buildCasesAnswer b d
  | "run" => runAnswer b d
  | "sweep" => sweepAnswer b d
  | "unmarshal_report" => unmarshalReportAnswer d
  | _ => .error (Doc.badInput ("unknown op " ++ Text.quote op))

/-- The answer to a request. -/
def handle (d : Doc) : Doc :=
  let op := (d.getStr? "op").getD ""
  let outcome : Answer Doc := do
    let b ← selectBuild d
    answer b op d
  match outcome with
  | .ok a => a
  | .error e => e

end RubyLayout.Service
