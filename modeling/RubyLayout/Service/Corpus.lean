import RubyLayout.Conformance.Corpus
import RubyLayout.Conformance.Standard
import RubyLayout.Service.Render
import RubyLayout.Service.Versions

/-!
# Corpus requests

`corpus` reads the corpus text in `text`, or answers the standard corpus when there is none.
`load_corpus` reads the corpus file at `path` from the files a request supplies, as a program
would from its working directory holding just those files. The path is walked part by part:
`.` stays, `..` goes up to directories whose entries are unknown, and a part under a file is
not a directory; a path that ends at a directory reads as a directory, an empty path names no
file, and a path ending in `/` at a file is not a directory. Errors of a file name its path
first.

A case is answered with all its fields; integers of 64 bits are decimal texts and the float is
its pattern with its shortest text.
-/

set_option autoImplicit false

namespace RubyLayout.Service

open Conformance

/-- A case as a document. -/
def caseDoc (c : Case) : Doc :=
  .obj [("name", .str c.name), ("kind", .str c.kind), ("text", .str c.text),
        ("int", .str (toString c.int)), ("float", Render.floatDoc c.float),
        ("length", Doc.int c.length), ("bound", .str c.bound), ("offset", .str (toString c.offset)),
        ("heap", .bool c.heap), ("frozen", .bool c.frozen), ("interned", .bool c.interned)]

/-- A corpus as a document. -/
def corpusDoc (c : Corpus) : Doc := .obj [("cases", .arr (c.cases.map caseDoc))]

/-- The answer for a refused corpus, its message after `context`. -/
def corpusErrorDoc (context : String) (e : CorpusError) : Doc :=
  Doc.error (if e.isInvalid then "ErrInvalidCase" else "error") (context ++ e.text)

/-- The corpus a request names: its `text`, or the standard corpus. -/
def corpusField (d : Doc) : Answer Corpus :=
  match d.get? "text" with
  | none | some .null => .ok Corpus.standard
  | some _ => do
    let text ← Answer.ofDecode (stringField d "text")
    (Corpus.parse text).mapError (corpusErrorDoc "")

/-- The `corpus` answer. -/
def corpusAnswer (d : Doc) : Answer Doc := return corpusDoc (← corpusField d)

/-- What reading a path finds among a directory's files. -/
inductive FileRead where
  | contents (text : String)
  | isDirectory
  | notDirectory
  | missing
  | invalid

/-- Where a walk along a path stands: the working directory, a directory above it (whose
entries are unknown, so no name is found there), or one of the files. -/
inductive PathPlace where
  | working
  | above
  | file (text : String)

/-- Walks the parts of a path from `place`. Empty parts are skipped; `.` stays and `..` goes
up; a part under a file is not a directory. -/
def walkPath (files : List (String × String)) :
    PathPlace → List String → Except FileRead PathPlace
  | place, [] => .ok place
  | .file _, _ :: _ => .error .notDirectory
  | place, part :: rest =>
    if part.isEmpty || part == "." then walkPath files place rest
    else if part == ".." then walkPath files .above rest
    else match place with
      | .working =>
        match files.lookup part with
        | some text => walkPath files (.file text) rest
        | none => .error .missing
      | _ => .error .missing

/-- Reads a path relative to a directory that holds `files`, as opening and reading it would:
an empty path names nothing, a path ending in `/` must name a directory, and reading a
directory fails. -/
def readPath (files : List (String × String)) (path : String) : FileRead :=
  if path.isEmpty then .missing
  else if path.contains (Char.ofNat 0) then .invalid
  else
    let start := if path.startsWith "/" then PathPlace.above else .working
    match walkPath files start (path.splitOn "/") with
    | .error e => e
    | .ok (.file text) => if path.endsWith "/" then .notDirectory else .contents text
    | .ok _ => .isDirectory

/-- Whether a file name is a plain name in the directory: not empty, not `.` or `..`, and
without a slash, a backslash or NUL. -/
def isPlainName (name : String) : Bool :=
  !name.isEmpty && name != "." && name != ".." && !name.contains '/' && !name.contains '\\' &&
    !name.contains (Char.ofNat 0)

/-- The files of a `load_corpus` request; a `files` member that is not an object gives none. -/
def filesField (d : Doc) : Answer (List (String × String)) :=
  match d.get? "files" with
  | some (.obj ms) =>
    ms.mapM fun (name, v) =>
      match v with
      | .str text =>
        if isPlainName name then .ok (name, text)
        else .error (Doc.badInput "files must map plain names to text")
      | _ => .error (Doc.badInput "files must map plain names to text")
  | _ => .ok []

/-- The `load_corpus` answer. -/
def loadCorpusAnswer (d : Doc) : Answer Doc := do
  let files ← filesField d
  let path ← Answer.ofDecode (stringField d "path")
  let cannot (why : String) : Doc := Doc.error "error" ("cannot read " ++ path ++ ": " ++ why)
  match readPath files path with
  | .isDirectory => throw (cannot ("read " ++ path ++ ": is a directory"))
  | .notDirectory => throw (cannot ("open " ++ path ++ ": not a directory"))
  | .missing => throw (cannot ("open " ++ path ++ ": no such file or directory"))
  | .invalid => throw (cannot ("open " ++ path ++ ": invalid argument"))
  | .contents text =>
    match Corpus.parse text with
    | .ok c => pure (corpusDoc c)
    | .error e => throw (corpusErrorDoc (path ++ ": ") e)

end RubyLayout.Service
