import RubyLayout.Conformance.Case
import RubyLayout.Toml.Decode

/-!
# Corpus texts

A corpus is written in TOML as an array of tables named `case`, each table holding the fields
of one case under their own names. Reading a corpus text takes three steps, and the first that
fails gives the error:

1. the text is read as a TOML document;
2. the document is decoded into the cases; fields of the wrong kind fail here;
3. keys that no field took make the corpus invalid, and then so does the first invalid case.
-/

set_option autoImplicit false

namespace RubyLayout.Conformance

open Toml

/-- Why a corpus text was refused. -/
inductive CorpusError where
  /-- The text is not a TOML document, or does not decode into cases. -/
  | unreadable (text : String)
  /-- The corpus is not valid. -/
  | invalid (e : CaseError)

namespace CorpusError

/-- Whether the error is an invalid corpus rather than unreadable text. -/
def isInvalid : CorpusError → Bool
  | .invalid _ => true
  | .unreadable _ => false

/-- The text of the error. -/
def text : CorpusError → String
  | .unreadable t => "parse error: " ++ t
  | .invalid e => e.text

end CorpusError

/-- The fields of a case in a corpus text. -/
def caseFields : List (Decode.Field Case) :=
  [⟨"name", fun c v => return { c with name := ← Decode.string v }⟩,
   ⟨"kind", fun c v => return { c with kind := ← Decode.string v }⟩,
   ⟨"text", fun c v => return { c with text := ← Decode.string v }⟩,
   ⟨"int", fun c v => return { c with int := ← Decode.integer v }⟩,
   ⟨"float", fun c v => return { c with float := ← Decode.float v }⟩,
   ⟨"length", fun c v => return { c with length := ← Decode.integer v }⟩,
   ⟨"bound", fun c v => return { c with bound := ← Decode.string v }⟩,
   ⟨"offset", fun c v => return { c with offset := ← Decode.integer v }⟩,
   ⟨"heap", fun c v => return { c with heap := ← Decode.boolean v }⟩,
   ⟨"frozen", fun c v => return { c with frozen := ← Decode.boolean v }⟩,
   ⟨"interned", fun c v => return { c with interned := ← Decode.boolean v }⟩]

/-- Decodes a case. -/
def decodeCase : Toml.Value → DecodeM Case := Decode.record "parity.Case" {} caseFields

/-- Decodes a corpus: its `case` entry lists the cases. -/
def decodeCorpus : Toml.Value → DecodeM Corpus :=
  Decode.record "parity.Corpus" ⟨[]⟩
    [⟨"case", fun _ v => return ⟨← Decode.list decodeCase v⟩⟩]

/-- Reads and checks a corpus text. -/
def Corpus.parse (text : String) : Except CorpusError Corpus := do
  let doc ← (Document.read text).mapError fun e => .unreadable e.text
  let (corpus, undecoded) ← (doc.decode decodeCorpus).mapError CorpusError.unreadable
  if !undecoded.isEmpty then throw (.invalid (.unknownKeys (undecoded.map keyText)))
  corpus.validate.mapError CorpusError.invalid
  pure corpus

end RubyLayout.Conformance
