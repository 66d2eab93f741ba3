import RubyLayout.Service.Doc
import RubyLayout.Api.Basic
import RubyLayout.Hash.Fnv
import RubyLayout.Binary64.Text

/-!
# Writing answers

Answers write words as `0x` and lowercase hexadecimal, signed and unsigned integers in
decimal, versions as objects with their text and build tag, floats as their bit pattern with
their shortest text, and byte strings and word lists in full when short and as a head, a
length and a hash when long.

Inside a heap, a word (or an integer whose bits are one) that points into the arena is written
relative to the arena, `@0x` and the offset, so that answers do not depend on where the arena
lies; messages are rewritten the same way: every maximal run of `0x` and hexadecimal digits, or
of decimal digits, whose value lies in the arena becomes `@0x` and the hexadecimal offset, or
`@` and the decimal offset.
-/

set_option autoImplicit false

namespace RubyLayout.Service

/-- Where an arena lies, for writing its addresses relative to it. -/
structure Arena where
  /-- The first address. -/
  base : UInt64
  /-- The number of bytes. -/
  size : Nat
deriving Inhabited

/-- Whether an address lies in the arena. -/
def Arena.contains (a : Arena) (n : Nat) : Bool := a.base.toNat ≤ n && n < a.base.toNat + a.size

/-- How answers write words: plainly, or relative to an arena. -/
structure Render where
  /-- The arena whose addresses are written relative to it. -/
  arena : Option Arena := none
deriving Inhabited

namespace Render

/-- The text of a word. -/
def word (r : Render) (w : UInt64) : String :=
  match r.arena with
  | some a => if a.contains w.toNat then "@" ++ Word.hex (w - a.base) else Word.hex w
  | none => Word.hex w

/-- A word as a document. -/
def wordDoc (r : Render) (w : UInt64) : Doc := .str (r.word w)

/-- The text of a signed integer: decimal, or arena-relative when its bits are an address. -/
def long (r : Render) (i : Int) : String :=
  match r.arena with
  | some a => if a.contains (Word.ofInt i).toNat then "@" ++ Word.hex (Word.ofInt i - a.base)
              else toString i
  | none => toString i

/-- The text of an unsigned integer: decimal, or arena-relative when it is an address. -/
def ulong (r : Render) (u : UInt64) : String :=
  match r.arena with
  | some a => if a.contains u.toNat then "@" ++ Word.hex (u - a.base) else toString u.toNat
  | none => toString u.toNat

/-- Whether a character is a hexadecimal digit. -/
def isHexDigit (c : Char) : Bool :=
  c.isDigit || ('a' ≤ c && c ≤ 'f') || ('A' ≤ c && c ≤ 'F')

/-- The value of hexadecimal digits. -/
def hexValue (cs : List Char) : Nat :=
  cs.foldl (fun n c =>
    n * 16 + (if c.isDigit then c.toNat - '0'.toNat
              else if 'a' ≤ c && c ≤ 'f' then c.toNat - 'a'.toNat + 10
              else c.toNat - 'A'.toNat + 10)) 0

/-- The value of decimal digits. -/
def decimalValue (cs : List Char) : Nat := cs.foldl (fun n c => n * 10 + (c.toNat - '0'.toNat)) 0

/-- Rewrites the number runs of a text relative to the arena; `fuel` bounds the steps and the
text's length is always enough. -/
def relocate (a : Arena) : Nat → List Char → List Char
  | 0, cs => cs
  | _, [] => []
  | fuel + 1, c :: rest =>
    match c, rest with
    | '0', 'x' :: h :: more =>
      if isHexDigit h then
        let digits := h :: more.takeWhile isHexDigit
        let after := more.dropWhile isHexDigit
        let n := hexValue digits
        let text := if a.contains n then ("@0x" ++ Word.hexDigits (n - a.base.toNat)).toList
                    else '0' :: 'x' :: digits
        text ++ relocate a fuel after
      else decimalRun a fuel c rest
    | _, _ =>
      if c.isDigit then decimalRun a fuel c rest
      else c :: relocate a fuel rest
where
  /-- Rewrites the decimal run that starts with the digit `c`. -/
  decimalRun (a : Arena) (fuel : Nat) (c : Char) (rest : List Char) : List Char :=
    let digits := c :: rest.takeWhile Char.isDigit
    let after := rest.dropWhile Char.isDigit
    let n := decimalValue digits
    let text := if a.contains n then ("@" ++ toString (n - a.base.toNat)).toList else digits
    text ++ relocate a fuel after

/-- A message with the arena's addresses rewritten. -/
def message (r : Render) (text : String) : String :=
  match r.arena with
  | some a => String.ofList (relocate a text.length text.toList)
  | none => text

/-- The lowercase hexadecimal digits of bytes, two per byte. -/
def hexBytes (b : ByteArray) : String :=
  String.ofList (b.toList.flatMap fun x => Text.hexDigits 2 x.toNat)

/-- A byte string: all of it up to 1024 bytes, else the first 64 bytes and a hash. -/
def bytesDoc (b : ByteArray) : Doc :=
  if b.size ≤ 1024 then .obj [("len", Doc.int b.size), ("hex", .str (hexBytes b))]
  else .obj [("len", Doc.int b.size), ("head", .str (hexBytes (b.extract 0 64))),
             ("fnv", .str (Word.hex16 (Fnv.hashArray b)))]

/-- A list of words: all of it up to 64 words, else the first and last 16 and a hash of all
the written words joined by commas. -/
def wordsDoc (r : Render) (ws : List UInt64) : Doc :=
  let texts := ws.map r.word
  if ws.length ≤ 64 then .obj [("len", Doc.int ws.length), ("words", .arr (texts.map .str))]
  else
    let joined := ",".intercalate texts
    .obj [("len", Doc.int ws.length),
          ("head", .arr ((texts.take 16).map .str)),
          ("tail", .arr ((texts.drop (texts.length - 16)).map .str)),
          ("fnv", .str (Word.hex16 (Fnv.hash joined.toUTF8.toList)))]

/-- A version as a document. -/
def versionDoc (v : Version) : Doc :=
  .obj [("major", Doc.int v.major), ("minor", Doc.int v.minor), ("string", .str v.text),
        ("tag", .str v.tag)]

/-- A float as its bit pattern and shortest text. -/
def floatDoc (bits : UInt64) : Doc :=
  .obj [("bits", .str ("0x" ++ Word.hex16 bits)), ("repr", .str (Binary64.text bits))]

/-- The answer for a heap failure. -/
def heapErrorDoc (r : Render) (e : HeapError) : Doc := Doc.error e.kind.name (r.message e.message)

/-- The answer for an accessor failure. -/
def accessErrorDoc (r : Render) (e : AccessError) : Doc :=
  match e with
  | .precondition op _ want got =>
    .obj [("error", .str "PreconditionError"), ("message", .str (r.message e.message)),
          ("op", .str op), ("want", .str want), ("got", .str got)]
  | .heap h => r.heapErrorDoc h
  | .badView _ => Doc.error "runtime" (r.message e.message)

/-- An accessor outcome: the written result, or the failure. -/
def outcome {α : Type} (r : Render) (x : Access α) (f : α → Doc) : Doc :=
  match x with
  | .ok a => f a
  | .error e => r.accessErrorDoc e

end Render

end RubyLayout.Service
