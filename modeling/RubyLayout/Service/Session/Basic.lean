import RubyLayout.Service.Facts
import RubyLayout.Heap.Host
import RubyLayout.Heap.Sample

/-!
# Heap sessions

A `heap` request builds one heap and runs a list of steps on it. The session holds the
accessors the request names, the heap, and the value each earlier step left (a step that
failed, or that answers something other than a word, leaves none).

Steps refer to values by *value arguments*: the number of an earlier step (its value), a word
text (the word itself), `{"ref": r, "add": n}` (the value of the argument `r` plus `n`,
wrapping), or another object `{"at": off}` (the address `off` bytes into the arena, which must
lie in its readable pages; `off` defaults to zero). A null argument is a missing one.

Steps that read memory are guarded: a word they treat as an object must be a special constant
or lie in the arena with a whole object's 64 bytes readable, and byte ranges they read must lie
in the readable pages. A refused read answers `unmapped` with what lay outside the arena.

Answers inside a session write arena addresses relative to the arena (`Render` with the arena),
errors included.
-/

set_option autoImplicit false

namespace RubyLayout.Service

/-- A heap session. -/
structure Session where
  /-- The accessors the request names. -/
  api : Api
  /-- The heap. -/
  heap : Heap
  /-- The value each earlier step left, by step number. -/
  values : Array (Option Value)

/-- What a step answers, and the value it leaves for later steps. -/
structure Outcome where
  /-- The answer. -/
  doc : Doc
  /-- The value later steps may refer to. -/
  value : Option Value := none

/-- A step: it may fail with its answer, and changes the session as it goes. -/
abbrev StepM := ExceptT Doc (StateM Session)

namespace Session

/-- The arena of the session's heap. -/
def arena (s : Session) : Arena := ⟨s.heap.memory.base, s.heap.memory.size⟩

/-- How the session writes words: relative to its arena. -/
def render (s : Session) : Render := { arena := some s.arena }

/-- The value step `k` left. -/
def stepValue (s : Session) (k : Int) : Decode Value :=
  let found := if k < 0 then none else (s.values[k.toNat]?).join
  match found with
  | some v => .ok v
  | none => .error ("step " ++ toString k ++ " has no value")

/-- The address `off` bytes into the arena, when it lies in the readable pages. -/
def offsetAddress (s : Session) (off : Int) : Decode Value :=
  if 0 ≤ off ∧ off < (s.heap.memory.mapped : Int) then
    .ok (s.heap.memory.base + off.toNat.toUInt64)
  else .error "at outside the arena"

/-- The value a value argument denotes; `k` names the field for messages. A number is a step,
a string a word, `{"ref": r, "add": n}` the value of the argument `r` plus `n` (wrapping), and
another object the address `at` bytes into the arena (`at` defaults to zero). `fuel` bounds the
nesting of `ref`s; the argument's node count is always enough. -/
def argumentWithin (s : Session) : Nat → String → Doc → Decode Value
  | 0, k, _ => .error (fieldName k ++ " is not a value")
  | fuel + 1, k, d =>
    match d with
    | .null => .error ("missing value field " ++ Text.quote k)
    | .num t =>
      match Text.signedDecimal? t.toList with
      | some i => s.stepValue i
      | none => .error (fieldName k ++ " is not a value")
    | .str t =>
      match wordOfText? (Text.trimBlank t) with
      | some w => .ok w
      | none => .error ("bad word " ++ Text.quote t)
    | .obj ms =>
      match (Doc.obj ms).get? "ref" with
      | some r => do
        let v ← s.argumentWithin fuel "ref" r
        let n ← intFieldOr (.obj ms) "add" 0
        pure (v + Word.ofInt n)
      | none => do
        let off ← intFieldOr (.obj ms) "at" 0
        s.offsetAddress off
    | _ => .error (fieldName k ++ " is not a value")

/-- The value a value argument denotes; `k` names the field for messages. -/
def argument (s : Session) (k : String) (d : Doc) : Decode Value :=
  s.argumentWithin d.nodes k d

/-- A value argument field; it must be present and not null. -/
def valueField (s : Session) (d : Doc) (k : String) : Decode Value :=
  match d.get? k with
  | some x => s.argument k x
  | none => .error ("missing value field " ++ Text.quote k)

/-- An optional value argument field with a default for when it is absent. -/
def valueFieldOr (s : Session) (d : Doc) (k : String) (dflt : Value) : Decode Value :=
  match d.get? k with
  | none => .ok dflt
  | some x => s.argument k x

/-- A list of value arguments; a field that is absent or not a list holds none. -/
def valuesField (s : Session) (d : Doc) (k : String) : Decode (List Value) :=
  match d.get? k with
  | some (.arr xs) => xs.mapM (s.argument k)
  | _ => .ok []

/-- Whether a word may be read as an object: its 64 bytes lie in the readable pages. -/
def holdsObject (s : Session) (v : Value) : Bool := s.heap.memory.readable v 64

end Session

/-- The answer for a read that the session refuses. -/
def unmappedDoc (what : String) : Doc := Doc.error "unmapped" what

/-- The largest count of filler bytes. -/
def fillLimit : Int := Int.pow 2 21

/-- A byte string: `hex` when it is a string, else `fill` filler bytes when present (at most
2^21), else the text `s` (empty when it is not a string). -/
def bytesArgument (d : Doc) : Decode ByteArray :=
  match d.get? "hex", d.get? "fill" with
  | some (.str t), _ => (readHex t).elim (.error "bad hex") .ok
  | _, some _ => do
    let n ← intField d "fill"
    if 0 ≤ n ∧ n ≤ fillLimit then pure (Heap.fillerBytes n.toNat) else .error "fill out of range"
  | _, none => .ok ((d.getStr? "s").getD "").toUTF8

namespace StepM

/-- The session's rendering. -/
def render : StepM Render := return (← get).render

/-- A request field that must read, or the step answers a malformed request. -/
def decode {α : Type} (x : Decode α) : StepM α :=
  match x with
  | .ok a => pure a
  | .error e => throw (Doc.badInput e)

/-- Runs a heap operation on the session's heap; its effects stay even when it fails. -/
def heap {α : Type} (x : HeapM α) : StepM α := do
  let s ← get
  let (outcome, h) := Heap.exec s.heap x
  set { s with heap := h }
  match outcome with
  | .ok a => pure a
  | .error e => throw (s.render.heapErrorDoc e)

/-- Runs an accessor on the session's memory. -/
def access {α : Type} (x : Access α) : StepM α := do
  match x with
  | .ok a => pure a
  | .error e => throw ((← get).render.accessErrorDoc e)

/-- Runs a conversion through the heap as host; its effects stay even when it fails. -/
def host {α : Type} (x : HostM α) : StepM α := do
  let s ← get
  let (outcome, h) := (x.run).run s.heap
  set { s with heap := h }
  match outcome with
  | .ok a => pure a
  | .error e => throw (s.render.accessErrorDoc e)

/-- A value argument field. -/
def value (d : Doc) (k : String) : StepM Value := do decode ((← get).valueField d k)

/-- Refuses a word that is neither a special constant nor an object in the arena. -/
def requireObjectOrSpecial (v : Value) : StepM Unit := do
  let s ← get
  if !(s.api.layout.isSpecialConst v || s.holdsObject v) then
    throw (unmappedDoc "object outside the arena")

/-- Refuses a word that is not an object in the arena. -/
def requireObject (v : Value) : StepM Unit := do
  if !(← get).holdsObject v then throw (unmappedDoc "object outside the arena")

/-- Refuses a range of `n` bytes from `p` unless all of it is readable. -/
def requireRange (p : UInt64) (n : Int) (what : String) : StepM Unit := do
  if n < 0 ∨ !(← get).heap.memory.readable p n.toNat then throw (unmappedDoc what)

/-- Answers the value a step built, which later steps may refer to. -/
def built (v : Value) : StepM Outcome := do
  return { doc := .obj [("v", (← render).wordDoc v)], value := some v }

/-- Runs a step and answers its failure in place of its result. -/
def attempt (x : StepM Doc) : StepM Doc := tryCatch x pure

end StepM

end RubyLayout.Service
