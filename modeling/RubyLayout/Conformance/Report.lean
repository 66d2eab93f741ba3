import RubyLayout.Cbor.Decode
import RubyLayout.Cbor.Read
import RubyLayout.Version

/-!
# Comparison reports

A report says how one set of accessors (the *got* side) compared with a reference (the *want*
side): both versions and the fingerprints of the facts they report, the facts that differ, the
number of samples and of checks, and each check on which they disagreed. The sides agree when
no check disagreed and no fact differs.

A report is stored as canonical CBOR: a map with integer keys, `1` and `2` the versions (maps
of major and minor), `3` and `4` the fingerprints, `5` the differing facts, `6` the samples,
`7` the checks and `8` the disagreements (maps of case, operation, want and got). The facts and
the disagreements are left out when there are none.

Reading a report back takes any such map: unknown keys are skipped, missing ones stay zero,
and a value of the wrong type is an error naming its field.
-/

set_option autoImplicit false

namespace RubyLayout.Conformance

open Cbor

/-- A check on which the two sides disagreed: the case's name, the operation and both
readings. -/
structure Mismatch where
  name : String := ""
  op : String := ""
  want : String := ""
  got : String := ""
deriving DecidableEq, Repr, Inhabited

/-- The outcome of comparing two sets of accessors. -/
structure Report where
  want : Version := ⟨0, 0⟩
  got : Version := ⟨0, 0⟩
  wantFingerprint : UInt64 := 0
  gotFingerprint : UInt64 := 0
  factsDiff : List String := []
  samples : Int := 0
  checks : Int := 0
  mismatches : List Mismatch := []
deriving DecidableEq, Repr, Inhabited

namespace Report

/-- Whether the sides agreed on every check and every fact. -/
def ok (r : Report) : Bool := r.mismatches.isEmpty && r.factsDiff.isEmpty

/-- A version as a CBOR map. -/
def versionItem (v : Version) : Item :=
  .map [(.unsigned 1, Item.ofInt v.major), (.unsigned 2, Item.ofInt v.minor)]

/-- A disagreement as a CBOR map. -/
def mismatchItem (m : Mismatch) : Item :=
  .map [(.unsigned 1, Item.ofString m.name), (.unsigned 2, Item.ofString m.op),
        (.unsigned 3, Item.ofString m.want), (.unsigned 4, Item.ofString m.got)]

/-- A report as a CBOR map, keys ascending, empty lists left out. -/
def toItem (r : Report) : Item :=
  let diff : List (Item × Item) :=
    if r.factsDiff.isEmpty then [] else [(.unsigned 5, .array (r.factsDiff.map Item.ofString))]
  let mismatches : List (Item × Item) :=
    if r.mismatches.isEmpty then [] else [(.unsigned 8, .array (r.mismatches.map mismatchItem))]
  .map ([(.unsigned 1, versionItem r.want), (.unsigned 2, versionItem r.got),
         (.unsigned 3, .unsigned r.wantFingerprint), (.unsigned 4, .unsigned r.gotFingerprint)] ++
        diff ++ [(.unsigned 6, Item.ofInt r.samples), (.unsigned 7, Item.ofInt r.checks)] ++
        mismatches)

/-- The canonical bytes of a report. -/
def encode (r : Report) : List UInt8 := r.toItem.encode

/-- The field decoders of a version, by key. -/
def versionField (k : Nat) : Option (Item → Version → Except DecodeError Version) :=
  match k with
  | 1 => some fun i v => return match ← decodeInt i with
    | some n => { v with major := n }
    | none => v
  | 2 => some fun i v => return match ← decodeInt i with
    | some n => { v with minor := n }
    | none => v
  | _ => none

/-- Decodes a version from a map. -/
def versionOf (i : Item) (v : Version) : Except DecodeError Version :=
  decodeRecord "rb.Version" v versionField i

/-- A text element of a list; `null` reads as empty. -/
def textElement (i : Item) : Except DecodeError String := return (← decodeText i).getD ""

/-- The decoder of a text field of a disagreement. -/
def mismatchText (set : Mismatch → String → Mismatch) (i : Item) (m : Mismatch) :
    Except DecodeError Mismatch :=
  return match ← decodeText i with
    | some s => set m s
    | none => m

/-- The field decoders of a disagreement, by key. -/
def mismatchField (k : Nat) : Option (Item → Mismatch → Except DecodeError Mismatch) :=
  match k with
  | 1 => some (mismatchText fun m s => { m with name := s })
  | 2 => some (mismatchText fun m s => { m with op := s })
  | 3 => some (mismatchText fun m s => { m with want := s })
  | 4 => some (mismatchText fun m s => { m with got := s })
  | _ => none

/-- Decodes a disagreement from a map. -/
def mismatchOf (i : Item) : Except DecodeError Mismatch :=
  decodeRecord "parity.Mismatch" {} mismatchField i

/-- The decoder of a word field of a report. -/
def wordField (set : Report → UInt64 → Report) (i : Item) (r : Report) :
    Except DecodeError Report :=
  return match ← decodeWord i with
    | some n => set r n
    | none => r

/-- The decoder of an integer field of a report. -/
def intField (set : Report → Int → Report) (i : Item) (r : Report) :
    Except DecodeError Report :=
  return match ← decodeInt i with
    | some n => set r n
    | none => r

/-- The field decoders of a report, by key. -/
def field (k : Nat) : Option (Item → Report → Except DecodeError Report) :=
  match k with
  | 1 => some fun i r => return { r with want := ← versionOf i r.want }
  | 2 => some fun i r => return { r with got := ← versionOf i r.got }
  | 3 => some (wordField fun r n => { r with wantFingerprint := n })
  | 4 => some (wordField fun r n => { r with gotFingerprint := n })
  | 5 => some fun i r => return match ← decodeList "[]string" textElement i with
    | some xs => { r with factsDiff := xs }
    | none => { r with factsDiff := [] }
  | 6 => some (intField fun r n => { r with samples := n })
  | 7 => some (intField fun r n => { r with checks := n })
  | 8 => some fun i r => return match ← decodeList "[]parity.Mismatch" mismatchOf i with
    | some xs => { r with mismatches := xs }
    | none => { r with mismatches := [] }
  | _ => none

/-- Decodes a report from a CBOR item. -/
def ofItem (i : Item) : Except DecodeError Report :=
  decodeRecord "parity.Report" {} field i

end Report

/-- Why bytes are not a report. -/
inductive ReportReadError where
  | malformed (e : ReadError)
  | mismatch (e : DecodeError)

/-- The message of a report reading error. -/
def ReportReadError.message : ReportReadError → String
  | .malformed e => "parity: unmarshal report: " ++ e.message
  | .mismatch e => "parity: unmarshal report: " ++ e.message

/-- Reads a report from bytes. -/
def Report.decode (data : ByteArray) : Except ReportReadError Report :=
  match Cbor.read data with
  | .error e => .error (.malformed e)
  | .ok item =>
    match Report.ofItem item with
    | .error e => .error (.mismatch e)
    | .ok r => .ok r

end RubyLayout.Conformance
