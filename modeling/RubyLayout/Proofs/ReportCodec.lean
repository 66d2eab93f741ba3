import RubyLayout.Conformance.Report
import RubyLayout.Proofs.FactsCodec
import RubyLayout.Proofs.CborLimits

/-!
# Reports read back from their bytes

A report is written as a map of the keys 1 to 8 in order, the differing facts (key 5) and the
disagreements (key 8) left out when there are none (`toItem_eq`, `keys_topLevel_sublist`). The
reader accepts the map when each of the two lists has at most `maxElements` elements
(`readable_toItem`), and decoding it key by key gives the report back (`ofItem_toItem`); a list
left out stays empty, which it was. A longer list is refused as soon as the reader meets its
array, with the element-limit error (`decode_encode_of_long_factsDiff`,
`decode_encode_of_long_mismatches`), whatever the rest of the report.

Main statement: `report_codec_round_trips`, for every report that the binary form can carry:
version numbers, samples and checks that are machine integers, and texts and lists of at most
`2^63 - 1` bytes and elements (`Report.Fits`).
-/

set_option autoImplicit false
set_option relaxedAutoImplicit false

namespace RubyLayout.Conformance

open Cbor

/-- A text the binary form carries: at most `2^63 - 1` bytes of UTF-8. -/
def TextFits (s : String) : Prop := s.utf8ByteSize ≤ Cbor.lengthLimit.toNat

instance (s : String) : Decidable (TextFits s) := inferInstanceAs (Decidable (_ ≤ _))

/-- A disagreement whose four texts fit. -/
def Mismatch.Fits (m : Mismatch) : Prop :=
  TextFits m.name ∧ TextFits m.op ∧ TextFits m.want ∧ TextFits m.got

instance (m : Mismatch) : Decidable m.Fits := inferInstanceAs (Decidable (_ ∧ _ ∧ _ ∧ _))

/-- The reports the binary form carries: version numbers, samples and checks that are machine
integers, and lists and texts of at most `2^63 - 1` elements and bytes. -/
structure Report.Fits (r : Report) : Prop where
  want : r.want.Fits
  got : r.got.Fits
  samples : IsLong r.samples
  checks : IsLong r.checks
  factsDiff : r.factsDiff.length ≤ Cbor.lengthLimit.toNat ∧ ∀ s ∈ r.factsDiff, TextFits s
  mismatches : r.mismatches.length ≤ Cbor.lengthLimit.toNat ∧ ∀ m ∈ r.mismatches, m.Fits

theorem length_toUTF8_toList (s : String) : s.toUTF8.toList.length = s.utf8ByteSize := by
  rw [byteArray_toList, Array.length_toList, String.toUTF8_eq_toByteArray]
  rfl

theorem readable_ofString {s : String} (hs : TextFits s) (depth : Nat) :
    Readable depth (Item.ofString s) :=
  .text depth _ (by rw [length_toUTF8_toList]; exact hs)

namespace Report

theorem textElement_ofString (s : String) : textElement (Item.ofString s) = .ok s := by
  simp only [textElement, decodeText_ofString]
  rfl

/-! ### Versions and disagreements -/

theorem versionItem_eq (v : Version) :
    versionItem v = .map (keyedEntries [(1, Item.ofInt v.major), (2, Item.ofInt v.minor)]) := rfl

theorem readable_versionItem (v : Version) {depth : Nat} (hd : depth < maxNesting) :
    Readable depth (versionItem v) := by
  rw [versionItem_eq]
  refine readable_keyed hd (by simp [maxElements]) fun e he => ?_
  simp only [List.mem_cons, List.not_mem_nil, or_false] at he
  rcases he with rfl | rfl <;> exact readable_ofInt ..

theorem versionOf_versionItem {v : Version} (hv : v.Fits) (w : Version) :
    versionOf (versionItem v) w = .ok v := by
  rw [versionOf, versionItem_eq]
  refine decodeRecord_keyByKey _ _ _ (by simp) (by simp) ?_
  rw [decodeKeys_cons_of_ok rfl (by simp only [decodeInt_ofInt hv.1]; rfl),
    decodeKeys_cons_of_ok rfl (by simp only [decodeInt_ofInt hv.2]; rfl), decodeKeys_nil]

theorem mismatchItem_eq (m : Mismatch) :
    mismatchItem m = .map (keyedEntries [(1, Item.ofString m.name), (2, Item.ofString m.op),
      (3, Item.ofString m.want), (4, Item.ofString m.got)]) := rfl

theorem readable_mismatchItem {m : Mismatch} (hm : m.Fits) {depth : Nat}
    (hd : depth < maxNesting) : Readable depth (mismatchItem m) := by
  rw [mismatchItem_eq]
  refine readable_keyed hd (by simp [maxElements]) fun e he => ?_
  simp only [List.mem_cons, List.not_mem_nil, or_false] at he
  obtain ⟨hname, hop, hwant, hgot⟩ := hm
  rcases he with rfl | rfl | rfl | rfl
  · exact readable_ofString hname _
  · exact readable_ofString hop _
  · exact readable_ofString hwant _
  · exact readable_ofString hgot _

theorem mismatchText_ofString (set : Mismatch → String → Mismatch) (s : String) (m : Mismatch) :
    mismatchText set (Item.ofString s) m = .ok (set m s) := by
  simp only [mismatchText, decodeText_ofString]
  rfl

theorem mismatchOf_mismatchItem (m : Mismatch) : mismatchOf (mismatchItem m) = .ok m := by
  rw [mismatchOf, mismatchItem_eq]
  refine decodeRecord_keyByKey _ _ _ (by simp) (by simp) ?_
  rw [decodeKeys_cons_of_ok rfl (mismatchText_ofString _ _ _),
    decodeKeys_cons_of_ok rfl (mismatchText_ofString _ _ _),
    decodeKeys_cons_of_ok rfl (mismatchText_ofString _ _ _),
    decodeKeys_cons_of_ok rfl (mismatchText_ofString _ _ _), decodeKeys_nil]

/-! ### The whole report -/

/-- An entry written only when its list is not empty. -/
def entryUnless (empty : Bool) (k : Nat) (item : Item) : List (Nat × Item) :=
  if empty then [] else [(k, item)]

theorem length_entryUnless_le (empty : Bool) (k : Nat) (item : Item) :
    (entryUnless empty k item).length ≤ 1 := by
  unfold entryUnless
  split <;> simp

theorem mem_entryUnless {empty : Bool} {k : Nat} {item : Item} {e : Nat × Item}
    (he : e ∈ entryUnless empty k item) : empty = false ∧ e = (k, item) := by
  unfold entryUnless at he
  split at he
  · cases he
  · exact ⟨by simpa using ‹¬empty = true›, List.mem_singleton.mp he⟩

theorem entryUnless_false (k : Nat) (item : Item) : entryUnless false k item = [(k, item)] := rfl

/-- Decoding an entry written only for a list that is not empty: nothing when it is left out,
its decoder when it is written. -/
theorem decodeKeys_entryUnless {α : Type} {field : Nat → Option (Item → α → Except DecodeError α)}
    {empty : Bool} {k : Nat} {item : Item} {acc acc' : α} (hleft : empty = true → acc' = acc)
    (hwritten : empty = false → ∃ decode, field k = some decode ∧ decode item acc = .ok acc') :
    decodeKeys field acc (entryUnless empty k item) = .ok acc' := by
  cases empty with
  | true =>
    rw [hleft rfl]
    rfl
  | false =>
    obtain ⟨decode, hfield, hdecode⟩ := hwritten rfl
    exact decodeKeys_cons_of_ok hfield hdecode

/-- The entries written for every report first: the versions and the fingerprints. -/
def headEntries (r : Report) : List (Nat × Item) :=
  [(1, versionItem r.want), (2, versionItem r.got), (3, .unsigned r.wantFingerprint),
    (4, .unsigned r.gotFingerprint)]

/-- The differing facts, written when there are some. -/
def factsDiffEntry (r : Report) : List (Nat × Item) :=
  entryUnless r.factsDiff.isEmpty 5 (.array (r.factsDiff.map Item.ofString))

/-- The counts, written for every report. -/
def countEntries (r : Report) : List (Nat × Item) :=
  [(6, Item.ofInt r.samples), (7, Item.ofInt r.checks)]

/-- The disagreements, written when there are some. -/
def mismatchesEntry (r : Report) : List (Nat × Item) :=
  entryUnless r.mismatches.isEmpty 8 (.array (r.mismatches.map mismatchItem))

/-- The top-level entries of the canonical map, keys ascending. -/
def topLevel (r : Report) : List (Nat × Item) :=
  r.headEntries ++ r.factsDiffEntry ++ r.countEntries ++ r.mismatchesEntry

/-- A report is written as the map of its top-level entries. -/
theorem toItem_eq (r : Report) : r.toItem = .map (keyedEntries r.topLevel) := by
  simp only [toItem, topLevel, headEntries, factsDiffEntry, countEntries, mismatchesEntry,
    entryUnless, keyedEntries, List.map_append]
  split <;> split <;> rfl

theorem length_topLevel_le (r : Report) : r.topLevel.length ≤ 8 := by
  have h5 := length_entryUnless_le r.factsDiff.isEmpty 5 (.array (r.factsDiff.map Item.ofString))
  have h8 := length_entryUnless_le r.mismatches.isEmpty 8 (.array (r.mismatches.map mismatchItem))
  simp only [topLevel, headEntries, factsDiffEntry, countEntries, mismatchesEntry,
    List.length_append, List.length_cons, List.length_nil]
  omega

/-- The top-level keys are some of 1 to 8, ascending. -/
theorem keys_topLevel_sublist (r : Report) :
    List.Sublist (r.topLevel.map Prod.fst) [1, 2, 3, 4, 5, 6, 7, 8] := by
  simp only [topLevel, headEntries, factsDiffEntry, countEntries, mismatchesEntry, entryUnless]
  split <;> split <;> simp

/-! ### Reading the map -/

theorem readable_headEntries (r : Report) : ∀ e ∈ r.headEntries, Readable 1 e.2 := by
  intro e he
  simp only [headEntries, List.mem_cons, List.not_mem_nil, or_false] at he
  rcases he with rfl | rfl | rfl | rfl
  · exact readable_versionItem _ (by decide)
  · exact readable_versionItem _ (by decide)
  · exact .unsigned ..
  · exact .unsigned ..

theorem readable_countEntries (r : Report) : ∀ e ∈ r.countEntries, Readable 1 e.2 := by
  intro e he
  simp only [countEntries, List.mem_cons, List.not_mem_nil, or_false] at he
  rcases he with rfl | rfl <;> exact readable_ofInt ..

theorem readable_factsDiffEntry {r : Report} (hr : r.Fits)
    (hdiff : r.factsDiff.length ≤ maxElements) : ∀ e ∈ r.factsDiffEntry, Readable 1 e.2 := by
  intro e he
  rw [(mem_entryUnless he).2]
  refine .array 1 _ (by decide) (by simpa using hdiff) fun i hi => ?_
  obtain ⟨s, hs, rfl⟩ := List.mem_map.mp hi
  exact readable_ofString (hr.factsDiff.2 s hs) _

theorem readable_mismatchesEntry {r : Report} (hr : r.Fits)
    (hmis : r.mismatches.length ≤ maxElements) : ∀ e ∈ r.mismatchesEntry, Readable 1 e.2 := by
  intro e he
  rw [(mem_entryUnless he).2]
  refine .array 1 _ (by decide) (by simpa using hmis) fun i hi => ?_
  obtain ⟨m, hm, rfl⟩ := List.mem_map.mp hi
  exact readable_mismatchItem (hr.mismatches.2 m hm) (by decide)

/-- With the differing facts within the element limit, every entry before the disagreements
has a readable value. -/
theorem readable_beforeMismatches {r : Report} (hr : r.Fits)
    (hdiff : r.factsDiff.length ≤ maxElements) :
    ∀ e ∈ r.headEntries ++ r.factsDiffEntry ++ r.countEntries, Readable 1 e.2 := by
  intro e he
  simp only [List.mem_append] at he
  rcases he with (hhead | h5) | hcounts
  · exact readable_headEntries r e hhead
  · exact readable_factsDiffEntry hr hdiff e h5
  · exact readable_countEntries r e hcounts

/-- With both lists within the element limit the reader accepts the report's map. -/
theorem readable_toItem {r : Report} (hr : r.Fits) (hdiff : r.factsDiff.length ≤ maxElements)
    (hmis : r.mismatches.length ≤ maxElements) : Readable 0 r.toItem := by
  have hlen : r.topLevel.length ≤ maxElements :=
    Nat.le_trans (length_topLevel_le r) (by decide)
  rw [toItem_eq]
  refine readable_keyed (by decide) hlen fun e he => ?_
  rw [topLevel] at he
  rcases List.mem_append.mp he with hbefore | h8
  · exact readable_beforeMismatches hr hdiff e hbefore
  · exact readable_mismatchesEntry hr hmis e h8

/-! ### Decoding the map -/

theorem decodeKeys_headEntries {r : Report} (hr : r.Fits) :
    decodeKeys field {} r.headEntries =
      .ok { want := r.want, got := r.got,
            wantFingerprint := r.wantFingerprint, gotFingerprint := r.gotFingerprint } := by
  simp only [headEntries, decodeKeys_cons, field, versionOf_versionItem hr.want,
    versionOf_versionItem hr.got, wordField, decodeWord_unsigned, decodeKeys_nil, bind,
    Except.bind, pure, Except.pure]

/-- The differing facts are decoded when written, and stay empty, as they were, when left
out. -/
theorem decodeKeys_factsDiffEntry (r acc : Report) (hacc : acc.factsDiff = []) :
    decodeKeys field acc r.factsDiffEntry = .ok { acc with factsDiff := r.factsDiff } := by
  refine decodeKeys_entryUnless (fun hempty => ?_) fun _ => ⟨_, rfl, ?_⟩
  · rw [List.isEmpty_iff.mp hempty, ← hacc]
  · simp only [decodeList_array _ _ _ fun s _ => textElement_ofString s]
    rfl

theorem decodeKeys_countEntries {r : Report} (hr : r.Fits) (acc : Report) :
    decodeKeys field acc r.countEntries =
      .ok { acc with samples := r.samples, checks := r.checks } := by
  simp only [countEntries, decodeKeys_cons, field, intField, decodeInt_ofInt hr.samples,
    decodeInt_ofInt hr.checks, decodeKeys_nil, bind, Except.bind, pure, Except.pure]

/-- The disagreements are decoded when written, and stay empty, as they were, when left out. -/
theorem decodeKeys_mismatchesEntry (r acc : Report) (hacc : acc.mismatches = []) :
    decodeKeys field acc r.mismatchesEntry = .ok { acc with mismatches := r.mismatches } := by
  refine decodeKeys_entryUnless (fun hempty => ?_) fun _ => ⟨_, rfl, ?_⟩
  · rw [List.isEmpty_iff.mp hempty, ← hacc]
  · simp only [decodeList_array _ _ _ fun m _ => mismatchOf_mismatchItem m]
    rfl

/-- Decoding the report's map key by key gives the report back. -/
theorem ofItem_toItem {r : Report} (hr : r.Fits) : ofItem r.toItem = .ok r := by
  have hrun : decodeKeys field {} r.topLevel = .ok r := by
    rw [topLevel, List.append_assoc, List.append_assoc,
      decodeKeys_append_of_ok (decodeKeys_headEntries hr),
      decodeKeys_append_of_ok (decodeKeys_factsDiffEntry r _ rfl),
      decodeKeys_append_of_ok (decodeKeys_countEntries hr _),
      decodeKeys_mismatchesEntry r _ rfl]
  have hkeys := keys_topLevel_sublist r
  have hsmall : ∀ e ∈ r.topLevel, e.1 < 2 ^ 64 := by
    intro e he
    have hk := hkeys.subset (List.mem_map_of_mem (f := Prod.fst) he)
    simp only [List.mem_cons, List.not_mem_nil, or_false] at hk
    omega
  rw [ofItem, toItem_eq]
  exact decodeRecord_keyByKey _ _ _ (hkeys.nodup (by decide)) hsmall hrun

/-! ### Lists past the element limit -/

theorem isEmpty_eq_false_of_lt {α : Type} {xs : List α} (h : maxElements < xs.length) :
    xs.isEmpty = false := by
  cases xs with
  | nil => simp at h
  | cons _ _ => rfl

/-- Differing facts past the element limit: the reader refuses their array, after the versions
and the fingerprints. -/
theorem decode_encode_of_long_factsDiff {r : Report} (hr : r.Fits)
    (hlong : maxElements < r.factsDiff.length) :
    Report.decode (ByteArray.mk r.encode.toArray) = .error (.malformed tooManyElements) := by
  have hsplit : keyedEntries r.topLevel = keyedEntries r.headEntries ++
      (.unsigned (Nat.toUInt64 5), .array (r.factsDiff.map Item.ofString)) ::
        keyedEntries (r.countEntries ++ r.mismatchesEntry) := by
    simp only [topLevel, factsDiffEntry, isEmpty_eq_false_of_lt hlong, entryUnless_false,
      keyedEntries, List.map_append, List.map_cons, List.append_assoc, List.cons_append,
      List.nil_append]
  have hcount : (keyedEntries r.headEntries).length + 1 +
      (keyedEntries (r.countEntries ++ r.mismatchesEntry)).length ≤ maxElements := by
    have h8 := length_entryUnless_le r.mismatches.isEmpty 8
      (.array (r.mismatches.map mismatchItem))
    simp only [keyedEntries, headEntries, countEntries, mismatchesEntry, List.length_map,
      List.length_append, List.length_cons, List.length_nil] at h8 ⊢
    unfold maxElements
    omega
  have hread : Cbor.read (ByteArray.mk r.encode.toArray) = .error tooManyElements := by
    rw [encode, toItem_eq, hsplit]
    exact read_map_long_array (readable_keyedEntries (readable_headEntries r)) (.unsigned ..)
      hcount (by simpa using hlong) (by simpa using hr.factsDiff.1)
  simp only [Report.decode, hread]

/-- Disagreements past the element limit, with the differing facts within it: the reader
refuses their array, the last entry of the map. -/
theorem decode_encode_of_long_mismatches {r : Report} (hr : r.Fits)
    (hdiff : r.factsDiff.length ≤ maxElements) (hlong : maxElements < r.mismatches.length) :
    Report.decode (ByteArray.mk r.encode.toArray) = .error (.malformed tooManyElements) := by
  have hsplit : keyedEntries r.topLevel =
      keyedEntries (r.headEntries ++ r.factsDiffEntry ++ r.countEntries) ++
        [(.unsigned (Nat.toUInt64 8), .array (r.mismatches.map mismatchItem))] := by
    simp only [topLevel, mismatchesEntry, isEmpty_eq_false_of_lt hlong, entryUnless_false,
      keyedEntries, List.map_append, List.map_cons, List.map_nil]
  have hcount : (keyedEntries (r.headEntries ++ r.factsDiffEntry ++ r.countEntries)).length + 1 +
      ([] : List (Item × Item)).length ≤ maxElements := by
    have h5 := length_entryUnless_le r.factsDiff.isEmpty 5
      (.array (r.factsDiff.map Item.ofString))
    simp only [keyedEntries, headEntries, countEntries, factsDiffEntry, List.length_map,
      List.length_append, List.length_cons, List.length_nil] at h5 ⊢
    unfold maxElements
    omega
  have hread : Cbor.read (ByteArray.mk r.encode.toArray) = .error tooManyElements := by
    rw [encode, toItem_eq, hsplit]
    exact read_map_long_array (readable_keyedEntries (readable_beforeMismatches hr hdiff))
      (.unsigned ..) hcount
      (by simpa using hlong) (by simpa using hr.mismatches.1)
  simp only [Report.decode, hread]

end Report

/-- The canonical bytes of a report whose lists are within the element limit decode to the same
report. -/
theorem Report.decode_encode {r : Report} (hr : r.Fits) (hdiff : r.factsDiff.length ≤ maxElements)
    (hmis : r.mismatches.length ≤ maxElements) :
    Report.decode (ByteArray.mk r.encode.toArray) = .ok r := by
  simp only [Report.decode, Report.encode, read_encode (Report.readable_toItem hr hdiff hmis),
    Report.ofItem_toItem hr]

/-- The binary form of reports round-trips within the reader's element limit. The canonical
bytes of a report that the form carries decode to the same report when its differing facts and
its disagreements number at most `maxElements` each; when either list is longer they are
refused with the element-limit error. -/
theorem report_codec_round_trips (r : Report) (hr : r.Fits) :
    (r.factsDiff.length ≤ maxElements → r.mismatches.length ≤ maxElements →
      Report.decode (ByteArray.mk r.encode.toArray) = .ok r) ∧
    (maxElements < r.factsDiff.length ∨ maxElements < r.mismatches.length →
      Report.decode (ByteArray.mk r.encode.toArray) = .error (.malformed tooManyElements)) := by
  refine ⟨Report.decode_encode hr, fun hlong => ?_⟩
  by_cases hdiff : maxElements < r.factsDiff.length
  · exact Report.decode_encode_of_long_factsDiff hr hdiff
  · exact Report.decode_encode_of_long_mismatches hr (Nat.le_of_not_lt hdiff)
      (hlong.resolve_left hdiff)

/-- A report of 3.4 against 3.3 with a differing fact and a disagreement reads back. -/
theorem report_codec_round_trips_of_disagreement :
    Report.Fits ⟨⟨3, 4⟩, ⟨3, 3⟩, 1, 2, ["Version.Minor"], 1, 3, [⟨"s", "RStringLen", "1", "2"⟩]⟩ ∧
      Report.decode (ByteArray.mk (Report.encode
        ⟨⟨3, 4⟩, ⟨3, 3⟩, 1, 2, ["Version.Minor"], 1, 3, [⟨"s", "RStringLen", "1", "2"⟩]⟩).toArray) =
        .ok ⟨⟨3, 4⟩, ⟨3, 3⟩, 1, 2, ["Version.Minor"], 1, 3, [⟨"s", "RStringLen", "1", "2"⟩]⟩ :=
  have hr : Report.Fits
      ⟨⟨3, 4⟩, ⟨3, 3⟩, 1, 2, ["Version.Minor"], 1, 3, [⟨"s", "RStringLen", "1", "2"⟩]⟩ :=
    ⟨by decide, by decide, by decide, by decide, by decide, by decide⟩
  ⟨hr, (report_codec_round_trips _ hr).1 (by decide) (by decide)⟩

/-- A report listing 131073 differing facts does not read back from its bytes: the reader
refuses the array of its differing facts. -/
theorem long_facts_diff_not_read_back :
    Report.decode (ByteArray.mk
      ({ factsDiff := List.replicate 131073 "" } : Report).encode.toArray) =
      .error (.malformed tooManyElements) := by
  have hlength : (List.replicate 131073 "").length = 131073 := List.length_replicate
  have hr : Report.Fits { factsDiff := List.replicate 131073 "" } :=
    ⟨by decide, by decide, by decide, by decide,
      ⟨by rw [hlength]; decide, fun s hs => by rw [List.eq_of_mem_replicate hs]; decide⟩,
      ⟨by decide, fun _ hm => by cases hm⟩⟩
  exact Report.decode_encode_of_long_factsDiff hr (by rw [hlength]; decide)

end RubyLayout.Conformance
