import RubyLayout.Facts.Binary
import RubyLayout.Proofs.CborRecords
import RubyLayout.Release

/-!
# Facts read back from their bytes

The canonical bytes of some facts decode to the same facts whenever the two version numbers are
machine integers, as the numbers of every version are. The facts are written as a map with the
top-level keys 1 to 9 in order (`toItem_eq`), each group a map of its own fields by key, so the
reader accepts it (`readable_toItem`). Decoding that map key by key writes every field with the
value it was written from (`ofItem_toItem`), and writing every field of the all-zero facts with
the values of `f`, in the published order, gives `f` back (`foldl_set_entries`).

What the decoder looks up are facts of the field table alone: the fields of any facts are those
of the all-zero facts with other values (`entries_forget`), and in the all-zero facts each field
is the first of its group with its key (`zero_lookups`).

Main statement: `facts_codec_round_trips`; the bytes determine the facts, so equal encodings
mean equal facts and the fingerprint hashes bytes that decode to the facts.
-/

set_option autoImplicit false
set_option relaxedAutoImplicit false

namespace RubyLayout

open Cbor

/-- A version whose two numbers are machine integers. -/
def Version.Fits (v : Version) : Prop := IsLong v.major ∧ IsLong v.minor

instance (v : Version) : Decidable v.Fits := inferInstanceAs (Decidable (_ ∧ _))

namespace FieldValue

/-- The kind of a field value: its constructor, with a zero payload. -/
def kind : FieldValue → FieldValue
  | .word _ => .word 0
  | .int _ => .int 0
  | .flag _ => .flag false

/-- The field values the binary form carries: every word and flag, and machine integers. -/
def Fits : FieldValue → Prop
  | .int i => IsLong i
  | _ => True

theorem readable_toItem (v : FieldValue) (depth : Nat) : Readable depth v.toItem := by
  cases v with
  | word n => exact .unsigned depth n
  | int i => exact readable_ofInt depth i
  | flag b => exact .simple depth _ (by cases b <;> decide)

end FieldValue

namespace FactEntry

/-- A field with its value replaced by its kind: what the field table says of it. -/
def forget (e : FactEntry) : FactEntry := { e with value := e.value.kind }

theorem path_eq_of_forget {e z : FactEntry} (h : z.forget = e.forget) : z.path = e.path := by
  simp only [forget, mk.injEq] at h
  simp only [path, h.1, h.2.1]

end FactEntry

namespace Facts

open FactEntry

theorem decodeField_word (path : String) (k n : UInt64) (f : Facts) :
    decodeField path (.word k) (.unsigned n) f = .ok (f.set path (.word n)) := by
  simp only [decodeField, decodeWord_unsigned]
  rfl

theorem decodeField_int (path : String) (k : Int) {i : Int} (hi : IsLong i) (f : Facts) :
    decodeField path (.int k) (Item.ofInt i) f = .ok (f.set path (.int i)) := by
  simp only [decodeField, decodeInt_ofInt hi]
  rfl

theorem decodeField_flag (path : String) (k b : Bool) (f : Facts) :
    decodeField path (.flag k) (Item.ofBool b) f = .ok (f.set path (.flag b)) := by
  simp only [decodeField, decodeBool_ofBool]
  rfl

/-- A field value decodes into its path by the decoder of any value of its kind. -/
theorem decodeField_toItem (path : String) {k v : FieldValue} (hk : k.kind = v.kind)
    (hv : v.Fits) (f : Facts) :
    decodeField path k v.toItem f = .ok (f.set path v) := by
  cases k <;> cases v <;> simp only [FieldValue.kind, reduceCtorEq] at hk
  · exact decodeField_word ..
  · exact decodeField_int _ _ hv _
  · exact decodeField_flag ..

/-! ### The field table -/

/-- The fields of the group `g`. -/
def inGroup (g : String) (e : FactEntry) : Bool := e.group.map Prod.fst == some g

/-- The fields of any facts are those of the all-zero facts with other values. -/
theorem entries_forget (f : Facts) : f.entries.map forget = Facts.zero.entries.map forget := rfl

/-- In the all-zero facts every field is the first of its group, or of the top level, with its
key; the keys are small. -/
theorem zero_lookups : ∀ z ∈ Facts.zero.entries,
    Facts.zero.entries.find? (fun x => x.group.map Prod.fst == z.group.map Prod.fst &&
      x.key == z.key) = some z ∧ z.key < 2 ^ 64 := by
  decide +kernel

/-- Inside each group the keys of the fields are distinct. -/
theorem nodup_group_keys : ∀ gk ∈ Facts.groups,
    ((Facts.zero.entries.filter (inGroup gk.1)).map FactEntry.key).Nodup := by
  decide +kernel

/-- The fields of a group have the keys of the group in the all-zero facts. -/
theorem keys_filter_inGroup (f : Facts) (g : String) :
    (f.entries.filter (inGroup g)).map FactEntry.key =
      (Facts.zero.entries.filter (inGroup g)).map FactEntry.key := by
  have hkey : ∀ l : List FactEntry, (l.filter (inGroup g)).map FactEntry.key =
      ((l.map forget).filter (inGroup g)).map FactEntry.key := by
    intro l
    rw [List.filter_map, List.map_map]
    rfl
  rw [hkey, hkey Facts.zero.entries, entries_forget]

/-- Every field of some facts has the field of the all-zero facts with its group, name, key and
kind, and that field is found by its group and key. -/
theorem exists_zero_entry {f : Facts} {e : FactEntry} (he : e ∈ f.entries) :
    ∃ z, z.forget = e.forget ∧ e.key < 2 ^ 64 ∧
      Facts.zero.entries.find? (fun x => x.group.map Prod.fst == e.group.map Prod.fst &&
        x.key == e.key) = some z := by
  have hmem : e.forget ∈ Facts.zero.entries.map forget :=
    entries_forget f ▸ List.mem_map_of_mem he
  obtain ⟨z, hz, hze⟩ := List.mem_map.mp hmem
  have hsame : z.group = e.group ∧ z.key = e.key := by
    simp only [forget, FactEntry.mk.injEq] at hze
    exact ⟨hze.1, hze.2.2.1⟩
  obtain ⟨hfind, hsmall⟩ := zero_lookups z hz
  rw [hsame.1, hsame.2] at hfind
  exact ⟨z, hze, hsame.2 ▸ hsmall, hfind⟩

/-- Every field value of facts with a fitting version is carried by the binary form. -/
theorem entries_fits {f : Facts} (hf : f.version.Fits) : ∀ e ∈ f.entries, e.value.Fits := by
  simpa [entries, FieldValue.Fits, Version.Fits] using hf

/-- A field of a group decodes through the group's field decoder. -/
theorem groupField_zero {f : Facts} {e : FactEntry} (he : e ∈ f.entries) (hv : e.value.Fits)
    {g : String} (hg : inGroup g e = true) :
    ∃ decode, groupField Facts.zero.entries g e.key = some decode ∧
      ∀ acc, decode e.value.toItem acc = .ok (acc.set e.path e.value) := by
  obtain ⟨z, hze, -, hfind⟩ := exists_zero_entry he
  have hgroup : e.group.map Prod.fst = some g := by simpa [inGroup] using hg
  rw [hgroup] at hfind
  refine ⟨decodeField z.path z.value, by simp only [groupField, hfind, Option.map_some],
    fun acc => ?_⟩
  rw [FactEntry.path_eq_of_forget hze]
  exact decodeField_toItem _ (congrArg FactEntry.value hze) hv acc

theorem groupItem_eq (f : Facts) (g : String) :
    f.groupItem g = .map (keyedEntries
      ((f.entries.filter (inGroup g)).map fun e => (e.key, e.value.toItem))) := by
  simp only [groupItem, keyedEntries, List.map_map]
  rfl

/-- A group's map decodes into the group's fields, one after another. -/
theorem decodeRecord_groupItem {f : Facts} (hf : f.version.Fits) {g : String} {k : Nat}
    (hg : (g, k) ∈ Facts.groups) (acc : Facts) :
    decodeRecord (groupType g) acc (groupField Facts.zero.entries g) (f.groupItem g) =
      .ok ((f.entries.filter (inGroup g)).foldl (fun acc e => acc.set e.path e.value) acc) := by
  rw [groupItem_eq]
  apply decodeRecord_keyByKey
  · rw [List.map_map]
    exact keys_filter_inGroup f g ▸ nodup_group_keys (g, k) hg
  · intro x hx
    obtain ⟨e, he, rfl⟩ := List.mem_map.mp hx
    obtain ⟨-, -, hsmall, -⟩ := exists_zero_entry (List.mem_filter.mp he).1
    exact hsmall
  · refine decodeKeys_map _ _ (fun (e : FactEntry) (acc : Facts) => acc.set e.path e.value)
      (fun e he => ?_) acc
    obtain ⟨hmem, hg⟩ := List.mem_filter.mp he
    exact groupField_zero hmem (entries_fits hf e hmem) hg

/-! ### The whole map -/

/-- The top-level entries of the canonical map, keys ascending: the groups by their keys, the
word size and the flonum flag. -/
def topLevel (f : Facts) : List (Nat × Item) :=
  [(1, f.groupItem "Version"), (2, .unsigned f.wordSize), (3, Item.ofBool f.flonum),
   (4, f.groupItem "Specials"), (5, f.groupItem "Header"), (6, f.groupItem "String"),
   (7, f.groupItem "Array"), (8, f.groupItem "GC"), (9, f.groupItem "TypedData")]

/-- The facts are written as the map of their top-level entries. -/
theorem toItem_eq (f : Facts) : f.toItem = .map (keyedEntries f.topLevel) := by
  simp [toItem, topLevel, entries, groups, FieldValue.toItem, keyedEntries, List.mergeSort]

theorem readable_groupItem (f : Facts) (g : String) {depth : Nat} (hd : depth < maxNesting) :
    Readable depth (f.groupItem g) := by
  rw [groupItem_eq]
  refine readable_keyed hd ?_ fun e he => ?_
  · have hlen : f.entries.length = 44 := rfl
    have hle := List.length_filter_le (inGroup g) f.entries
    rw [hlen] at hle
    rw [List.length_map]
    exact Nat.le_trans hle (by decide)
  · obtain ⟨x, -, rfl⟩ := List.mem_map.mp he
    exact x.value.readable_toItem _

/-- The canonical map of the facts is an item the reader accepts. -/
theorem readable_toItem (f : Facts) : Readable 0 f.toItem := by
  rw [toItem_eq]
  refine readable_keyed (by decide) (by simp only [topLevel, List.length_cons]; decide) ?_
  simp only [topLevel, List.forall_mem_cons, List.not_mem_nil, false_implies, implies_true,
    and_true]
  exact ⟨readable_groupItem f _ (by decide), .unsigned .., (FieldValue.flag _).readable_toItem 1,
    readable_groupItem f _ (by decide), readable_groupItem f _ (by decide),
    readable_groupItem f _ (by decide), readable_groupItem f _ (by decide),
    readable_groupItem f _ (by decide), readable_groupItem f _ (by decide)⟩

/-- Each group is decoded at its key as a record of its own. -/
theorem topField_group {g : String} {k : Nat} (hg : (g, k) ∈ Facts.groups) :
    topField Facts.zero.entries k =
      some fun item acc => decodeRecord (groupType g) acc (groupField Facts.zero.entries g) item := by
  simp only [groups, List.mem_cons, Prod.mk.injEq, List.not_mem_nil, or_false] at hg
  rcases hg with ⟨rfl, rfl⟩ | ⟨rfl, rfl⟩ | ⟨rfl, rfl⟩ | ⟨rfl, rfl⟩ | ⟨rfl, rfl⟩ | ⟨rfl, rfl⟩ |
    ⟨rfl, rfl⟩ <;> rfl

/-- Decoding a group's map at its key writes the group's fields, one after another. -/
theorem decodeKeys_group {f : Facts} (hf : f.version.Fits) {g : String} {k : Nat}
    (hg : (g, k) ∈ Facts.groups) (acc : Facts) (rest : List (Nat × Item)) :
    decodeKeys (topField Facts.zero.entries) acc ((k, f.groupItem g) :: rest) =
      decodeKeys (topField Facts.zero.entries)
        ((f.entries.filter (inGroup g)).foldl (fun acc e => acc.set e.path e.value) acc) rest :=
  decodeKeys_cons_of_ok (topField_group hg) (decodeRecord_groupItem hf hg acc)

/-- The fields in the order of their top-level keys: group by group, with the word size and the
flonum flag after the version. -/
theorem entries_eq_groups (f : Facts) : f.entries =
    f.entries.filter (inGroup "Version") ++
      [⟨none, "WordSize", 2, .word f.wordSize⟩, ⟨none, "Flonum", 3, .flag f.flonum⟩] ++
      f.entries.filter (inGroup "Specials") ++ f.entries.filter (inGroup "Header") ++
      f.entries.filter (inGroup "String") ++ f.entries.filter (inGroup "Array") ++
      f.entries.filter (inGroup "GC") ++ f.entries.filter (inGroup "TypedData") := by
  simp [entries, inGroup]

/-- Writing every field of the all-zero facts with the values of `f`, in the published order,
gives `f`. -/
theorem foldl_set_entries (f : Facts) :
    f.entries.foldl (fun acc e => acc.set e.path e.value) Facts.zero = f := by
  obtain ⟨⟨_, _⟩, _, _, ⟨_, _, _, _, _, _, _, _, _, _⟩, ⟨_, _, _, _, _, _⟩,
    ⟨_, _, _, _, _, _, _, _, _⟩, ⟨_, _, _, _, _, _, _⟩, ⟨_, _⟩, ⟨_, _, _, _, _, _⟩⟩ := f
  simp only [entries, List.foldl_cons, List.foldl_nil, FactEntry.path]
  rfl

/-- The canonical map of facts with a fitting version decodes to the same facts. -/
theorem ofItem_toItem {f : Facts} (hf : f.version.Fits) : ofItem Facts.zero f.toItem = .ok f := by
  have hword : topField Facts.zero.entries 2 = some (decodeField "WordSize" (.word 0)) := rfl
  have hflag : topField Facts.zero.entries 3 = some (decodeField "Flonum" (.flag false)) := rfl
  have hrun : decodeKeys (topField Facts.zero.entries) Facts.zero f.topLevel = .ok f := by
    rw [topLevel, decodeKeys_group hf (by decide : ("Version", 1) ∈ groups),
      decodeKeys_cons_of_ok hword (decodeField_word _ _ _ _),
      decodeKeys_cons_of_ok hflag (decodeField_flag _ _ _ _),
      decodeKeys_group hf (by decide : ("Specials", 4) ∈ groups),
      decodeKeys_group hf (by decide : ("Header", 5) ∈ groups),
      decodeKeys_group hf (by decide : ("String", 6) ∈ groups),
      decodeKeys_group hf (by decide : ("Array", 7) ∈ groups),
      decodeKeys_group hf (by decide : ("GC", 8) ∈ groups),
      decodeKeys_group hf (by decide : ("TypedData", 9) ∈ groups), decodeKeys_nil]
    have hfold := foldl_set_entries f
    rw [entries_eq_groups f] at hfold
    simp only [List.foldl_append, List.foldl_cons, List.foldl_nil] at hfold
    exact congrArg Except.ok hfold
  rw [ofItem, toItem_eq]
  have hkeys : (f.topLevel.map Prod.fst).Nodup := by
    simp only [topLevel, List.map_cons, List.map_nil]
    decide
  have hsmall : ∀ e ∈ f.topLevel, e.1 < 2 ^ 64 := by simp [topLevel]
  exact decodeRecord_keyByKey _ _ _ hkeys hsmall hrun

/-- The canonical bytes of facts with a fitting version decode to the same facts. -/
theorem decode_encode {f : Facts} (hf : f.version.Fits) :
    decode (ByteArray.mk f.encode.toArray) = .ok f := by
  simp only [decode, encode, read_encode (readable_toItem f), ofItem_toItem hf]

/-- Facts with fitting versions and the same bytes are the same facts. -/
theorem encode_injective {f f' : Facts} (hf : f.version.Fits) (hf' : f'.version.Fits)
    (hsame : f'.encode = f.encode) : f' = f := by
  have hread := decode_encode hf'
  rw [hsame, decode_encode hf] at hread
  exact (Except.ok.inj hread).symm

end Facts

/-- The binary form of the facts round-trips: the canonical bytes of facts whose version numbers
are machine integers decode to the same facts. Two such facts with the same bytes are therefore
the same, and the fingerprint hashes bytes that decode to the facts it fingerprints. -/
theorem facts_codec_round_trips (f : Facts) (hf : f.version.Fits) :
    Facts.decode (ByteArray.mk f.encode.toArray) = .ok f ∧
      (∀ f' : Facts, f'.version.Fits → f'.encode = f.encode → f' = f) ∧
      ∃ bytes, Facts.decode bytes = .ok f ∧ f.fingerprint = Xxh3.hash bytes :=
  ⟨Facts.decode_encode hf, fun _ hf' hsame => Facts.encode_injective hf hf' hsame,
    _, Facts.decode_encode hf, rfl⟩

/-- The facts of 3.4 read back from their bytes. -/
theorem facts_codec_round_trips_of_release :
    Release.v34.facts.version.Fits ∧
      Facts.decode (ByteArray.mk Release.v34.facts.encode.toArray) = .ok Release.v34.facts :=
  have hv : Release.v34.facts.version.Fits := by decide
  ⟨hv, (facts_codec_round_trips _ hv).1⟩

end RubyLayout
