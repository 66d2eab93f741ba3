import RubyLayout.Cbor.Decode
import RubyLayout.Proofs.CborItems
import RubyLayout.Value.Word

/-!
# Decoding CBOR items into records, key by key

A record is written as a map from the numbers of its fields to their values, and decoded by
`decodeRecord`. When the keys are distinct unsigned integers, decoding the map is decoding its
entries one after another in the order written, each into the field its key names and
skipping unknown keys (`decodeRecord_keyByKey`); `decodeKeys` says this on its own. A list is
written as an array and decoded element by element (`decodeList_array`).

The field values read back: an unsigned word, a flag, a text, and a machine integer, that is a
number from `longMin` to `longMax` (`IsLong`), which is written as an unsigned or a negative
integer by its sign (`decodeInt_ofInt`).
-/

set_option autoImplicit false
set_option relaxedAutoImplicit false

namespace RubyLayout

/-- A machine integer: a number from `longMin` to `longMax`. -/
def IsLong (i : Int) : Prop := longMin ≤ i ∧ i ≤ longMax

instance (i : Int) : Decidable (IsLong i) := inferInstanceAs (Decidable (_ ∧ _))

namespace Cbor

/-! ### Field values -/

theorem decodeWord_unsigned (n : UInt64) : decodeWord (.unsigned n) = .ok (some n) := by
  simp only [decodeWord, datum, bind, Except.bind, Nat.toUInt64_eq, UInt64.ofNat_toNat]

theorem decodeBool_ofBool (b : Bool) : decodeBool (Item.ofBool b) = .ok (some b) := by
  cases b <;> rfl

/-- A machine integer reads back from the item its sign chooses. -/
theorem decodeInt_ofInt {i : Int} (hi : IsLong i) :
    decodeInt (Item.ofInt i) = .ok (some i) := by
  obtain ⟨hlo, hhi⟩ := hi
  have hmin : longMin = -2 ^ 63 := rfl
  have hmax : longMax = 2 ^ 63 - 1 := rfl
  have hlimit : intLimit.toNat = 2 ^ 63 - 1 := rfl
  unfold Item.ofInt
  by_cases hneg : i < 0
  · have hmag : ((-1 - i).toNat.toUInt64).toNat = (-1 - i).toNat :=
      UInt64.toNat_ofNat_of_lt' (show (-1 - i).toNat < 2 ^ 64 by omega)
    have hsmall : ¬ (-1 - i).toNat.toUInt64 > intLimit := by
      rw [GT.gt, UInt64.lt_iff_toNat_lt, hmag, hlimit]
      omega
    simp only [if_pos hneg, decodeInt, datum, if_neg hsmall, bind, Except.bind, hmag]
    congr 2
    omega
  · have hval : (i.toNat.toUInt64).toNat = i.toNat :=
      UInt64.toNat_ofNat_of_lt' (show i.toNat < 2 ^ 64 by omega)
    have hsmall : ¬ i.toNat > intLimit.toNat := by
      rw [hlimit]
      omega
    simp only [if_neg hneg, decodeInt, datum, bind, Except.bind, hval, if_neg hsmall]
    congr 2
    omega

/-- The UTF-8 bytes of a text are valid and decode to the text. -/
theorem fromUTF8?_toUTF8 (s : String) :
    String.fromUTF8? (ByteArray.mk s.toUTF8.toList.toArray) = some s := by
  rw [byteArray_toList, Array.toArray_toList]
  simp only [String.fromUTF8?, String.toUTF8_eq_toByteArray, dif_pos s.isValidUTF8]
  rfl

theorem decodeText_ofString (s : String) : decodeText (Item.ofString s) = .ok (some s) := by
  simp only [decodeText, Item.ofString, datum, fromUTF8?_toUTF8, bind, Except.bind]

/-! ### Records -/

/-- Decoding map entries key by key into a record from `init`: each entry whose key names a
field is decoded into it in turn, an entry whose key names none is skipped. -/
def decodeKeys {α : Type} (field : Nat → Option (Item → α → Except DecodeError α)) (init : α)
    (es : List (Nat × Item)) : Except DecodeError α :=
  es.foldlM (fun acc e => match field e.1 with
    | some decode => decode e.2 acc
    | none => pure acc) init

@[simp] theorem decodeKeys_nil {α : Type} (field : Nat → Option (Item → α → Except DecodeError α))
    (init : α) : decodeKeys field init [] = .ok init := rfl

theorem decodeKeys_cons {α : Type} (field : Nat → Option (Item → α → Except DecodeError α))
    (init : α) (k : Nat) (v : Item) (es : List (Nat × Item)) :
    decodeKeys field init ((k, v) :: es) =
      ((match field k with
        | some decode => decode v init
        | none => pure init) >>= fun acc => decodeKeys field acc es) := by
  simp only [decodeKeys, List.foldlM_cons]

theorem decodeKeys_cons_of_ok {α : Type} {field : Nat → Option (Item → α → Except DecodeError α)}
    {init value : α} {k : Nat} {v : Item} {es : List (Nat × Item)}
    {decode : Item → α → Except DecodeError α}
    (hfield : field k = some decode) (hdecode : decode v init = .ok value) :
    decodeKeys field init ((k, v) :: es) = decodeKeys field value es := by
  simp only [decodeKeys, List.foldlM_cons, hfield, hdecode]
  rfl

theorem decodeKeys_append_of_ok {α : Type} {field : Nat → Option (Item → α → Except DecodeError α)}
    {init value : α} {es rest : List (Nat × Item)} (h : decodeKeys field init es = .ok value) :
    decodeKeys field init (es ++ rest) = decodeKeys field value rest := by
  simp only [decodeKeys, List.foldlM_append] at h ⊢
  rw [h]
  rfl

/-- Entries that each decode into their field update the record one after another. -/
theorem decodeKeys_map {α β : Type} (field : Nat → Option (Item → α → Except DecodeError α))
    (entry : β → Nat × Item) (update : β → α → α) {xs : List β}
    (hxs : ∀ x ∈ xs, ∃ decode, field (entry x).1 = some decode ∧
      ∀ acc, decode (entry x).2 acc = .ok (update x acc)) :
    ∀ acc, decodeKeys field acc (xs.map entry) = .ok (xs.foldl (fun acc x => update x acc) acc) := by
  induction xs with
  | nil => intro acc; rfl
  | cons x rest ih =>
    intro acc
    obtain ⟨decode, hfield, hdecode⟩ := hxs x (List.mem_cons_self ..)
    rw [List.map_cons, List.foldl_cons]
    exact (decodeKeys_cons_of_ok hfield (hdecode acc)).trans
      (ih (fun y hy => hxs y (List.mem_cons_of_mem _ hy)) _)

/-- The entries of a map with unsigned keys. -/
def keyedEntries (es : List (Nat × Item)) : List (Item × Item) :=
  es.map fun e => (.unsigned e.1.toUInt64, e.2)

theorem readable_ofInt (depth : Nat) (i : Int) : Readable depth (Item.ofInt i) := by
  unfold Item.ofInt
  split
  · exact .negative ..
  · exact .unsigned ..

/-- Entries with unsigned keys and readable values have readable keys and values. -/
theorem readable_keyedEntries {depth : Nat} {es : List (Nat × Item)}
    (hvalues : ∀ e ∈ es, Readable depth e.2) :
    ∀ e ∈ keyedEntries es, Readable depth e.1 ∧ Readable depth e.2 := by
  intro e he
  obtain ⟨x, hx, rfl⟩ := List.mem_map.mp he
  exact ⟨.unsigned .., hvalues x hx⟩

/-- A map with unsigned keys and readable values, not too many and not too deep, is readable. -/
theorem readable_keyed {depth : Nat} {es : List (Nat × Item)} (hd : depth < maxNesting)
    (hn : es.length ≤ maxElements) (hvalues : ∀ e ∈ es, Readable (depth + 1) e.2) :
    Readable depth (.map (keyedEntries es)) :=
  .map depth _ hd (by simpa [keyedEntries] using hn)
    (fun e he => (readable_keyedEntries hvalues e he).1)
    (fun e he => (readable_keyedEntries hvalues e he).2)

/-- The fold of `decodeRecord` over entries with distinct keys that all decode: the keys seen so
far are never met again, so every entry is decoded into its field. -/
theorem foldl_recordStep {α : Type} (record : String)
    (field : Nat → Option (Item → α → Except DecodeError α)) {es : List (Nat × Item)}
    (hkeys : (es.map Prod.fst).Nodup) (hsmall : ∀ e ∈ es, e.1 < 2 ^ 64) :
    ∀ {value r : α} {found : List Nat}, (∀ e ∈ es, e.1 ∉ found) →
      decodeKeys field value es = .ok r →
      ∃ found', (keyedEntries es).foldl (recordStep record field) (value, found, none) =
        (r, found', none) := by
  induction es with
  | nil =>
    intro value r found _ hrun
    cases hrun
    exact ⟨found, rfl⟩
  | cons e rest ih =>
    intro value r found hfresh hrun
    obtain ⟨k, v⟩ := e
    simp only [List.map_cons, List.nodup_cons, List.mem_map] at hkeys
    have hk : k < 2 ^ 64 := hsmall (k, v) (List.mem_cons_self ..)
    have hkey : keyOf (.unsigned k.toUInt64) = .ok (some k) := by
      simp only [keyOf, Nat.toUInt64_eq, UInt64.toNat_ofNat', Nat.mod_eq_of_lt hk]
    have hnew : found.contains k = false := by
      simpa using hfresh (k, v) (List.mem_cons_self ..)
    have hrest : ∀ e ∈ rest, e.1 < 2 ^ 64 := fun e he => hsmall e (List.mem_cons_of_mem _ he)
    rw [decodeKeys_cons] at hrun
    simp only [keyedEntries, List.map_cons, List.foldl_cons]
    cases hfield : field k with
    | none =>
      simp only [hfield] at hrun
      have hstep : recordStep record field (value, found, none) (.unsigned k.toUInt64, v) =
          (value, found, none) := by
        simp only [recordStep, hkey, hnew, hfield]
        rfl
      rw [hstep]
      exact ih hkeys.2 hrest (fun e he => hfresh e (List.mem_cons_of_mem _ he)) hrun
    | some decode =>
      simp only [hfield] at hrun
      cases hdec : decode v value with
      | error err =>
        rw [hdec] at hrun
        cases hrun
      | ok value' =>
        rw [hdec] at hrun
        have hstep : recordStep record field (value, found, none) (.unsigned k.toUInt64, v) =
            (value', k :: found, none) := by
          simp only [recordStep, hkey, hnew, hfield, hdec]
          rfl
        rw [hstep]
        refine ih hkeys.2 hrest (fun e he hmem => ?_) hrun
        rcases List.mem_cons.mp hmem with heq | hfound
        · exact hkeys.1 ⟨e, he, heq⟩
        · exact hfresh e (List.mem_cons_of_mem _ he) hfound

/-- A map with distinct unsigned keys is decoded into a record key by key. -/
theorem decodeRecord_keyByKey {α : Type} (record : String) (init : α)
    (field : Nat → Option (Item → α → Except DecodeError α)) {es : List (Nat × Item)}
    (hkeys : (es.map Prod.fst).Nodup) (hsmall : ∀ e ∈ es, e.1 < 2 ^ 64) {r : α}
    (hrun : decodeKeys field init es = .ok r) :
    decodeRecord record init field (.map (keyedEntries es)) = .ok r := by
  obtain ⟨found, hfold⟩ : ∃ found, (keyedEntries es).foldl (recordStep record field)
      (init, [], none) = (r, found, none) :=
    foldl_recordStep record field hkeys hsmall (fun _ _ h => List.not_mem_nil h) hrun
  simp only [decodeRecord, datum, bind, Except.bind, hfold]

/-! ### Lists -/

theorem foldl_listStep {α : Type} (element : Item → Except DecodeError α) (enc : α → Item)
    {xs : List α} (hxs : ∀ x ∈ xs, element (enc x) = .ok x) :
    ∀ acc : List α, (xs.map enc).foldl (listStep element) (acc, none) = (acc ++ xs, none) := by
  induction xs with
  | nil => intro acc; simp
  | cons x rest ih =>
    intro acc
    simp only [List.map_cons, List.foldl_cons, listStep, hxs x (List.mem_cons_self ..)]
    rw [ih (fun y hy => hxs y (List.mem_cons_of_mem _ hy))]
    simp

/-- A list written as an array of encoded elements is decoded element by element. -/
theorem decodeList_array {α : Type} (target : String) (element : Item → Except DecodeError α)
    (enc : α → Item) {xs : List α} (hxs : ∀ x ∈ xs, element (enc x) = .ok x) :
    decodeList target element (.array (xs.map enc)) = .ok (some xs) := by
  simp only [decodeList, datum, bind, Except.bind, foldl_listStep element enc hxs [],
    List.nil_append]

end Cbor

end RubyLayout
