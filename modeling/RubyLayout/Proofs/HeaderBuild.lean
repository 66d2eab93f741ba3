import RubyLayout.Proofs.Headers
import RubyLayout.Proofs.TypedData
import RubyLayout.Proofs.Strings
import RubyLayout.Proofs.Arrays

/-!
# Headers of built objects

Every builder that allocates an object writes the header of its type first and then only fields
past the class word, or bytes past the bump pointer. This module proves that for each builder with
the rules of `Headers`, and then reads the headers back through the accessors.

`BodyOffsets` records where the builders write after allocating: every field of every release lies
past the class word and inside the base slot. From it each builder keeps the header it allocated
(`Heap.buildsHeader_heapFloat` and the others). Embedded strings of the releases up to 3.1 keep
their length in the flag bits. `Heap.keepsHeader_orFlags` allows that, because those bits miss the
type field and the frozen flag. A dynamic symbol first builds the string of its name, which keeps
every range below the bump pointer (`Heap.keepsRange_string`). A release without typed data
refuses typed data before building anything (`Heap.exec_typedObject_unsupported`).

`ObjectBuilder` lists the builders with their arguments, the type of what they make
(`ObjectBuilder.type`) and whether it is frozen (`ObjectBuilder.frozen`). Main statement:
`built_objects_decode`. On a sound heap where every type of boot has a class, the value a builder
returns is a heap reference of the builder's type for every tier of the accessors. Its class is
the class of that type, and it is frozen exactly for dynamic symbols, floats and bignums. Hiding
it clears its class and freezing it sets its frozen flag; neither changes its type. A heap made by
`create` has a class for every type of boot, every class object has the class type, and the class
of classes is its own class.
-/

set_option autoImplicit false
set_option relaxedAutoImplicit false

namespace RubyLayout

open Memory

/-! ### Where the builders write -/

/-- A field offset past the class word and inside the base slot. -/
def InBody (k : UInt64) : Prop := 16 ≤ k.toNat ∧ k.toNat ≤ 40

instance (k : UInt64) : Decidable (InBody k) := inferInstanceAs (Decidable (_ ∧ _))

/-- Every field the builders write after allocating an object lies past its class word. -/
structure BodyOffsets (f : Facts) : Prop where
  strLen : f.string.embedLenMask = 0 → InBody f.string.embedLenOffset
  strAry : InBody f.string.embedAryOffset
  strHeapLen : InBody f.string.heapLenOffset
  strHeapPtr : InBody f.string.heapPtrOffset
  strHeapCap : InBody (f.string.heapPtrOffset + 8)
  aryAry : InBody f.array.embedAryOffset
  aryHeapLen : InBody f.array.heapLenOffset
  aryHeapCap : InBody (f.array.heapLenOffset + 8)
  aryHeapPtr : InBody f.array.heapPtrOffset
  typedType : f.typedData.supported = true → InBody f.typedData.typeOffset
  typedFlag : f.typedData.supported = true → f.typedData.typedFlag = 0 →
    InBody f.typedData.flagOffset
  typedData : f.typedData.supported = true → InBody f.typedData.dataOffset
  typedEmbed : f.typedData.supported = true → InBody f.typedData.embedOffset

/-- The fields of every release lie past the class word. -/
theorem Release.bodyOffsets (r : Release) : BodyOffsets r.facts := by
  cases r <;> exact ⟨by decide, by decide, by decide, by decide, by decide, by decide, by decide,
    by decide, by decide, by decide, by decide, by decide, by decide⟩

theorem InBody.le_mapLimit {k : UInt64} (hk : InBody k) : k.toNat ≤ Heap.mapLimit := by
  have hlim : Heap.mapLimit = 2 ^ 47 := rfl
  have := hk.2
  omega

namespace Heap

variable {r : Release} {base : UInt64} {off : Nat} {k : UInt64}

/-- A write at a field of the object at `off` keeps its header. -/
theorem keepsRange_writeBytes_body (off : Nat) (hk : InBody k) (hoff : off ≤ mapLimit)
    {b : ByteArray} :
    KeepsRange r base off (off + 16) (writeBytes (base + off.toUInt64 + k) b) := by
  have hlim : mapLimit = 2 ^ 47 := rfl
  have := hk.1
  have := hk.2
  exact keepsRange_writeBytes_at off k hoff (by omega) (Or.inr (by omega))

theorem keepsRange_writeWord_body (off : Nat) (hk : InBody k) (hoff : off ≤ mapLimit)
    {w : UInt64} :
    KeepsRange r base off (off + 16) (writeWord (base + off.toUInt64 + k) w) :=
  keepsRange_writeBytes_body off hk hoff

theorem keepsHeader_writeWord_body (off : Nat) (hk : InBody k) (hoff : off ≤ mapLimit)
    {t : TypeCode} {fr : Bool} {c w : Value} {β : Type} {f : Unit → HeapM β}
    (hf : ∀ u, KeepsHeader r base off t fr c (f u)) :
    KeepsHeader r base off t fr c (writeWord (base + off.toUInt64 + k) w >>= f) :=
  keepsHeader_bind (keepsHeader_of_keepsRange (keepsRange_writeWord_body off hk hoff))
    (keepsArena_writeWord _ _) hf

/-- A builder that throws before allocating builds nothing. -/
theorem buildsHeader_throw_bind {t : TypeCode} {fr : Bool} {α : Type} (e : HeapError)
    (f : α → HeapM Value) : BuildsHeader r t fr (throw e >>= f) := by
  intro h c v h' _ _ hx
  rw [exec_bind, exec_throw] at hx
  cases hx

/-- Interning a name changes only the symbol table. -/
theorem keepsRange_internId {lo hi : Nat} (name : String) : KeepsRange r base lo hi (internId name) := by
  unfold internId
  refine keepsRange_get_bind fun h0 _ ↦ ?_
  split
  exact keepsRange_bind (keepsRange_modify fun h ↦ ⟨rfl, rfl, rfl, rfl⟩) fun _ ↦
    keepsRange_pure _

theorem keepsArena_internId (name : String) : KeepsArena (internId name) :=
  Frame.keeps_internId (R := SameArena) (fun _ _ ↦ ⟨rfl, rfl, rfl⟩) name

/-! ### Objects of one word of payload or none -/

variable (r)

theorem buildsHeader_hash : BuildsHeader r .hash false hash := by
  have hb := Release.headerBits r
  unfold hash
  exact buildsHeader_getFacts_bind (buildsHeader_object_plain (by rw [hb.typeMask_eq]; decide))

theorem buildsHeader_plainObject : BuildsHeader r .object false plainObject := by
  have hb := Release.headerBits r
  unfold plainObject
  exact buildsHeader_getFacts_bind (buildsHeader_object_plain (by rw [hb.typeMask_eq]; decide))

theorem buildsHeader_heapFloat (bits : UInt64) : BuildsHeader r .float true (heapFloat bits) := by
  have hb := Release.headerBits r
  unfold heapFloat
  refine buildsHeader_getFacts_bind ?_
  rw [Release.wordSize_eq]
  refine buildsHeader_bind (buildsHeader_object (by rw [hb.typeMask_eq]; decide) hb.freeze_type ?_)
    (fun base off c hoff ↦ ?_) (fun v ↦ ?_) (fun v ↦ returns_bind fun _ ↦ returns_pure _)
  · rw [UInt64.and_self, bne_iff_ne]
    exact hb.freeze_ne
  · exact keepsHeader_writeWord_body off (by decide) (by omega) fun _ ↦
      keepsHeader_of_keepsRange (keepsRange_pure _)
  · exact keepsArena_bind (keepsArena_writeWord _ _) fun _ ↦ keepsArena_pure _

theorem buildsHeader_untypedData (data : UInt64) :
    BuildsHeader r .data false (untypedData data) := by
  have hb := Release.headerBits r
  unfold untypedData
  refine buildsHeader_getFacts_bind ?_
  rw [Release.wordSize_eq]
  refine buildsHeader_bind (buildsHeader_object_plain (by rw [hb.typeMask_eq]; decide))
    (fun base off c hoff ↦ ?_) (fun v ↦ ?_) (fun v ↦ returns_bind fun _ ↦ returns_pure _)
  · exact keepsHeader_writeWord_body off (by decide) (by omega) fun _ ↦
      keepsHeader_of_keepsRange (keepsRange_pure _)
  · exact keepsArena_bind (keepsArena_writeWord _ _) fun _ ↦ keepsArena_pure _

/-- A bignum is frozen, with its sign among its flags. -/
theorem buildsHeader_bignum (x : Int) : BuildsHeader r .bignum true (bignum x) := by
  have hb := Release.headerBits r
  unfold bignum
  refine buildsHeader_getFacts_bind ?_
  rw [Release.wordSize_eq]
  refine buildsHeader_bind (buildsHeader_object (by rw [hb.typeMask_eq]; decide) ?_ ?_)
    (fun base off c hoff ↦ keepsHeader_of_keepsRange ?_) (fun v ↦ ?_)
    (fun v ↦ returns_bind fun _ ↦ returns_bind fun _ ↦ returns_bind fun _ ↦
      returns_bind fun _ ↦ returns_bind fun _ ↦ returns_pure _)
  · rw [Bits.or_and, hb.freeze_type, UInt64.or_zero]
    split
    · exact hb.sign_type
    · exact UInt64.zero_and
  · rw [bne_iff_ne, Bits.or_and, UInt64.and_self]
    exact Bits.or_ne_zero_of_right _ hb.freeze_ne
  · refine keepsRange_raw_bind fun buf hbuf hlim ↦ ?_
    refine keepsRange_bind (keepsRange_writeBytes_off buf (by omega) (Or.inr hbuf)) fun _ ↦ ?_
    refine keepsRange_bind (keepsRange_writeWord_body off (by decide) (by omega)) fun _ ↦ ?_
    refine keepsRange_bind (keepsRange_writeWord_body off (by decide) (by omega)) fun _ ↦ ?_
    exact keepsRange_bind (keepsRange_modify fun h ↦ ⟨rfl, rfl, rfl, rfl⟩) fun _ ↦
      keepsRange_pure _
  · exact keepsArena_bind (keepsArena_raw _) fun _ ↦ keepsArena_bind (keepsArena_writeBytes _ _)
      fun _ ↦ keepsArena_bind (keepsArena_writeWord _ _) fun _ ↦
      keepsArena_bind (keepsArena_writeWord _ _) fun _ ↦
      keepsArena_bind (keepsArena_modify fun h ↦ ⟨rfl, rfl, rfl⟩) fun _ ↦ keepsArena_pure _

/-! ### Strings -/

section Frames

variable {lo hi : Nat}

/-- An embedded string writes only its own slot, past the bump pointer it starts from. -/
theorem keepsRange_embeddedString (s : ByteArray) : KeepsRange r base lo hi (embeddedString s) := by
  have hbo := Release.bodyOffsets r
  unfold embeddedString
  refine keepsRange_getFacts_bind ?_
  refine keepsRange_object_bind fun off hoff hlim ↦ ?_
  have hbytes : KeepsRange r base lo hi
      (writeBytes (base + off.toUInt64 + r.facts.string.embedAryOffset) s) :=
    keepsRange_writeBytes_at off _ (by omega) hbo.strAry.le_mapLimit (Or.inr (by omega))
  dsimp only
  split
  · exact keepsRange_bind (keepsRange_orFlags_at off (by omega) (Or.inr hoff)) fun _ ↦
      keepsRange_bind hbytes fun _ ↦ keepsRange_pure _
  · rename_i hmask
    exact keepsRange_bind (keepsRange_writeWord_at off _ (by omega)
      (hbo.strLen (Decidable.of_not_not hmask)).le_mapLimit (Or.inr (by omega))) fun _ ↦
      keepsRange_bind hbytes fun _ ↦ keepsRange_pure _

/-- A string with a separate buffer writes only its slot and its buffer, past the bump pointer it
starts from. -/
theorem keepsRange_heapStringOf (n : Nat) (bytes : Unit → ByteArray) :
    KeepsRange r base lo hi (heapStringOf n bytes) := by
  have hbo := Release.bodyOffsets r
  unfold heapStringOf
  refine keepsRange_getFacts_bind ?_
  rw [Release.wordSize_eq]
  refine keepsRange_object_bind fun off hoff hlim ↦ ?_
  refine keepsRange_raw_bind fun buf hbuf hblim ↦ ?_
  refine keepsRange_bind (keepsRange_writeBytes_off buf (by omega) (Or.inr hbuf)) fun _ ↦ ?_
  refine keepsRange_bind (keepsRange_writeWord_at off _ (by omega) hbo.strHeapLen.le_mapLimit
    (Or.inr (by omega))) fun _ ↦ ?_
  refine keepsRange_bind (keepsRange_writeWord_at off _ (by omega) hbo.strHeapPtr.le_mapLimit
    (Or.inr (by omega))) fun _ ↦ ?_
  rw [UInt64.add_assoc (base + off.toUInt64)]
  exact keepsRange_bind (keepsRange_writeWord_at off _ (by omega) hbo.strHeapCap.le_mapLimit
    (Or.inr (by omega))) fun _ ↦ keepsRange_pure _

theorem keepsRange_stringOf (n : Nat) (bytes : Unit → ByteArray) :
    KeepsRange r base lo hi (stringOf n bytes) := by
  unfold stringOf
  refine keepsRange_getFacts_bind ?_
  split
  · exact keepsRange_embeddedString r _
  · exact keepsRange_heapStringOf r n bytes

theorem keepsRange_string (s : ByteArray) : KeepsRange r base lo hi (string s) :=
  keepsRange_stringOf r _ _

end Frames

/-- An embedded string is not frozen: its length goes to the flag bits, which keep the header's
type, or to a word past the header. -/
theorem buildsHeader_embeddedString (s : ByteArray) :
    BuildsHeader r .string false (embeddedString s) := by
  have hb := Release.headerBits r
  have hsb := Release.stringBits r
  have hbo := Release.bodyOffsets r
  unfold embeddedString
  refine buildsHeader_getFacts_bind ?_
  refine buildsHeader_bind (buildsHeader_object_plain (by rw [hb.typeMask_eq]; decide))
    (fun base off c hoff ↦ ?_) (fun v ↦ ?_) (fun v ↦ ?_)
  · have hbytes : KeepsHeader r base off .string false c
        (writeBytes (base + off.toUInt64 + r.facts.string.embedAryOffset) s >>= fun _ ↦
          pure (base + off.toUInt64)) :=
      keepsHeader_of_keepsRange (keepsRange_bind (keepsRange_writeBytes_body off hbo.strAry
        (by omega)) fun _ ↦ keepsRange_pure _)
    dsimp only
    split
    · exact keepsHeader_bind (keepsHeader_orFlags (Bits.and_and_eq_zero _ hsb.lenMask_type)
        (Bits.and_and_eq_zero _ hb.strLen_freeze)) (keepsArena_orFlags _ _) fun _ ↦ hbytes
    · rename_i hmask
      exact keepsHeader_writeWord_body off (hbo.strLen (Decidable.of_not_not hmask)) (by omega)
        fun _ ↦ hbytes
  · dsimp only
    split
    · exact keepsArena_bind (keepsArena_orFlags _ _) fun _ ↦
        keepsArena_bind (keepsArena_writeBytes _ _) fun _ ↦ keepsArena_pure _
    · exact keepsArena_bind (keepsArena_writeWord _ _) fun _ ↦
        keepsArena_bind (keepsArena_writeBytes _ _) fun _ ↦ keepsArena_pure _
  · dsimp only
    split <;> exact returns_bind fun _ ↦ returns_bind fun _ ↦ returns_pure _

/-- A string with a separate buffer is not frozen: its bytes go to a buffer past the slot, and its
length, pointer and capacity to the slot past the header. -/
theorem buildsHeader_heapStringOf (n : Nat) (bytes : Unit → ByteArray) :
    BuildsHeader r .string false (heapStringOf n bytes) := by
  have hb := Release.headerBits r
  have hsb := Release.stringBits r
  have hbo := Release.bodyOffsets r
  unfold heapStringOf
  refine buildsHeader_getFacts_bind ?_
  rw [Release.wordSize_eq]
  refine buildsHeader_bind (buildsHeader_object (by rw [hb.typeMask_eq]; decide) hsb.noEmbed_type
    (by rw [hb.noEmbed_freeze]; rfl)) (fun base off c hoff ↦ keepsHeader_of_keepsRange ?_)
    (fun v ↦ ?_) (fun v ↦ returns_bind fun _ ↦ returns_bind fun _ ↦ returns_bind fun _ ↦
      returns_bind fun _ ↦ returns_bind fun _ ↦ returns_pure _)
  · refine keepsRange_raw_bind fun buf hbuf hblim ↦ ?_
    refine keepsRange_bind (keepsRange_writeBytes_off buf (by omega) (Or.inr hbuf)) fun _ ↦ ?_
    refine keepsRange_bind (keepsRange_writeWord_body off hbo.strHeapLen (by omega)) fun _ ↦ ?_
    refine keepsRange_bind (keepsRange_writeWord_body off hbo.strHeapPtr (by omega)) fun _ ↦ ?_
    rw [UInt64.add_assoc (base + off.toUInt64)]
    exact keepsRange_bind (keepsRange_writeWord_body off hbo.strHeapCap (by omega)) fun _ ↦
      keepsRange_pure _
  · exact keepsArena_bind (keepsArena_raw _) fun _ ↦ keepsArena_bind (keepsArena_writeBytes _ _)
      fun _ ↦ keepsArena_bind (keepsArena_writeWord _ _) fun _ ↦
      keepsArena_bind (keepsArena_writeWord _ _) fun _ ↦
      keepsArena_bind (keepsArena_writeWord _ _) fun _ ↦ keepsArena_pure _

theorem buildsHeader_stringOf (n : Nat) (bytes : Unit → ByteArray) :
    BuildsHeader r .string false (stringOf n bytes) := by
  unfold stringOf
  exact buildsHeader_getFacts_bind (buildsHeader_ite (buildsHeader_embeddedString r _)
    (buildsHeader_heapStringOf r n bytes))

/-! ### Arrays -/

theorem buildsHeader_embeddedArray (elems : List Value) :
    BuildsHeader r .array false (embeddedArray elems) := by
  have hb := Release.headerBits r
  have hab := Release.arrayBits r
  have hbo := Release.bodyOffsets r
  unfold embeddedArray
  refine buildsHeader_getFacts_bind ?_
  refine buildsHeader_bind (buildsHeader_object (by rw [hb.typeMask_eq]; decide) ?_ ?_)
    (fun base off c hoff ↦ keepsHeader_of_keepsRange ?_)
    (fun v ↦ keepsArena_bind (keepsArena_writeBytes _ _) fun _ ↦ keepsArena_pure _)
    (fun v ↦ returns_bind fun _ ↦ returns_pure _)
  · rw [Bits.or_and, hab.embedFlag_type, Bits.and_and_eq_zero _ hab.lenMask_type, UInt64.or_zero]
  · rw [Bits.or_and, hb.aryFlag_freeze, Bits.and_and_eq_zero _ hb.aryLen_freeze, UInt64.or_zero]
    rfl
  · exact keepsRange_bind (keepsRange_writeBytes_body off hbo.aryAry (by omega)) fun _ ↦
      keepsRange_pure _

/-- An array with a separate buffer is not frozen: its elements go to a buffer past the slot, and
its length, capacity and pointer to the slot past the header. -/
theorem buildsHeader_heapArrayOf (n : Nat) (elems : Unit → List Value) :
    BuildsHeader r .array false (heapArrayOf n elems) := by
  have hb := Release.headerBits r
  have hbo := Release.bodyOffsets r
  unfold heapArrayOf
  refine buildsHeader_getFacts_bind ?_
  rw [Release.wordSize_eq]
  refine buildsHeader_bind (buildsHeader_object_plain (by rw [hb.typeMask_eq]; decide))
    (fun base off c hoff ↦ keepsHeader_of_keepsRange ?_)
    (fun v ↦ ?_) (fun v ↦ returns_bind fun _ ↦ returns_bind fun _ ↦ returns_bind fun _ ↦
      returns_bind fun _ ↦ returns_bind fun _ ↦ returns_pure _)
  · refine keepsRange_raw_bind fun buf hbuf hblim ↦ ?_
    refine keepsRange_bind (keepsRange_writeBytes_off buf (by omega) (Or.inr hbuf)) fun _ ↦ ?_
    refine keepsRange_bind (keepsRange_writeWord_body off hbo.aryHeapLen (by omega)) fun _ ↦ ?_
    rw [UInt64.add_assoc (base + off.toUInt64)]
    refine keepsRange_bind (keepsRange_writeWord_body off hbo.aryHeapCap (by omega)) fun _ ↦ ?_
    exact keepsRange_bind (keepsRange_writeWord_body off hbo.aryHeapPtr (by omega)) fun _ ↦
      keepsRange_pure _
  · exact keepsArena_bind (keepsArena_raw _) fun _ ↦ keepsArena_bind (keepsArena_writeBytes _ _)
      fun _ ↦ keepsArena_bind (keepsArena_writeWord _ _) fun _ ↦
      keepsArena_bind (keepsArena_writeWord _ _) fun _ ↦
      keepsArena_bind (keepsArena_writeWord _ _) fun _ ↦ keepsArena_pure _

theorem buildsHeader_arrayOf (n : Nat) (elems : Unit → List Value) :
    BuildsHeader r .array false (arrayOf n elems) := by
  unfold arrayOf
  exact buildsHeader_getFacts_bind (buildsHeader_ite (buildsHeader_embeddedArray r _)
    (buildsHeader_heapArrayOf r n elems))

/-! ### Dynamic symbols -/

/-- A dynamic symbol is frozen; the string of its name, built first, is left as it is. -/
theorem buildsHeader_dynamicSymbol (name : String) :
    BuildsHeader r .symbol true (dynamicSymbol name) := by
  have hb := Release.headerBits r
  unfold dynamicSymbol
  refine buildsHeader_bind_of_keepsRange (fun _ ↦ keepsRange_string r _) fun fstr ↦ ?_
  refine buildsHeader_getFacts_bind ?_
  rw [Release.wordSize_eq]
  refine buildsHeader_bind (buildsHeader_object (by rw [hb.typeMask_eq]; decide) hb.freeze_type ?_)
    (fun base off c hoff ↦ keepsHeader_of_keepsRange ?_) (fun v ↦ ?_)
    (fun v ↦ returns_bind fun _ ↦ returns_bind fun _ ↦ returns_bind fun _ ↦
      returns_bind fun _ ↦
      returns_pure _)
  · rw [UInt64.and_self, bne_iff_ne]
    exact hb.freeze_ne
  · refine keepsRange_bind (keepsRange_internId name) fun _ ↦ ?_
    refine keepsRange_bind (keepsRange_writeWord_body off (by decide) (by omega)) fun _ ↦ ?_
    refine keepsRange_bind (keepsRange_writeWord_body off (by decide) (by omega)) fun _ ↦ ?_
    exact keepsRange_bind (keepsRange_modify fun h ↦ ⟨rfl, rfl, rfl, rfl⟩) fun _ ↦
      keepsRange_pure _
  · exact keepsArena_bind (keepsArena_internId _) fun _ ↦
      keepsArena_bind (keepsArena_writeWord _ _) fun _ ↦
      keepsArena_bind (keepsArena_writeWord _ _) fun _ ↦
      keepsArena_bind (keepsArena_modify fun h ↦ ⟨rfl, rfl, rfl⟩) fun _ ↦ keepsArena_pure _

/-! ### Typed data -/

/-- Without typed data in the layout, a typed data object is refused before anything is built. -/
theorem exec_typedObject_unsupported {h : Heap} (hs : Sound h r)
    (hsup : ¬ r.facts.typedData.supported = true) (typ : UInt64) (n : Nat) (e : Bool) :
    exec h (typedObject typ n e) = (.error (.noTypedData r.facts.version), h) := by
  unfold typedObject
  rw [exec_bind_of_ok exec_getFacts]
  dsimp only
  rw [hs.facts_eq, if_pos hsup, exec_bind, exec_throw]

/-- Without typed data in the layout, nothing built after a typed data object is reached. -/
theorem buildsHeader_typedObject_bind_unsupported (hsup : ¬ r.facts.typedData.supported = true)
    (typ : UInt64) (n : Nat) (e : Bool) (f : Value → HeapM Value) :
    BuildsHeader r .data false (typedObject typ n e >>= f) := by
  intro h c v h' hs _ hx
  rw [exec_bind, exec_typedObject_unsupported r hs hsup] at hx
  cases hx

/-- A typed data object is not frozen: its type word, and its flag word where no header flag marks
typed data, lie past the header. -/
theorem buildsHeader_typedObject (typ : UInt64) (n : Nat) (e : Bool) :
    BuildsHeader r .data false (typedObject typ n e) := by
  have hb := Release.headerBits r
  have hbo := Release.bodyOffsets r
  unfold typedObject
  refine buildsHeader_getFacts_bind ?_
  dsimp only
  split
  · exact buildsHeader_throw_bind _ _
  rename_i hsup
  have hsup := Decidable.of_not_not hsup
  refine buildsHeader_bind (buildsHeader_object (by rw [hb.typeMask_eq]; decide) hb.typed_type
    (by rw [hb.typed_freeze]; rfl)) (fun base off c hoff ↦ ?_) (fun v ↦ ?_) (fun v ↦ ?_)
  · split
    · exact keepsHeader_writeWord_body off (hbo.typedType hsup) (by omega) fun _ ↦
        keepsHeader_of_keepsRange (keepsRange_pure _)
    · rename_i hflag
      exact keepsHeader_writeWord_body off (hbo.typedType hsup) (by omega) fun _ ↦
        keepsHeader_writeWord_body off (hbo.typedFlag hsup (Decidable.of_not_not hflag))
          (by omega) fun _ ↦ keepsHeader_of_keepsRange (keepsRange_pure _)
  · split
    · exact keepsArena_bind (keepsArena_writeWord _ _) fun _ ↦ keepsArena_pure _
    · exact keepsArena_bind (keepsArena_writeWord _ _) fun _ ↦
        keepsArena_bind (keepsArena_writeWord _ _) fun _ ↦ keepsArena_pure _
  · split
    · exact returns_bind fun _ ↦ returns_pure _
    · exact returns_bind fun _ ↦ returns_bind fun _ ↦ returns_pure _

theorem buildsHeader_typedData (typ data : UInt64) :
    BuildsHeader r .data false (typedData typ data) := by
  have hbo := Release.bodyOffsets r
  unfold typedData
  refine buildsHeader_getFacts_bind ?_
  by_cases hsup : r.facts.typedData.supported = true
  · refine buildsHeader_bind (buildsHeader_typedObject r typ _ false)
      (fun base off c hoff ↦ keepsHeader_writeWord_body off (hbo.typedData hsup) (by omega) fun _ ↦
        keepsHeader_of_keepsRange (keepsRange_pure _))
      (fun v ↦ keepsArena_bind (keepsArena_writeWord _ _) fun _ ↦ keepsArena_pure _)
      (fun v ↦ returns_bind fun _ ↦ returns_pure _)
  · exact buildsHeader_typedObject_bind_unsupported r hsup typ _ _ _

theorem buildsHeader_embeddedTypedData (typ : UInt64) (payload : ByteArray) :
    BuildsHeader r .data false (embeddedTypedData typ payload) := by
  have hbo := Release.bodyOffsets r
  unfold embeddedTypedData
  refine buildsHeader_getFacts_bind ?_
  by_cases hsup : r.facts.typedData.supported = true
  · refine buildsHeader_bind (buildsHeader_typedObject r typ _ true)
      (fun base off c hoff ↦ keepsHeader_of_keepsRange (keepsRange_bind
        (keepsRange_writeBytes_body off (hbo.typedEmbed hsup) (by omega)) fun _ ↦
        keepsRange_pure _))
      (fun v ↦ keepsArena_bind (keepsArena_writeBytes _ _) fun _ ↦ keepsArena_pure _)
      (fun v ↦ returns_bind fun _ ↦ returns_pure _)
  · exact buildsHeader_typedObject_bind_unsupported r hsup typ _ _ _

end Heap

/-! ### The object builders -/

/-- The builders that allocate an object, with their arguments. -/
inductive ObjectBuilder where
  | string (s : ByteArray)
  | heapString (s : ByteArray)
  | array (elems : List Value)
  | heapArray (elems : List Value)
  | dynamicSymbol (name : String)
  | heapFloat (bits : UInt64)
  | bignum (x : Int)
  | int2Big (i : Int)
  | uint2Big (u : UInt64)
  | hash
  | plainObject
  | untypedData (data : UInt64)
  | typedData (typ data : UInt64)
  | embeddedTypedData (typ : UInt64) (payload : ByteArray)

namespace ObjectBuilder

/-- The run of the builder. -/
def run : ObjectBuilder → HeapM Value
  | .string s => Heap.string s
  | .heapString s => Heap.heapString s
  | .array elems => Heap.array elems
  | .heapArray elems => Heap.heapArray elems
  | .dynamicSymbol name => Heap.dynamicSymbol name
  | .heapFloat bits => Heap.heapFloat bits
  | .bignum x => Heap.bignum x
  | .int2Big i => Heap.int2Big i
  | .uint2Big u => Heap.uint2Big u
  | .hash => Heap.hash
  | .plainObject => Heap.plainObject
  | .untypedData data => Heap.untypedData data
  | .typedData typ data => Heap.typedData typ data
  | .embeddedTypedData typ payload => Heap.embeddedTypedData typ payload

/-- The type of the objects the builder makes. -/
def type : ObjectBuilder → TypeCode
  | .string _ | .heapString _ => .string
  | .array _ | .heapArray _ => .array
  | .dynamicSymbol _ => .symbol
  | .heapFloat _ => .float
  | .bignum _ | .int2Big _ | .uint2Big _ => .bignum
  | .hash => .hash
  | .plainObject => .object
  | .untypedData _ | .typedData _ _ | .embeddedTypedData _ _ => .data

/-- Whether the builder makes its objects frozen: dynamic symbols, floats and bignums are. -/
def frozen : ObjectBuilder → Bool
  | .dynamicSymbol _ | .heapFloat _ | .bignum _ | .int2Big _ | .uint2Big _ => true
  | _ => false

/-- Boot makes a class for the type of every builder. -/
theorem type_mem_bootTypes (b : ObjectBuilder) : b.type ∈ Heap.bootTypes := by
  cases b <;> dsimp only [type] <;> decide

/-- Every builder leaves the header of its type, frozen exactly when its objects are. -/
theorem buildsHeader (r : Release) (b : ObjectBuilder) :
    Heap.BuildsHeader r b.type b.frozen b.run := by
  cases b <;> dsimp only [run, type, frozen]
  case string s => exact Heap.buildsHeader_stringOf r _ _
  case heapString s => exact Heap.buildsHeader_heapStringOf r _ _
  case array elems => exact Heap.buildsHeader_arrayOf r _ _
  case heapArray elems => exact Heap.buildsHeader_heapArrayOf r _ _
  case dynamicSymbol name => exact Heap.buildsHeader_dynamicSymbol r name
  case heapFloat bits => exact Heap.buildsHeader_heapFloat r bits
  case bignum x => exact Heap.buildsHeader_bignum r x
  case int2Big i => exact Heap.buildsHeader_bignum r i
  case uint2Big u => exact Heap.buildsHeader_bignum r _
  case hash => exact Heap.buildsHeader_hash r
  case plainObject => exact Heap.buildsHeader_plainObject r
  case untypedData data => exact Heap.buildsHeader_untypedData r data
  case typedData typ data => exact Heap.buildsHeader_typedData r typ data
  case embeddedTypedData typ payload => exact Heap.buildsHeader_embeddedTypedData r typ payload

end ObjectBuilder

/-! ### Headers read back -/

open Heap

/-- The class of classes of a table is a class object whose class word is itself. -/
theorem Heap.ClassTable.class_header {r : Release} {h : Heap} {cls : Value}
    (ht : ClassTable r h cls) :
    ∃ off, cls = h.memory.base + off.toUInt64 ∧ HeaderAt r.facts h.memory off .class false cls := by
  have hc := ht.class_eq
  unfold classOf at hc
  obtain ⟨p, hp, rfl⟩ := Option.map_eq_some_iff.mp hc
  obtain ⟨off, hoff, -, hh⟩ := ht.headers p (List.mem_of_find?_eq_some hp)
  exact ⟨off, hoff, hh⟩

/-- Every object a builder returns on a booted heap has a header that the accessors of the
release decode: a heap reference of the builder's type, whose class is the class of that type,
frozen exactly for dynamic symbols, floats and bignums. Hiding it leaves no class and freezing it
makes it frozen, and neither changes its type; the heap stays booted. A heap made by `create` is
booted, its class objects all have the class type, and the class of classes is its own class. -/
theorem built_objects_decode (api : Api) :
    (∀ (b : ObjectBuilder) (h h' : Heap) (v : Value), h.Sound api.release → Booted h →
      exec h b.run = (.ok v, h') →
      api.layout.isSpecialConst v = false ∧
      api.builtinType h'.memory v = .ok b.type ∧ api.raw.rbType h'.memory v = .ok b.type ∧
      (∃ c, h'.classOf b.type = some c ∧ api.basicClass h'.memory v = .ok (c, true)) ∧
      api.raw.frozenP h'.memory v = .ok b.frozen ∧ Booted h' ∧
      (∃ h2, exec h' (hide v) = (.ok v, h2) ∧ api.basicClass h2.memory v = .ok (0, false) ∧
        api.builtinType h2.memory v = .ok b.type) ∧
      (∃ h2, exec h' (freeze v) = (.ok v, h2) ∧ api.raw.frozenP h2.memory v = .ok true ∧
        api.builtinType h2.memory v = .ok b.type)) ∧
    (∀ (size : Int) (h : Heap), create api.release.facts size = .ok h → Booted h ∧
      (∀ p ∈ h.classes, api.builtinType h.memory p.2 = .ok .class) ∧
      ∃ cls, h.classOf .class = some cls ∧ api.basicClass h.memory cls = .ok (cls, true)) := by
  refine ⟨fun b h h' v hs hboot hx ↦ ?_, fun size h hc ↦ ?_⟩
  · obtain ⟨c, hc, hc0⟩ := hboot b.type b.type_mem_bootTypes
    obtain ⟨off, rfl, -, hs', hcls, hh⟩ := b.buildsHeader api.release h c v h' hs hc hx
    obtain ⟨hsc, hbt, hrb, hbc, hfz⟩ := hh.apiReads api hs'.base hs'.mapped_le
    have hc' : h'.classOf b.type = some c := by
      unfold classOf
      rw [hcls]
      exact hc
    obtain ⟨h2, hhide, hs2, hb2, -, -, hh2⟩ := exec_hide hs' hh
    obtain ⟨h3, hfreeze, hs3, hb3, -, -, hh3⟩ := exec_freeze hs' hh
    obtain ⟨-, hbt2, -, hbc2, -⟩ := hh2.apiReads api hs2.base hs2.mapped_le
    obtain ⟨-, hbt3, -, -, hfz3⟩ := hh3.apiReads api hs3.base hs3.mapped_le
    rw [hb2] at hbt2 hbc2
    rw [hb3] at hbt3 hfz3
    refine ⟨hsc, hbt, hrb, ⟨c, hc', ?_⟩, hfz, hboot.of_classes_eq hcls,
      ⟨h2, hhide, hbc2, hbt2⟩, ⟨h3, hfreeze, hfz3, hbt3⟩⟩
    rw [hbc, bne_iff_ne.mpr hc0]
  · obtain ⟨cls, ht, hboot⟩ := create_classTable hc
    have hs := create_sound hc
    refine ⟨hboot, fun p hp ↦ ?_, cls, ht.class_eq, ?_⟩
    · obtain ⟨off, hoff, -, hh⟩ := ht.headers p hp
      rw [hoff]
      exact (hh.apiReads api hs.base hs.mapped_le).2.1
    · obtain ⟨off, hoff, hh⟩ := ht.class_header
      have hfits := hh.fits
      have hlim := hs.size_le
      have hc0 : cls ≠ 0 := hoff ▸ hs.base.add_ne_zero (by omega)
      obtain ⟨-, -, -, hbc, -⟩ := hh.apiReads api hs.base hs.mapped_le
      rw [hoff] at hbc ⊢
      rw [hbc, bne_iff_ne.mpr (hoff ▸ hc0)]

/-- On a 4.0 heap where every type of boot has a class, an empty hash is an unfrozen hash object,
and hiding it leaves it without a class. -/
theorem built_objects_decode_hash :
    ∃ v h', exec (Heap.mk Release.v40.facts ⟨arenaBase, 4096, .empty⟩ 0
        (bootTypes.map fun t ↦ (t, arenaBase)) default []) ObjectBuilder.hash.run =
        (.ok v, h') ∧
      (Api.ofRelease .v40 false .checked).builtinType h'.memory v = .ok .hash ∧
      (Api.ofRelease .v40 false .checked).raw.frozenP h'.memory v = .ok false ∧
      ∃ h2, exec h' (hide v) = (.ok v, h2) ∧
        (Api.ofRelease .v40 false .checked).basicClass h2.memory v = .ok (0, false) := by
  have hs : (Heap.mk Release.v40.facts ⟨arenaBase, 4096, .empty⟩ 0
      (bootTypes.map fun t ↦ (t, arenaBase)) default []).Sound .v40 :=
    ⟨rfl, arenaBase_valid, by decide⟩
  have hcls : ∀ t ∈ bootTypes, (Heap.mk Release.v40.facts ⟨arenaBase, 4096, .empty⟩ 0
      (bootTypes.map fun t ↦ (t, arenaBase)) default []).classOf t = some arenaBase := by
    decide
  obtain ⟨h', hx⟩ : ∃ h', exec _ (Heap.object 40 .hash 0) = (.ok _, h') :=
    exec_object_ok hs (by rfl) (by decide)
  have hrun : exec (Heap.mk Release.v40.facts ⟨arenaBase, 4096, .empty⟩ 0
      (bootTypes.map fun t ↦ (t, arenaBase)) default []) ObjectBuilder.hash.run =
      (.ok (arenaBase + (0 : Nat).toUInt64), h') := by
    show exec _ Heap.hash = _
    unfold Heap.hash
    rw [exec_bind_of_ok exec_getFacts]
    exact hx
  obtain ⟨hbuild, -⟩ := built_objects_decode (Api.ofRelease .v40 false .checked)
  obtain ⟨-, hbt, -, -, hfz, -, ⟨h2, hhide, hbc2, -⟩, -⟩ := hbuild .hash _ h' _ hs
    (fun t ht ↦ ⟨arenaBase, hcls t ht, by decide⟩) hrun
  exact ⟨_, h', hrun, hbt, hfz, h2, hhide, hbc2⟩

end RubyLayout
