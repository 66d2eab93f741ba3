import RubyLayout.Proofs.HeapSteps

/-!
# What the builders keep of a frame

A `Frame` is a relation from a heap to a later one that does not look at what the builders do to
the arena: it allows the bump pointer to move, bytes to be written and the tables of class objects
and of bignums to change. `HeapSteps` gives its rules for the primitive steps, allocation and boot.
This module follows each builder through those rules, once, so that every relation of that kind
comes with a rule for every builder: that the heaps stay over one arena (`sameArena_frame`), that
the symbol table stays (`Heap.symbols_frame`, in `SymbolCalls`), that the bindings of dynamic
symbols stay (`Heap.bindings_frame`, in `SymbolFrame`).

Builders that intern a name change the symbol table, which a frame may or may not allow; their
rules take what the relation says of interning (`Frame.keeps_internId`, `Frame.keeps_symbol`) and
of binding a dynamic symbol (`Frame.keeps_dynamicSymbol`) as hypotheses.
-/

set_option autoImplicit false
set_option relaxedAutoImplicit false

namespace RubyLayout

namespace Heap

/-- Interning a name answers the identifier the table gives it and leaves the table interning
leaves. -/
theorem exec_internId (h : Heap) (name : String) :
    exec h (internId name) =
      (.ok (h.symbols.intern name).2, { h with symbols := (h.symbols.intern name).1 }) := by
  unfold internId
  rw [exec_bind_of_ok exec_get]
  rcases h.symbols.intern name with ⟨t, id⟩
  rfl

namespace Frame

variable {R : Heap → Heap → Prop}

/-! ### Strings and arrays -/

/-- An embedded string keeps every frame its steps keep: its length goes to the header's flags or
to a word of the slot, and its bytes follow. -/
theorem keeps_embeddedString (hR : Frame R) (s : ByteArray) : Keeps R (embeddedString s) := by
  unfold embeddedString
  refine hR.keeps_bind hR.keeps_getFacts fun _ ↦ ?_
  dsimp only
  refine hR.keeps_bind (hR.keeps_object _ _ _) fun _ ↦ ?_
  split
  · exact hR.keeps_bind (hR.keeps_orFlags _ _) fun _ ↦
      hR.keeps_bind (hR.keeps_writeBytes _ _) fun _ ↦ hR.keeps_pure _
  · exact hR.keeps_bind (hR.keeps_writeWord _ _) fun _ ↦
      hR.keeps_bind (hR.keeps_writeBytes _ _) fun _ ↦ hR.keeps_pure _

theorem keeps_heapStringOf (hR : Frame R) (n : Nat) (bytes : Unit → ByteArray) :
    Keeps R (heapStringOf n bytes) :=
  hR.keeps_bind hR.keeps_getFacts fun _ ↦
    hR.keeps_bind (hR.keeps_object _ _ _) fun _ ↦
      hR.keeps_bind (hR.keeps_raw _) fun _ ↦
        hR.keeps_bind (hR.keeps_writeBytes _ _) fun _ ↦
          hR.keeps_bind (hR.keeps_writeWord _ _) fun _ ↦
            hR.keeps_bind (hR.keeps_writeWord _ _) fun _ ↦
              hR.keeps_bind (hR.keeps_writeWord _ _) fun _ ↦ hR.keeps_pure _

theorem keeps_stringOf (hR : Frame R) (n : Nat) (bytes : Unit → ByteArray) :
    Keeps R (stringOf n bytes) := by
  unfold stringOf
  refine hR.keeps_bind hR.keeps_getFacts fun _ ↦ ?_
  split
  · exact hR.keeps_embeddedString _
  · exact hR.keeps_heapStringOf n bytes

theorem keeps_string (hR : Frame R) (s : ByteArray) : Keeps R (string s) :=
  hR.keeps_stringOf _ _

theorem keeps_embeddedArray (hR : Frame R) (elems : List Value) :
    Keeps R (embeddedArray elems) :=
  hR.keeps_bind hR.keeps_getFacts fun _ ↦
    hR.keeps_bind (hR.keeps_object _ _ _) fun _ ↦
      hR.keeps_bind (hR.keeps_writeBytes _ _) fun _ ↦ hR.keeps_pure _

theorem keeps_heapArrayOf (hR : Frame R) (n : Nat) (elems : Unit → List Value) :
    Keeps R (heapArrayOf n elems) :=
  hR.keeps_bind hR.keeps_getFacts fun _ ↦
    hR.keeps_bind (hR.keeps_object _ _ _) fun _ ↦
      hR.keeps_bind (hR.keeps_raw _) fun _ ↦
        hR.keeps_bind (hR.keeps_writeBytes _ _) fun _ ↦
          hR.keeps_bind (hR.keeps_writeWord _ _) fun _ ↦
            hR.keeps_bind (hR.keeps_writeWord _ _) fun _ ↦
              hR.keeps_bind (hR.keeps_writeWord _ _) fun _ ↦ hR.keeps_pure _

theorem keeps_arrayOf (hR : Frame R) (n : Nat) (elems : Unit → List Value) :
    Keeps R (arrayOf n elems) := by
  unfold arrayOf
  refine hR.keeps_bind hR.keeps_getFacts fun _ ↦ ?_
  split
  · exact hR.keeps_embeddedArray _
  · exact hR.keeps_heapArrayOf n elems

/-! ### Symbols -/

/-- Interning a name keeps what the relation allows of the table interning leaves. -/
theorem keeps_internId
    (hname : ∀ h name, R h { h with symbols := (h.symbols.intern name).1 }) (name : String) :
    Keeps R (internId name) := fun h ↦ by
  rw [exec_internId]
  exact hname h name

theorem keeps_symbol (hR : Frame R) (hid : ∀ name, Keeps R (internId name)) (name : String) :
    Keeps R (symbol name) :=
  hR.keeps_bind hR.keeps_getFacts fun _ ↦ hR.keeps_bind (hid name) fun _ ↦ hR.keeps_pure _

/-- A dynamic symbol keeps the relation when interning its name and binding it do: its string and
its object are built first. -/
theorem keeps_dynamicSymbol (hR : Frame R) (hid : ∀ name, Keeps R (internId name))
    (hbind : ∀ h v id, R h { h with symbols := h.symbols.bindDynamic v id }) (name : String) :
    Keeps R (dynamicSymbol name) :=
  hR.keeps_bind (hR.keeps_string _) fun _ ↦
    hR.keeps_bind hR.keeps_getFacts fun _ ↦
      hR.keeps_bind (hR.keeps_object _ _ _) fun v ↦
        hR.keeps_bind (hid name) fun id ↦
          hR.keeps_bind (hR.keeps_writeWord _ _) fun _ ↦
            hR.keeps_bind (hR.keeps_writeWord _ _) fun _ ↦
              hR.keeps_bind (keeps_modify fun h ↦ hbind h v id) fun _ ↦ hR.keeps_pure _

/-! ### Numbers and other objects -/

theorem keeps_heapFloat (hR : Frame R) (bits : UInt64) : Keeps R (heapFloat bits) :=
  hR.keeps_bind hR.keeps_getFacts fun _ ↦
    hR.keeps_bind (hR.keeps_object _ _ _) fun _ ↦
      hR.keeps_bind (hR.keeps_writeWord _ _) fun _ ↦ hR.keeps_pure _

theorem keeps_float (hR : Frame R) (bits : UInt64) : Keeps R (float bits) := by
  unfold float
  refine hR.keeps_bind hR.keeps_getFacts fun _ ↦ ?_
  split
  · split
    · exact hR.keeps_pure _
    · exact hR.keeps_heapFloat bits
  · exact hR.keeps_heapFloat bits

theorem keeps_bignum (hR : Frame R) (x : Int) : Keeps R (bignum x) :=
  hR.keeps_bind hR.keeps_getFacts fun _ ↦
    hR.keeps_bind (hR.keeps_object _ _ _) fun _ ↦
      hR.keeps_bind (hR.keeps_raw _) fun _ ↦
        hR.keeps_bind (hR.keeps_writeBytes _ _) fun _ ↦
          hR.keeps_bind (hR.keeps_writeWord _ _) fun _ ↦
            hR.keeps_bind (hR.keeps_writeWord _ _) fun _ ↦
              hR.keeps_bind (keeps_modify fun h ↦ hR.bignums h _) fun _ ↦ hR.keeps_pure _

theorem keeps_hash (hR : Frame R) : Keeps R hash :=
  hR.keeps_bind hR.keeps_getFacts fun _ ↦ hR.keeps_object _ _ _

theorem keeps_plainObject (hR : Frame R) : Keeps R plainObject :=
  hR.keeps_bind hR.keeps_getFacts fun _ ↦ hR.keeps_object _ _ _

theorem keeps_buffer (hR : Frame R) (b : ByteArray) : Keeps R (buffer b) :=
  hR.keeps_bind (hR.keeps_raw _) fun _ ↦
    hR.keeps_bind (hR.keeps_writeBytes _ _) fun _ ↦ hR.keeps_pure _

theorem keeps_dataType (hR : Frame R) (name : String) : Keeps R (dataType name) :=
  hR.keeps_bind hR.keeps_getFacts fun _ ↦
    hR.keeps_bind (hR.keeps_raw _) fun _ ↦
      hR.keeps_bind (hR.keeps_writeBytes _ _) fun _ ↦
        hR.keeps_bind (hR.keeps_raw _) fun _ ↦
          hR.keeps_bind (hR.keeps_writeWord _ _) fun _ ↦ hR.keeps_pure _

theorem keeps_typedObject (hR : Frame R) (typ : UInt64) (n : Nat) (e : Bool) :
    Keeps R (typedObject typ n e) := by
  unfold typedObject
  refine hR.keeps_bind hR.keeps_getFacts fun _ ↦ ?_
  dsimp only
  split
  · exact hR.keeps_throw_bind _ _
  · refine hR.keeps_bind (hR.keeps_object _ _ _) fun _ ↦ ?_
    split
    · exact hR.keeps_bind (hR.keeps_writeWord _ _) fun _ ↦ hR.keeps_pure _
    · exact hR.keeps_bind (hR.keeps_writeWord _ _) fun _ ↦
        hR.keeps_bind (hR.keeps_writeWord _ _) fun _ ↦ hR.keeps_pure _

theorem keeps_typedData (hR : Frame R) (typ data : UInt64) : Keeps R (typedData typ data) :=
  hR.keeps_bind hR.keeps_getFacts fun _ ↦
    hR.keeps_bind (hR.keeps_typedObject _ _ _) fun _ ↦
      hR.keeps_bind (hR.keeps_writeWord _ _) fun _ ↦ hR.keeps_pure _

theorem keeps_embeddedTypedData (hR : Frame R) (typ : UInt64) (payload : ByteArray) :
    Keeps R (embeddedTypedData typ payload) :=
  hR.keeps_bind hR.keeps_getFacts fun _ ↦
    hR.keeps_bind (hR.keeps_typedObject _ _ _) fun _ ↦
      hR.keeps_bind (hR.keeps_writeBytes _ _) fun _ ↦ hR.keeps_pure _

theorem keeps_untypedData (hR : Frame R) (data : UInt64) : Keeps R (untypedData data) :=
  hR.keeps_bind hR.keeps_getFacts fun _ ↦
    hR.keeps_bind (hR.keeps_object _ _ _) fun _ ↦
      hR.keeps_bind (hR.keeps_writeWord _ _) fun _ ↦ hR.keeps_pure _

end Frame

end Heap

end RubyLayout
