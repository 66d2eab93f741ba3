import RubyLayout.Proofs.BuilderFrames

/-!
# Builders keep the bindings of dynamic symbols

The symbol table of a heap remembers which object is the dynamic symbol of which identifier,
latest binding first, and finds the binding of an object by the first entry for it. No builder
takes a binding back: interning a name adds names only, a dynamic symbol puts its own binding in
front, and every other call leaves the table alone. So the bindings a heap starts with are a
suffix of those of the heap a call leaves, whatever its outcome (`KeepsBindings`), and an object
bound once stays bound (`dynamicId?_isSome_of_suffix`).

Reads, writes, allocation and updates of the other tables leave the bindings alone, so the
relation "the bindings of the first heap end those of the second" is a `Frame`
(`bindings_frame`), and every builder keeps it by the rules of `BuilderFrames`. Interning a name
keeps it too (`keepsBindings_internId`), and so does a dynamic symbol, which puts its own binding
in front (`keepsBindings_dynamicSymbol`). `exec_dynamicSymbol_bound`: the dynamic symbol a call
returns is bound in the heap it leaves.
-/

set_option autoImplicit false
set_option relaxedAutoImplicit false

namespace RubyLayout

/-- An object bound in a list of bindings stays bound in every list that ends with it. -/
theorem SymbolTable.dynamicId?_isSome_of_suffix {t t' : SymbolTable} {v : Value}
    (hsuf : t.dynamic <:+ t'.dynamic) (hv : (t.dynamicId? v).isSome) :
    (t'.dynamicId? v).isSome := by
  obtain ⟨pre, hpre⟩ := hsuf
  unfold SymbolTable.dynamicId? at hv ⊢
  rw [← hpre, List.find?_append]
  cases hfind : pre.find? (fun e ↦ e.1 == v) with
  | none => simpa using hv
  | some e => simp

namespace Heap

variable {α β : Type}

/-- Every run of the call, whatever its outcome, ends with the bindings of dynamic symbols it
started with, after any it added. -/
def KeepsBindings (x : HeapM α) : Prop :=
  ∀ h : Heap, h.symbols.dynamic <:+ (exec h x).2.symbols.dynamic

/-- The bindings a heap starts with, ending the bindings of a later heap, form a frame: no step of
a builder but the binding of a dynamic symbol touches them. -/
theorem bindings_frame : Frame fun h h' : Heap ↦ h.symbols.dynamic <:+ h'.symbols.dynamic where
  refl _ := List.suffix_refl _
  trans h₁₂ h₂₃ := h₁₂.trans h₂₃
  next _ _ := List.suffix_refl _
  bytes h off b := symbols_withBytes h off b ▸ List.suffix_refl _
  classes _ _ := List.suffix_refl _
  bignums _ _ := List.suffix_refl _

/-- Interning a name adds it to the names only. -/
theorem keepsBindings_internId (name : String) : KeepsBindings (internId name) := by
  refine Frame.keeps_internId (R := fun h h' ↦ h.symbols.dynamic <:+ h'.symbols.dynamic)
    (fun h name ↦ ?_) name
  have hdyn : (h.symbols.intern name).1.dynamic = h.symbols.dynamic := by
    unfold SymbolTable.intern
    split <;> rfl
  exact hdyn ▸ List.suffix_refl _

/-- A dynamic symbol puts its own binding in front of the others. -/
theorem keepsBindings_dynamicSymbol (name : String) : KeepsBindings (dynamicSymbol name) :=
  bindings_frame.keeps_dynamicSymbol keepsBindings_internId
    (fun _ v id ↦ List.suffix_cons (v, id) _) name

/-- The dynamic symbol a call returns is bound, in the heap the call leaves, to the identifier of
its name. -/
theorem exec_dynamicSymbol_bound {h h' : Heap} {name : String} {v : Value}
    (hx : exec h (dynamicSymbol name) = (.ok v, h')) : (h'.symbols.dynamicId? v).isSome := by
  unfold dynamicSymbol at hx
  obtain ⟨_, h1, -, hx⟩ := exec_bind_eq_ok hx
  obtain ⟨_, h2, -, hx⟩ := exec_bind_eq_ok hx
  obtain ⟨v', h3, -, hx⟩ := exec_bind_eq_ok hx
  obtain ⟨id, h4, -, hx⟩ := exec_bind_eq_ok hx
  obtain ⟨_, h5, -, hx⟩ := exec_bind_eq_ok hx
  obtain ⟨_, h6, -, hx⟩ := exec_bind_eq_ok hx
  obtain ⟨_, h7, hbind, hx⟩ := exec_bind_eq_ok hx
  rw [exec_modify] at hbind
  rw [exec_pure] at hx
  cases hbind
  cases hx
  simp [SymbolTable.dynamicId?, SymbolTable.bindDynamic]

end Heap

end RubyLayout
