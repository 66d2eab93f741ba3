import RubyLayout.Heap.Symbols
import RubyLayout.Proofs.Bits

/-!
# Symbol tables

A symbol table keeps its names in the order they were first seen: the name at index `i` has the
serial `256 + i` and the identifier `(256 + i) * 16 + 1`. Interning a name that is there answers
its identifier and changes nothing, and `name?` answers the name of an identifier. While the names
are distinct and too few for an identifier to overflow a word, the two lookups are inverse
(`name?_eq_some_iff`); then distinct names have distinct identifiers (`intern_snd_inj`), and each
identifier is its serial shifted past the four scope bits, with the scope of a static local
(`intern_snd_eq_serial`).

A table only grows. Interning keeps every name in its place (`names_prefix_intern`), so the
identifier of a name never changes (`intern_snd_of_prefix`), and it answers the identifier of the
name's index in the table it leaves (`intern_snd`). The binding of a dynamic symbol is found by
the first entry for the object; while no object is bound twice, that is its one entry
(`dynamicId?_eq_some_iff`).
-/

set_option autoImplicit false
set_option relaxedAutoImplicit false

namespace RubyLayout.SymbolTable

/-! ### Identifiers of indices -/

theorem toNat_idOfIndex {i : Nat} (hi : i < 2 ^ 60 - 256) :
    (idOfIndex i).toNat = (firstSerial + i) * 16 + 1 := by
  have hf : firstSerial = 256 := rfl
  rw [idOfIndex, UInt64.toNat_ofNat', Nat.mod_eq_of_lt (by rw [hf]; omega)]

theorem idOfIndex_inj {i j : Nat} (hi : i < 2 ^ 60 - 256) (hj : j < 2 ^ 60 - 256) :
    idOfIndex i = idOfIndex j ↔ i = j := by
  constructor
  · intro h
    have hn := congrArg UInt64.toNat h
    rw [toNat_idOfIndex hi, toNat_idOfIndex hj] at hn
    omega
  · rintro rfl
    rfl

/-- An identifier is its serial shifted past the four scope bits, with the scope bit of a static
local set. -/
theorem idOfIndex_eq_serial {i : Nat} (hi : i < 2 ^ 60 - 256) :
    idOfIndex i = ((firstSerial + i).toUInt64 <<< 4) ||| 1 := by
  have hf : firstSerial = 256 := rfl
  have hshift : ((firstSerial + i).toUInt64 <<< 4).toNat = (firstSerial + i) * 16 := by
    rw [UInt64.toNat_shiftLeft, UInt64.toNat_ofNat', show (4 : UInt64).toNat % 64 = 4 from rfl,
      Nat.shiftLeft_eq, Nat.mod_eq_of_lt (a := firstSerial + i) (by rw [hf]; omega),
      Nat.mod_eq_of_lt (by rw [hf]; omega)]
  apply UInt64.toNat_inj.mp
  rw [Bits.toNat_or_of_lt _ _ (k := 4) (by rw [hshift]; omega) (by decide), hshift,
    toNat_idOfIndex hi]
  rfl

variable (t : SymbolTable)

/-! ### Looking identifiers up -/

theorem name?_idOfIndex {i : Nat} (hi : i < 2 ^ 60 - 256) : t.name? (idOfIndex i) = t.names[i]? := by
  have hf : firstSerial = 256 := rfl
  have hn := toNat_idOfIndex hi
  have hform : (idOfIndex i).toNat % 16 = 1 ∧ firstSerial ≤ (idOfIndex i).toNat / 16 := by
    rw [hn, hf]
    omega
  have hidx : (idOfIndex i).toNat / 16 - firstSerial = i := by
    rw [hn, hf]
    omega
  unfold name?
  dsimp only
  rw [if_pos hform, hidx]

/-- An identifier that names something is the identifier of an index holding that name. -/
theorem exists_of_name?_eq_some {id : SymbolId} {n : String} (h : t.name? id = some n) :
    ∃ i, t.names[i]? = some n ∧ idOfIndex i = id := by
  have hf : firstSerial = 256 := rfl
  unfold name? at h
  dsimp only at h
  split at h
  · rename_i hform
    refine ⟨id.toNat / 16 - firstSerial, h, ?_⟩
    have hlt := id.toNat_lt
    apply UInt64.toNat_inj.mp
    rw [idOfIndex, UInt64.toNat_ofNat', Nat.mod_eq_of_lt (by rw [hf] at hform ⊢; omega)]
    rw [hf] at hform ⊢
    omega
  · cases h

/-! ### Interning -/

theorem indexOf?_of_mem {n : String} (h : n ∈ t.names) : t.indexOf? n = some (t.names.idxOf n) := by
  unfold indexOf? List.idxOf? List.idxOf
  rw [List.findIdx?_eq_some_iff_findIdx_eq]
  exact ⟨List.idxOf_lt_length_iff.mpr h, rfl⟩

theorem intern_of_mem {n : String} (h : n ∈ t.names) :
    t.intern n = (t, idOfIndex (t.names.idxOf n)) := by
  unfold intern
  rw [indexOf?_of_mem t h]

theorem intern_of_not_mem {n : String} (h : n ∉ t.names) :
    t.intern n = ({ t with names := t.names ++ [n] }, idOfIndex t.names.length) := by
  unfold intern indexOf?
  rw [List.idxOf?_eq_none_iff.mpr h]

@[simp] theorem dynamic_intern (n : String) : (t.intern n).1.dynamic = t.dynamic := by
  unfold intern
  split <;> rfl

theorem names_prefix_intern (n : String) : t.names <+: (t.intern n).1.names := by
  by_cases h : n ∈ t.names
  · exact intern_of_mem t h ▸ List.prefix_refl _
  · rw [intern_of_not_mem t h]
    exact List.prefix_append _ _

theorem mem_names_intern_iff (n m : String) :
    m ∈ (t.intern n).1.names ↔ m ∈ t.names ∨ m = n := by
  by_cases h : n ∈ t.names
  · rw [intern_of_mem t h]
    constructor
    · exact Or.inl
    · rintro (hm | rfl)
      · exact hm
      · exact h
  · rw [intern_of_not_mem t h]
    simp

theorem mem_names_intern (n : String) : n ∈ (t.intern n).1.names :=
  (mem_names_intern_iff t n n).mpr (Or.inr rfl)

/-- Interning keeps the names distinct: a new name is none of the old ones. -/
theorem nodup_names_intern {t : SymbolTable} (hnd : t.names.Nodup) (n : String) :
    (t.intern n).1.names.Nodup := by
  by_cases h : n ∈ t.names
  · rw [intern_of_mem t h]
    exact hnd
  · rw [intern_of_not_mem t h]
    rw [List.nodup_append]
    refine ⟨hnd, List.nodup_cons.mpr ⟨List.not_mem_nil, List.nodup_nil⟩, ?_⟩
    intro a ha b hb
    rw [List.mem_singleton] at hb
    rintro rfl
    exact h (hb ▸ ha)

/-- Interning answers the identifier of the name's index in the table it leaves. -/
theorem intern_snd (n : String) : (t.intern n).2 = idOfIndex ((t.intern n).1.names.idxOf n) := by
  by_cases h : n ∈ t.names
  · rw [intern_of_mem t h]
  · rw [intern_of_not_mem t h]
    dsimp only
    rw [List.idxOf_append_of_notMem h, List.idxOf_cons_self, Nat.add_zero]

/-- A table whose names begin with those of another gives every name there the same
identifier. -/
theorem intern_snd_of_prefix {t t' : SymbolTable} (hp : t.names <+: t'.names) {n : String}
    (hn : n ∈ t.names) : (t'.intern n).2 = (t.intern n).2 := by
  rw [intern_of_mem t hn, intern_of_mem t' (hp.subset hn), hp.idxOf_eq_of_mem hn]

/-! ### The two lookups are inverse -/

section Inverse

variable {t} (hnd : t.names.Nodup) (hlen : t.names.length < 2 ^ 60 - 256)
include hnd hlen

/-- An identifier names `n` exactly when interning `n` answers it and changes nothing. -/
theorem name?_eq_some_iff {id : SymbolId} {n : String} :
    t.name? id = some n ↔ t.intern n = (t, id) := by
  constructor
  · intro h
    obtain ⟨i, hi, rfl⟩ := t.exists_of_name?_eq_some h
    obtain ⟨hlt, hget⟩ := List.getElem?_eq_some_iff.mp hi
    have hmem : n ∈ t.names := hget ▸ List.getElem_mem hlt
    rw [intern_of_mem t hmem, ← hget, List.Nodup.idxOf_getElem hnd i hlt]
  · intro h
    by_cases hmem : n ∈ t.names
    · rw [intern_of_mem t hmem, Prod.mk.injEq] at h
      have hidx := List.idxOf_lt_length_iff.mpr hmem
      rw [← h.2, name?_idOfIndex t (by omega), List.getElem?_idxOf hmem]
    · rw [intern_of_not_mem t hmem] at h
      have hl := congrArg (fun t : SymbolTable ↦ t.names.length) (congrArg Prod.fst h)
      simp at hl

theorem name?_intern {n : String} (hn : n ∈ t.names) : t.name? (t.intern n).2 = some n :=
  (name?_eq_some_iff hnd hlen).mpr (by rw [intern_of_mem t hn])

/-- Distinct names in the table have distinct identifiers. -/
theorem intern_snd_inj {a b : String} (ha : a ∈ t.names) (hb : b ∈ t.names) :
    (t.intern a).2 = (t.intern b).2 ↔ a = b := by
  constructor
  · intro h
    have hna := name?_intern hnd hlen ha
    rw [h, name?_intern hnd hlen hb] at hna
    exact (Option.some.inj hna).symm
  · rintro rfl
    rfl

end Inverse

/-- The identifier of a name is its serial, `256` plus its index, past the scope bits. -/
theorem intern_snd_eq_serial {t : SymbolTable} (hlen : t.names.length < 2 ^ 60 - 256) {n : String}
    (hn : n ∈ t.names) :
    (t.intern n).2 = ((firstSerial + t.names.idxOf n).toUInt64 <<< 4) ||| 1 := by
  have hidx := List.idxOf_lt_length_iff.mpr hn
  rw [intern_of_mem t hn, idOfIndex_eq_serial (by omega)]

/-! ### Bindings of dynamic symbols -/

@[simp] theorem names_bindDynamic (v : Value) (id : SymbolId) :
    (t.bindDynamic v id).names = t.names := rfl

@[simp] theorem dynamic_bindDynamic (v : Value) (id : SymbolId) :
    (t.bindDynamic v id).dynamic = (v, id) :: t.dynamic := rfl

/-- While no object is bound twice, an object is bound to exactly the identifier of its entry. -/
theorem dynamicId?_eq_some_iff {t : SymbolTable} (hnd : (t.dynamic.map Prod.fst).Nodup)
    {v : Value} {id : SymbolId} : t.dynamicId? v = some id ↔ (v, id) ∈ t.dynamic := by
  obtain ⟨names, l⟩ := t
  unfold dynamicId?
  dsimp only at hnd ⊢
  induction l with
  | nil => simp
  | cons p l ih =>
    rw [List.map_cons, List.nodup_cons] at hnd
    rw [List.find?_cons, List.mem_cons]
    by_cases hp : p.1 = v
    · have hkey : (p.1 == v) = true := beq_iff_eq.mpr hp
      rw [hkey]
      obtain ⟨u, w⟩ := p
      dsimp only at hp hnd ⊢
      subst hp
      rw [Option.map_some, Option.some.injEq]
      constructor
      · rintro rfl
        exact Or.inl rfl
      · rintro (h | h)
        · exact (Prod.mk.inj h).2.symm
        · exact absurd (List.mem_map_of_mem (f := Prod.fst) h) hnd.1
    · have hkey : (p.1 == v) = false := beq_eq_false_iff_ne.mpr hp
      rw [hkey, ih hnd.2]
      constructor
      · exact Or.inr
      · rintro (h | h)
        · exact absurd (congrArg Prod.fst h).symm hp
        · exact h

theorem dynamicId?_eq_none {v : Value} (hv : v ∉ t.dynamic.map Prod.fst) : t.dynamicId? v = none := by
  unfold dynamicId?
  rw [Option.map_eq_none_iff, List.find?_eq_none]
  intro p hp hkey
  exact hv (beq_iff_eq.mp hkey ▸ List.mem_map_of_mem hp)

end RubyLayout.SymbolTable
