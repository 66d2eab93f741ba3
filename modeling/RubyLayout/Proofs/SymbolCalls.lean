import RubyLayout.Proofs.SymbolTable
import RubyLayout.Proofs.SymbolCodec
import RubyLayout.Proofs.SampleShapes

/-!
# Runs of symbol calls

Three calls of a heap touch its symbol table: the identifier of a name (`internId`), the static
symbol of a name (`symbol`), and a dynamic symbol object for a name (`dynamicSymbol`). The first two
intern the name and never fail. A dynamic symbol builds the string of its name and its object
first, and only then interns the name and binds the object to the identifier; it fails only while
building, and then leaves the table as it was (`exec_dynamicSymbol_eq_error`). Heaps with one
table form a `Frame` (`symbols_frame`), so the string and the object leave the table alone, as
does boot: `create` starts every heap with an empty table.

`SymbolsInv` is what holds of a heap between the calls: it is sound and booted, its names are
distinct, and every object bound in it is a distinct word below the bump pointer. One call keeps
it and moves the heap forward by `SymbolsLater`: bytes below the bump pointer stay, names keep
their places, bindings stay. What a call answers (`SymbolCall.Holds`) is said through the table and
memory of a later heap, so it stays true along the run (`Holds.of_later`). Every call from a heap
with the invariant is a step (`SymbolCall.step`), and by induction on the calls so is a whole run
(`runAll_ran`): the table it leaves holds exactly the names of the answered calls and binds only
the objects they built, so the bound on distinct names bounds the table. Main statement:
`symbol_table_consistent`.
-/

set_option autoImplicit false
set_option relaxedAutoImplicit false

namespace RubyLayout

namespace Heap

/-! ### Calls that leave the symbol table alone -/

/-- Heaps with one symbol table form a frame: no step of a builder but interning touches it. -/
theorem symbols_frame : Frame fun h h' : Heap ↦ h'.symbols = h.symbols where
  refl _ := rfl
  trans h₁₂ h₂₃ := h₂₃.trans h₁₂
  next _ _ := rfl
  bytes := symbols_withBytes
  classes _ _ := rfl
  bignums _ _ := rfl

/-- A heap made by `create` has an empty symbol table. -/
theorem create_symbols {f : Facts} {size : Int} {h : Heap} (hc : create f size = .ok h) :
    h.symbols = default := by
  unfold create at hc
  by_cases hword : f.wordSize ≠ machineWord
  · rw [if_pos hword] at hc
    cases hc
  rw [if_neg hword] at hc
  generalize (if size = 0 then (defaultArenaSize : Int) else size) = sz at hc
  dsimp only at hc
  split_ifs at hc with hneg hbig
  generalize hb : ExceptT.run boot _ = res at hc
  obtain ⟨outcome, booted⟩ := res
  have hk := symbols_frame.keeps_boot (Heap.mk f ⟨arenaBase, sz.toNat, .empty⟩ 0 [] default [])
  unfold exec at hk
  rw [hb] at hk
  cases outcome with
  | error e => cases hc
  | ok u =>
    cases hc
    exact hk

/-! ### The calls on symbols -/

/-- The static symbol of a name is the word of its identifier. -/
theorem exec_symbol (h : Heap) (name : String) :
    exec h (symbol name) = (.ok (h.facts.idToSymbol (h.symbols.intern name).2),
      { h with symbols := (h.symbols.intern name).1 }) := by
  unfold symbol
  rw [exec_bind_of_ok exec_getFacts]
  dsimp only
  rw [exec_bind_of_ok (exec_internId h name)]
  rfl

/-- A dynamic symbol that is built interns its name and binds the object to its identifier. -/
theorem exec_dynamicSymbol_symbols {h h' : Heap} {name : String} {d : Value}
    (hx : exec h (dynamicSymbol name) = (.ok d, h')) :
    h'.symbols = (h.symbols.intern name).1.bindDynamic d (h.symbols.intern name).2 := by
  unfold dynamicSymbol at hx
  obtain ⟨_, h1, hstr, hx⟩ := exec_bind_eq_ok hx
  obtain ⟨_, h2, hfacts, hx⟩ := exec_bind_eq_ok hx
  obtain ⟨v, h3, hobj, hx⟩ := exec_bind_eq_ok hx
  obtain ⟨id, h4, hid, hx⟩ := exec_bind_eq_ok hx
  obtain ⟨_, h5, hw1, hx⟩ := exec_bind_eq_ok hx
  obtain ⟨_, h6, hw2, hx⟩ := exec_bind_eq_ok hx
  obtain ⟨_, h7, hbind, hx⟩ := exec_bind_eq_ok hx
  rw [exec_getFacts] at hfacts
  rw [exec_internId] at hid
  rw [exec_modify] at hbind
  rw [exec_pure] at hx
  cases hfacts
  cases hid
  cases hbind
  cases hx
  have e1 := (symbols_frame.keeps_string _).of_exec hstr
  have e3 := (symbols_frame.keeps_object _ _ _).of_exec hobj
  have e5 := (symbols_frame.keeps_writeWord _ _).of_exec hw1
  have e6 := (symbols_frame.keeps_writeWord _ _).of_exec hw2
  dsimp only at e5 ⊢
  rw [e6, e5, e3, e1]

/-- A dynamic symbol fails only while it builds its string or its object, before its name is
interned: what follows writes inside the object's slot and cannot fail. So a failure leaves the
table as it was. -/
theorem exec_dynamicSymbol_eq_error {r : Release} {h h' : Heap} {name : String} {e : HeapError}
    (hs : Sound h r) (hx : exec h (dynamicSymbol name) = (.error e, h')) :
    h'.symbols = h.symbols := by
  unfold dynamicSymbol at hx
  rw [exec_bind] at hx
  rcases hstr : exec h (string name.toUTF8) with ⟨_ | fstr, h1⟩ <;> rw [hstr] at hx
  · cases hx
    exact (symbols_frame.keeps_string _).of_exec hstr
  have hc1 := (buildsSlot_string (r := r) name.toUTF8).writes _ 0 h hs rfl (Nat.zero_le _)
  rw [hstr] at hc1
  have hs1 : Sound h1 r := hs.of_sameArena hc1.arena
  have e1 := (symbols_frame.keeps_string _).of_exec hstr
  dsimp only at hx
  rw [exec_bind_of_ok exec_getFacts, hs1.facts_eq] at hx
  simp only [Release.wordSize_eq, UInt64.toNat_ofNat] at hx
  rw [exec_bind] at hx
  rcases hobj : exec h1 (object (5 * 8) TypeCode.symbol r.facts.header.freeze) with
    ⟨_ | v, h2⟩ <;> rw [hobj] at hx <;> dsimp only at hx
  · cases hx
    exact ((symbols_frame.keeps_object _ _ _).of_exec hobj).trans e1
  exfalso
  obtain ⟨slot, hal, -⟩ := exec_object_spec hs1 hobj
  have hfits := hal.fits
  have hbase := hal.base_le
  have hsize : h2.memory.size = h1.memory.size := hal.arena.size_eq
  have hs2 : Sound h2 r := hs1.of_sameArena hal.arena
  have hs3 : Sound { h2 with symbols := (h2.symbols.intern name).1 } r :=
    ⟨hs2.facts_eq, hs2.base, hs2.size_le⟩
  have h24 : (3 * 8 : UInt64).toNat = 24 := rfl
  have h32 : (4 * 8 : UInt64).toNat = 32 := rfl
  rw [exec_bind_of_ok (exec_internId h2 name), hal.addr,
    exec_bind_of_ok (hs3.exec_writeWord_at hal.arena.base_eq h1.nextAligned (3 * 8) (by
      rw [h24]
      dsimp only
      omega))] at hx
  rw [exec_bind_of_ok ((hs3.withBytes _ _).exec_writeWord_at
    (by rw [base_withBytes]; exact hal.arena.base_eq) h1.nextAligned (4 * 8) (by
    rw [h32, size_withBytes]
    dsimp only
    omega))] at hx
  rw [exec_bind_of_ok (exec_modify _), exec_pure] at hx
  cases hx

/-- The heap decodes a word that is no static symbol by the binding of its table. -/
theorem exec_sym2Id_of_bound {h : Heap} {v : Value} {id : SymbolId}
    (hst : h.facts.isStaticSymbol v = false) (hb : h.symbols.dynamicId? v = some id) :
    exec h (sym2Id v) = (.ok id, h) := by
  have hmask : ¬ v &&& (Word.shl 1 h.facts.specials.specialShift - 1) =
      h.facts.specials.symbolFlag := fun hm ↦ by
    rw [← h.facts.isStaticSymbol_iff_heapMask, hst] at hm
    cases hm
  unfold sym2Id
  rw [exec_bind_of_ok exec_get]
  dsimp only
  rw [if_neg hmask, hb]
  rfl

/-- A word that is no static symbol and that the table does not bind is refused. -/
theorem exec_sym2Id_of_unbound {h : Heap} {v : Value} (hst : h.facts.isStaticSymbol v = false)
    (hb : h.symbols.dynamicId? v = none) :
    exec h (sym2Id v) = (.error (.range v "not a symbol"), h) := by
  have hmask : ¬ v &&& (Word.shl 1 h.facts.specials.specialShift - 1) =
      h.facts.specials.symbolFlag := fun hm ↦ by
    rw [← h.facts.isStaticSymbol_iff_heapMask, hst] at hm
    cases hm
  unfold sym2Id
  rw [exec_bind_of_ok exec_get]
  dsimp only
  rw [if_neg hmask, hb]
  rfl

/-- Bytes confined from `lo` keep every range below `lo` that the bump pointer has passed. -/
theorem Confined.kept {r : Release} {lo lo' hi : Nat} {h h' : Heap} (hc : Confined lo h h')
    (hhi : hi ≤ lo) (hnext : hi ≤ h.next) : Kept r lo' hi h h' :=
  ⟨hc.arena, hc.classes_eq, Nat.le_trans hnext hc.next_le,
    fun i _ hi' ↦ hc.byteAt_eq i (.inl (Nat.lt_of_lt_of_le hi' hhi))⟩

/-! ### What holds between calls -/

/-- `h'` follows `h` along calls on symbols: the bytes below the bump pointer of `h` stay, its
names keep their places and its bindings stay. -/
structure SymbolsLater (h h' : Heap) : Prop where
  confined : Confined h.next h h'
  names : h.symbols.names <+: h'.symbols.names
  dynamic : h.symbols.dynamic <:+ h'.symbols.dynamic

namespace SymbolsLater

theorem refl (h : Heap) : SymbolsLater h h :=
  ⟨Confined.refl _ h, List.prefix_refl _, List.suffix_refl _⟩

theorem trans {h₁ h₂ h₃ : Heap} (h₁₂ : SymbolsLater h₁ h₂) (h₂₃ : SymbolsLater h₂ h₃) :
    SymbolsLater h₁ h₃ :=
  ⟨h₁₂.confined.trans (h₂₃.confined.mono h₁₂.confined.next_le), h₁₂.names.trans h₂₃.names,
    h₁₂.dynamic.trans h₂₃.dynamic⟩

/-- Interning changes the table only. -/
theorem intern (h : Heap) (n : String) :
    SymbolsLater h { h with symbols := (h.symbols.intern n).1 } := by
  refine ⟨⟨⟨rfl, rfl, rfl⟩, rfl, Nat.le_refl _, fun _ _ ↦ rfl⟩,
    SymbolTable.names_prefix_intern _ n, ?_⟩
  show h.symbols.dynamic <:+ (h.symbols.intern n).1.dynamic
  exact SymbolTable.dynamic_intern h.symbols n ▸ List.suffix_refl _

/-- A call that writes past the bump pointer only and keeps the table. -/
theorem of_confined {h h' : Heap} (hconf : Confined h.next h h') (hsym : h'.symbols = h.symbols) :
    SymbolsLater h h' :=
  ⟨hconf, hsym ▸ List.prefix_refl _, hsym ▸ List.suffix_refl _⟩

/-- A call that writes past the bump pointer only, interns a name and binds an object to it. -/
theorem bindDynamic {h h' : Heap} (hconf : Confined h.next h h') {n : String} {d : Value}
    (hsym : h'.symbols = (h.symbols.intern n).1.bindDynamic d (h.symbols.intern n).2) :
    SymbolsLater h h' := by
  refine ⟨hconf, ?_, ?_⟩
  · rw [hsym, SymbolTable.names_bindDynamic]
    exact SymbolTable.names_prefix_intern _ n
  · rw [hsym, SymbolTable.dynamic_bindDynamic, SymbolTable.dynamic_intern]
    exact List.suffix_cons _ _

end SymbolsLater

/-- What holds of a heap between calls on symbols: it is sound for the release and booted, its
names are distinct, and the objects it binds are distinct words of the arena below its bump
pointer. -/
structure SymbolsInv (r : Release) (h : Heap) : Prop where
  sound : Sound h r
  booted : Booted h
  names_nodup : h.symbols.names.Nodup
  keys_nodup : (h.symbols.dynamic.map Prod.fst).Nodup
  keys_below : ∀ p ∈ h.symbols.dynamic,
    ∃ off, p.1 = h.memory.base + off.toUInt64 ∧ off < h.next ∧ off ≤ mapLimit

namespace SymbolsInv

variable {r : Release} {h : Heap}

/-- A heap made by `create` has the invariant: its table is empty. -/
theorem of_create {size : Int} (hc : create r.facts size = .ok h) : SymbolsInv r h := by
  obtain ⟨-, -, hboot⟩ := create_classTable hc
  have hsym := create_symbols hc
  refine ⟨create_sound hc, hboot, ?_, ?_, ?_⟩ <;> rw [hsym]
  · exact List.nodup_nil
  · exact List.nodup_nil
  · intro p hp
    cases hp

theorem intern (hinv : SymbolsInv r h) (n : String) :
    SymbolsInv r { h with symbols := (h.symbols.intern n).1 } := by
  refine ⟨⟨hinv.sound.facts_eq, hinv.sound.base, hinv.sound.size_le⟩,
    hinv.booted.of_classes_eq rfl, SymbolTable.nodup_names_intern hinv.names_nodup n, ?_, ?_⟩
  · show ((h.symbols.intern n).1.dynamic.map Prod.fst).Nodup
    rw [SymbolTable.dynamic_intern]
    exact hinv.keys_nodup
  · show ∀ p ∈ (h.symbols.intern n).1.dynamic, _
    rw [SymbolTable.dynamic_intern]
    exact hinv.keys_below

/-- The bound objects stay below every later bump pointer over the same arena. -/
theorem keys_below_of_le (hinv : SymbolsInv r h) {h' : Heap}
    (hbase : h'.memory.base = h.memory.base) (hle : h.next ≤ h'.next) :
    ∀ p ∈ h.symbols.dynamic,
      ∃ off, p.1 = h'.memory.base + off.toUInt64 ∧ off < h'.next ∧ off ≤ mapLimit := by
  intro p hp
  obtain ⟨off, hoff, hlt, hlim⟩ := hinv.keys_below p hp
  exact ⟨off, by rw [hbase, hoff], Nat.lt_of_lt_of_le hlt hle, hlim⟩

/-- An object at or past the bump pointer is bound to nothing. -/
theorem not_mem_keys (hinv : SymbolsInv r h) {off : Nat} (hpast : h.next ≤ off)
    (hoff : off ≤ mapLimit) : h.memory.base + off.toUInt64 ∉ h.symbols.dynamic.map Prod.fst := by
  intro hm
  obtain ⟨p, hp, hpd⟩ := List.mem_map.mp hm
  obtain ⟨off', hoff', hlt, hle⟩ := hinv.keys_below p hp
  have := hinv.sound.base.add_inj hle hoff (hoff'.symm.trans hpd)
  omega

/-- A call that writes past the bump pointer only and keeps the table keeps the invariant. -/
theorem of_confined (hinv : SymbolsInv r h) {h' : Heap} (hconf : Confined h.next h h')
    (hsym : h'.symbols = h.symbols) : SymbolsInv r h' where
  sound := hinv.sound.of_sameArena hconf.arena
  booted := hinv.booted.of_classes_eq hconf.classes_eq
  names_nodup := hsym ▸ hinv.names_nodup
  keys_nodup := hsym ▸ hinv.keys_nodup
  keys_below := hsym ▸ hinv.keys_below_of_le hconf.arena.base_eq hconf.next_le

/-- Interning a name and binding to it an object past the old bump pointer keeps the invariant
of a sound and booted heap: the object is bound to nothing yet. -/
theorem bindFresh (hinv : SymbolsInv r h) {h' : Heap} (hs : Sound h' r) (hb : Booted h')
    (hbase : h'.memory.base = h.memory.base) (hle : h.next ≤ h'.next) {n : String} {off : Nat}
    (hpast : h.next ≤ off) (hlt : off < h'.next) (hoff : off ≤ mapLimit)
    (hsym : h'.symbols =
      (h.symbols.intern n).1.bindDynamic (h'.memory.base + off.toUInt64) (h.symbols.intern n).2) :
    SymbolsInv r h' := by
  refine ⟨hs, hb, ?_, ?_, ?_⟩
  · rw [hsym, SymbolTable.names_bindDynamic]
    exact SymbolTable.nodup_names_intern hinv.names_nodup n
  · rw [hsym, SymbolTable.dynamic_bindDynamic, List.map_cons, SymbolTable.dynamic_intern,
      List.nodup_cons]
    exact ⟨by rw [hbase]; exact hinv.not_mem_keys hpast hoff, hinv.keys_nodup⟩
  · rw [hsym, SymbolTable.dynamic_bindDynamic, SymbolTable.dynamic_intern]
    intro p hp
    rcases List.mem_cons.mp hp with rfl | hp
    · exact ⟨off, rfl, hlt, hoff⟩
    · exact hinv.keys_below_of_le hbase hle p hp

end SymbolsInv

end Heap

/-! ### Calls and runs -/

/-- A call on the symbols of a heap: the identifier of a name, the static symbol of a name, or a
dynamic symbol object for a name. -/
inductive SymbolCall where
  | id (name : String)
  | symbol (name : String)
  | dynamicSymbol (name : String)
deriving DecidableEq, Repr

namespace SymbolCall

/-- The name a call asks about. -/
def name : SymbolCall → String
  | .id n | .symbol n | .dynamicSymbol n => n

/-- The heap operation of a call. -/
def run : SymbolCall → HeapM UInt64
  | .id n => Heap.internId n
  | .symbol n => Heap.symbol n
  | .dynamicSymbol n => Heap.dynamicSymbol n

/-- What the outcome `o` of a call says about a heap `h` after it: the name is interned, and the
call answered the identifier, the static symbol of the identifier, or an object of the symbol
type, frozen, below the bump pointer and bound to the identifier. A failed dynamic symbol says
nothing. -/
def Holds (r : Release) (h : Heap) : SymbolCall → Except HeapError UInt64 → Prop
  | .id n, o => n ∈ h.symbols.names ∧ o = .ok (h.symbols.intern n).2
  | .symbol n, o => n ∈ h.symbols.names ∧ o = .ok (r.facts.idToSymbol (h.symbols.intern n).2)
  | .dynamicSymbol n, .ok d => n ∈ h.symbols.names ∧
      (d, (h.symbols.intern n).2) ∈ h.symbols.dynamic ∧
      ∃ off c, d = h.memory.base + off.toUInt64 ∧ off + 16 ≤ h.next ∧
        HeaderAt r.facts h.memory off .symbol true c
  | .dynamicSymbol _, .error _ => True

/-- What a call answers stays true along later calls: names keep their identifiers, bindings
stay, and the object's header lies below the bump pointer, where nothing changes. -/
theorem Holds.of_later {r : Release} {h h' : Heap} {c : SymbolCall} {o : Except HeapError UInt64}
    (hc : c.Holds r h o) (hl : h.SymbolsLater h') : c.Holds r h' o := by
  cases c with
  | id n =>
    obtain ⟨hn, rfl⟩ := hc
    exact ⟨hl.names.subset hn, by rw [SymbolTable.intern_snd_of_prefix hl.names hn]⟩
  | symbol n =>
    obtain ⟨hn, rfl⟩ := hc
    exact ⟨hl.names.subset hn, by rw [SymbolTable.intern_snd_of_prefix hl.names hn]⟩
  | dynamicSymbol n =>
    cases o with
    | error e => trivial
    | ok d =>
      obtain ⟨hn, hb, off, c, rfl, hnext, hh⟩ := hc
      refine ⟨hl.names.subset hn, ?_, off, c, by rw [hl.confined.arena.base_eq],
        Nat.le_trans hnext hl.confined.next_le,
        hh.of_kept (hl.confined.kept hnext hnext)⟩
      rw [SymbolTable.intern_snd_of_prefix hl.names hn]
      exact hl.dynamic.subset hb

/-- One call from a heap `h` with the invariant, to the outcome `o` and the heap `h'`: `h'` has
the invariant and follows `h`, what the call answered holds there, its names are those of `h`
and the call's name if it answered, and its bindings are those of `h` and the object a dynamic
symbol answered. -/
structure Step (r : Release) (c : SymbolCall) (h : Heap) (o : Except HeapError UInt64)
    (h' : Heap) : Prop where
  inv : h'.SymbolsInv r
  later : h.SymbolsLater h'
  holds : c.Holds r h' o
  names : ∀ n, n ∈ h'.symbols.names ↔ n ∈ h.symbols.names ∨ ((∃ a, o = .ok a) ∧ n = c.name)
  dynamic : ∀ p ∈ h'.symbols.dynamic,
    p ∈ h.symbols.dynamic ∨ ((∃ n, c = .dynamicSymbol n) ∧ o = .ok p.1)

variable {r : Release} {h : Heap}

/-- A call that interns its name, answers `a` and changes nothing else. -/
theorem step_of_intern (hinv : h.SymbolsInv r) (c : SymbolCall) {a : UInt64}
    (hholds : c.Holds r { h with symbols := (h.symbols.intern c.name).1 } (.ok a)) :
    c.Step r h (.ok a) { h with symbols := (h.symbols.intern c.name).1 } where
  inv := hinv.intern c.name
  later := Heap.SymbolsLater.intern h c.name
  holds := hholds
  names n := by
    show n ∈ (h.symbols.intern c.name).1.names ↔ _
    rw [SymbolTable.mem_names_intern_iff]
    exact or_congr_right ⟨fun hn ↦ ⟨⟨a, rfl⟩, hn⟩, fun hn ↦ hn.2⟩
  dynamic p hp := by
    change p ∈ (h.symbols.intern c.name).1.dynamic at hp
    rw [SymbolTable.dynamic_intern] at hp
    exact Or.inl hp

theorem step_id (hinv : h.SymbolsInv r) (n : String) :
    (SymbolCall.id n).Step r h (Heap.exec h (SymbolCall.id n).run).1
      (Heap.exec h (SymbolCall.id n).run).2 := by
  change Step r (.id n) h (Heap.exec h (Heap.internId n)).1 (Heap.exec h (Heap.internId n)).2
  rw [Heap.exec_internId]
  refine step_of_intern hinv (.id n) ⟨SymbolTable.mem_names_intern _ n, ?_⟩
  show _ = Except.ok ((h.symbols.intern n).1.intern n).2
  rw [SymbolTable.intern_intern]

theorem step_symbol (hinv : h.SymbolsInv r) (n : String) :
    (SymbolCall.symbol n).Step r h (Heap.exec h (SymbolCall.symbol n).run).1
      (Heap.exec h (SymbolCall.symbol n).run).2 := by
  change Step r (.symbol n) h (Heap.exec h (Heap.symbol n)).1 (Heap.exec h (Heap.symbol n)).2
  rw [Heap.exec_symbol]
  refine step_of_intern hinv (.symbol n) ⟨SymbolTable.mem_names_intern _ n, ?_⟩
  show _ = Except.ok (r.facts.idToSymbol ((h.symbols.intern n).1.intern n).2)
  rw [SymbolTable.intern_intern, hinv.sound.facts_eq]

/-- A call that fails, writing past the bump pointer only and keeping the table, is a step. -/
theorem step_of_error (hinv : h.SymbolsInv r) {c : SymbolCall} {e : HeapError} {h' : Heap}
    (hconf : Heap.Confined h.next h h') (hsym : h'.symbols = h.symbols)
    (hholds : c.Holds r h' (.error e)) : c.Step r h (.error e) h' where
  inv := hinv.of_confined hconf hsym
  later := .of_confined hconf hsym
  holds := hholds
  names m := by
    rw [hsym]
    refine ⟨Or.inl, fun hm ↦ hm.resolve_right ?_⟩
    rintro ⟨⟨a, ha⟩, -⟩
    cases ha
  dynamic p hp := Or.inl (hsym ▸ hp)

/-- A dynamic symbol that fails leaves the table; one that is built is a fresh object of the
symbol type, bound in front of the others to the identifier of its name. -/
theorem step_dynamicSymbol (hinv : h.SymbolsInv r) (n : String) :
    (SymbolCall.dynamicSymbol n).Step r h (Heap.exec h (SymbolCall.dynamicSymbol n).run).1
      (Heap.exec h (SymbolCall.dynamicSymbol n).run).2 := by
  have hs := hinv.sound
  have hconf := (Heap.buildsSlot_dynamicSymbol (r := r) n).writes _ h.next h hs rfl (Nat.le_refl _)
  change Step r (.dynamicSymbol n) h (Heap.exec h (Heap.dynamicSymbol n)).1
    (Heap.exec h (Heap.dynamicSymbol n)).2
  rcases hx : Heap.exec h (Heap.dynamicSymbol n) with ⟨_ | d, h'⟩ <;> rw [hx] at hconf <;>
    dsimp only
  · exact step_of_error hinv hconf (Heap.exec_dynamicSymbol_eq_error hs hx) trivial
  · have hsym := Heap.exec_dynamicSymbol_symbols hx
    obtain ⟨off0, slot, hd0, hfr⟩ := (Heap.buildsSlot_dynamicSymbol (r := r) n).returns h d h' hs hx
    obtain ⟨c, hc, -⟩ := hinv.booted .symbol (by decide)
    obtain ⟨off, hd, hnext, hs', hcls, hh⟩ :=
      Heap.buildsHeader_dynamicSymbol (r := r) n h c d h' hs hc hx
    have hlim := hs'.size_le
    have hfits := hh.fits
    have hin := hfr.inside
    have hsize := hconf.arena.size_eq
    obtain rfl : off0 = off := hs'.base.add_inj (by omega) (by omega) (hd0.symm.trans hd)
    have hpast : h.next ≤ off0 := hfr.past
    subst hd
    have hid : (h'.symbols.intern n).2 = (h.symbols.intern n).2 := by
      have hp : (h.symbols.intern n).1.names <+: h'.symbols.names := hsym ▸ List.prefix_refl _
      rw [SymbolTable.intern_snd_of_prefix hp (SymbolTable.mem_names_intern _ n),
        SymbolTable.intern_intern]
    have hinv' := hinv.bindFresh hs' (hinv.booted.of_classes_eq hcls) hconf.arena.base_eq
      hconf.next_le hpast (by omega) (by omega) hsym
    refine ⟨hinv', .bindDynamic hconf hsym, ⟨?_, ?_, off0, c, rfl, hnext, hh⟩, fun m ↦ ?_,
      fun p hp ↦ ?_⟩
    · rw [hsym, SymbolTable.names_bindDynamic]
      exact SymbolTable.mem_names_intern _ n
    · rw [hid, hsym, SymbolTable.dynamic_bindDynamic]
      exact List.mem_cons_self
    · rw [hsym, SymbolTable.names_bindDynamic, SymbolTable.mem_names_intern_iff]
      exact or_congr_right ⟨fun hm ↦ ⟨⟨_, rfl⟩, hm⟩, fun hm ↦ hm.2⟩
    · rw [hsym, SymbolTable.dynamic_bindDynamic, SymbolTable.dynamic_intern] at hp
      rcases List.mem_cons.mp hp with rfl | hp
      · exact Or.inr ⟨⟨n, rfl⟩, rfl⟩
      · exact Or.inl hp

/-- Every call from a heap with the invariant is a step. -/
theorem step (hinv : h.SymbolsInv r) (c : SymbolCall) :
    c.Step r h (Heap.exec h c.run).1 (Heap.exec h c.run).2 := by
  cases c with
  | id n => exact step_id hinv n
  | symbol n => exact step_symbol hinv n
  | dynamicSymbol n => exact step_dynamicSymbol hinv n

/-- The outcomes of the calls made one after another from `h`, and the heap they leave. A call
that fails hands its heap on to the next. -/
def runAll (h : Heap) : List SymbolCall → List (Except HeapError UInt64) × Heap
  | [] => ([], h)
  | c :: cs =>
    let rest := runAll (Heap.exec h c.run).2 cs
    ((Heap.exec h c.run).1 :: rest.1, rest.2)

@[simp] theorem runAll_nil (h : Heap) : runAll h [] = ([], h) := rfl

@[simp] theorem runAll_cons (h : Heap) (c : SymbolCall) (cs : List SymbolCall) :
    runAll h (c :: cs) = ((Heap.exec h c.run).1 :: (runAll (Heap.exec h c.run).2 cs).1,
      (runAll (Heap.exec h c.run).2 cs).2) := rfl

/-- A run of `calls` from `h`, with the outcomes `outs`, to `h'`: `h'` has the invariant and
follows `h`, every outcome holds there, and its names and bindings are those of `h` and those
the answered calls made. -/
structure Ran (r : Release) (calls : List SymbolCall) (h : Heap)
    (outs : List (Except HeapError UInt64)) (h' : Heap) : Prop where
  inv : h'.SymbolsInv r
  later : h.SymbolsLater h'
  holds : ∀ c o, (c, o) ∈ calls.zip outs → c.Holds r h' o
  names : ∀ n, n ∈ h'.symbols.names ↔
    n ∈ h.symbols.names ∨ ∃ c a, (c, Except.ok a) ∈ calls.zip outs ∧ n = c.name
  dynamic : ∀ p ∈ h'.symbols.dynamic,
    p ∈ h.symbols.dynamic ∨ ∃ n, (dynamicSymbol n, Except.ok p.1) ∈ calls.zip outs

/-- Every run from a heap with the invariant, by induction on the calls: the first call is a
step, and what it answered holds along the rest of the run. -/
theorem runAll_ran (hinv : h.SymbolsInv r) (calls : List SymbolCall) :
    Ran r calls h (runAll h calls).1 (runAll h calls).2 := by
  induction calls generalizing h with
  | nil =>
    refine ⟨hinv, .refl h, fun c o hco ↦ ?_, fun n ↦ ?_, fun p hp ↦ Or.inl hp⟩
    · cases hco
    · simp
  | cons c cs ih =>
    have hs := step hinv c
    have hr := ih hs.inv
    rw [runAll_cons]
    refine ⟨hr.inv, hs.later.trans hr.later, fun c' o' hco ↦ ?_, fun n ↦ ?_, fun p hp ↦ ?_⟩
    · rw [List.zip_cons_cons, List.mem_cons] at hco
      rcases hco with hco | hco
      · obtain ⟨rfl, rfl⟩ := Prod.mk.inj hco
        exact hs.holds.of_later hr.later
      · exact hr.holds c' o' hco
    · rw [hr.names n, hs.names n, List.zip_cons_cons]
      constructor
      · rintro ((hn | ⟨⟨a, ha⟩, rfl⟩) | ⟨c', a, hm, rfl⟩)
        · exact Or.inl hn
        · exact Or.inr ⟨c, a, ha ▸ List.mem_cons_self, rfl⟩
        · exact Or.inr ⟨c', a, List.mem_cons_of_mem _ hm, rfl⟩
      · rintro (hn | ⟨c', a, hm, rfl⟩)
        · exact Or.inl (Or.inl hn)
        · rcases List.mem_cons.mp hm with he | hm
          · obtain ⟨rfl, he⟩ := Prod.mk.inj he
            exact Or.inl (Or.inr ⟨⟨a, he.symm⟩, rfl⟩)
          · exact Or.inr ⟨c', a, hm, rfl⟩
    · rw [List.zip_cons_cons]
      rcases hr.dynamic p hp with hp | ⟨n, hm⟩
      · rcases hs.dynamic p hp with hp | ⟨⟨n, rfl⟩, ho⟩
        · exact Or.inl hp
        · exact Or.inr ⟨n, ho ▸ List.mem_cons_self⟩
      · exact Or.inr ⟨n, List.mem_cons_of_mem _ hm⟩

/-! ### Runs from an empty table -/

section FromEmpty

variable {calls : List SymbolCall} {h0 : Heap} {outs : List (Except HeapError UInt64)}
  (hran : Ran r calls h0 outs h) (hempty : h0.symbols = default)
include hran hempty

/-- From an empty table, the names are exactly those of the answered calls. -/
theorem Ran.names_of_empty (n : String) :
    n ∈ h.symbols.names ↔ ∃ c a, (c, Except.ok a) ∈ calls.zip outs ∧ n = c.name := by
  rw [hran.names n, hempty]
  exact or_iff_right List.not_mem_nil

/-- From an empty table, every binding is that of a dynamic symbol some call answered. -/
theorem Ran.dynamic_of_empty (p : Value × SymbolId) (hp : p ∈ h.symbols.dynamic) :
    ∃ n, (dynamicSymbol n, Except.ok p.1) ∈ calls.zip outs :=
  (hran.dynamic p hp).resolve_left (by rw [hempty]; exact List.not_mem_nil)

/-- From an empty table, the table holds no more names than the calls name. -/
theorem Ran.length_names_le :
    h.symbols.names.length ≤ (calls.map SymbolCall.name).dedup.length := by
  refine (List.Nodup.subperm hran.inv.names_nodup fun n hn ↦ ?_).length_le
  obtain ⟨c, a, hm, rfl⟩ := (hran.names_of_empty hempty n).mp hn
  exact List.mem_dedup.mpr (List.mem_map_of_mem (List.of_mem_zip hm).1)

/-- From an empty table, an identifier that no answered call interned names nothing. -/
theorem Ran.name?_eq_none (hlen : h.symbols.names.length < 2 ^ 60 - 256) {id : SymbolId}
    (hid : ∀ c a, (c, Except.ok a) ∈ calls.zip outs → (h.symbols.intern c.name).2 ≠ id) :
    h.symbols.name? id = none := by
  cases hname : h.symbols.name? id with
  | none => rfl
  | some n =>
    obtain ⟨i, hi, -⟩ := SymbolTable.exists_of_name?_eq_some _ hname
    obtain ⟨c, a, hm, rfl⟩ := (hran.names_of_empty hempty n).mp (List.mem_of_getElem? hi)
    have hint := (SymbolTable.name?_eq_some_iff hran.inv.names_nodup hlen).mp hname
    exact absurd (congrArg Prod.snd hint) (hid c a hm)

/-- From an empty table, a word that is neither a static symbol nor a dynamic symbol some call
answered is refused by `sym2Id`, which finds no binding for it. -/
theorem Ran.exec_sym2Id_of_unanswered {v : Value} (hst : h.facts.isStaticSymbol v = false)
    (hv : ∀ n, (dynamicSymbol n, Except.ok v) ∉ calls.zip outs) :
    Heap.exec h (Heap.sym2Id v) = (.error (.range v "not a symbol"), h) := by
  refine Heap.exec_sym2Id_of_unbound hst (SymbolTable.dynamicId?_eq_none _ fun hmem ↦ ?_)
  obtain ⟨p, hp, rfl⟩ := List.mem_map.mp hmem
  obtain ⟨n, hm⟩ := hran.dynamic_of_empty hempty p hp
  exact hv n hm

end FromEmpty

end SymbolCall

end RubyLayout

namespace RubyLayout

/-- A heap reference is a dynamic symbol exactly when its type is the symbol type. -/
theorem Accessors.dynamicSymP_of_builtinType {a : Accessors} {m : Memory} {v : Value}
    {t : TypeCode} (hsc : a.layout.isSpecialConst v = false) (hbt : a.builtinType m v = .ok t) :
    a.dynamicSymP m v = .ok (t == TypeCode.symbol) := by
  unfold Accessors.dynamicSymP
  rw [hsc, hbt]
  rfl

/-- A heap reference is no static symbol, which is a special constant. -/
theorem Release.isStaticSymbol_of_heap (r : Release) {v : Value}
    (hsc : r.facts.isSpecialConst v = false) : r.facts.isStaticSymbol v = false := by
  cases hst : r.facts.isStaticSymbol v
  · rfl
  · rw [Release.isSpecialConst_of_static r hst] at hsc
    cases hsc

/-- A dynamic symbol bound in a heap with the invariant, with a frozen header of the symbol type:
the accessors of the release read it as such, and both `Sym2ID`s give its binding. -/
theorem Heap.SymbolsInv.dynamic_reads (api : Api) {h : Heap} (hinv : h.SymbolsInv api.release)
    {off : Nat} {c : Value} {id : SymbolId}
    (hh : HeaderAt api.release.facts h.memory off .symbol true c)
    (hb : (h.memory.base + off.toUInt64, id) ∈ h.symbols.dynamic) :
    api.raw.rbType h.memory (h.memory.base + off.toUInt64) = .ok .symbol ∧
      api.raw.dynamicSymP h.memory (h.memory.base + off.toUInt64) = .ok true ∧
      api.raw.frozenP h.memory (h.memory.base + off.toUInt64) = .ok true ∧
      HostM.exec h (api.sym2Id (h.memory.base + off.toUInt64)) = (.ok id, h) ∧
      Heap.exec h (Heap.sym2Id (h.memory.base + off.toUInt64)) = (.ok id, h) := by
  obtain ⟨hsc, hbt, hrb, -, hfz⟩ :=
    hh.reads api.release api.debug hinv.sound.base hinv.sound.mapped_le
  have hst := Release.isStaticSymbol_of_heap api.release hsc
  have hst' : h.facts.isStaticSymbol (h.memory.base + off.toUInt64) = false := by
    rw [hinv.sound.facts_eq]
    exact hst
  have hexec := Heap.exec_sym2Id_of_bound hst'
    ((SymbolTable.dynamicId?_eq_some_iff hinv.keys_nodup).mpr hb)
  refine ⟨hrb, Accessors.dynamicSymP_of_builtinType (a := api.raw) hsc hbt, hfz, ?_, hexec⟩
  rw [Api.sym2Id, Api.layout, hst, if_neg Bool.false_ne_true, HostM.exec_ofHeap, hexec]
  rfl

/-- The symbol table of a fresh heap of any layout stays consistent over every sequence of
`ID`, `Symbol` and `DynamicSymbol` calls with fewer than `2 ^ 52 - 256` distinct names; since
every prefix of the calls is such a sequence too, it is so at all times.

Names and identifiers are inverse, so identifiers are one to one on names; the names are those
of the answered calls, each under the serial of its place in the table; an identifier no
answered call interned has no name. An `ID` call answers the identifier of its name, a `Symbol`
call the static symbol of it; a dynamic symbol is a frozen heap object of the symbol type from
which both `Sym2ID`s read the identifier back. Anything neither a static symbol nor a dynamic
symbol the calls built is refused by the host's `Sym2ID`.

The invariant `SymbolsInv` of one call carries over the whole sequence; the table then holds no
more names than the calls name, which keeps every serial below `2 ^ 52`. -/
theorem symbol_table_consistent (api : Api) {size : Int} {h0 : Heap}
    (hc : Heap.create api.layout size = .ok h0) (calls : List SymbolCall)
    (hfew : (calls.map SymbolCall.name).dedup.length < 2 ^ 52 - 256) :
    let h := (SymbolCall.runAll h0 calls).2
    let t := h.symbols
    let answered := calls.zip (SymbolCall.runAll h0 calls).1
    (∀ id n, t.name? id = some n ↔ t.intern n = (t, id)) ∧
    (∀ a ∈ t.names, ∀ b ∈ t.names, (t.intern a).2 = (t.intern b).2 ↔ a = b) ∧
    (∀ n, n ∈ t.names ↔ ∃ c a, (c, Except.ok a) ∈ answered ∧ n = c.name) ∧
    (∀ n ∈ t.names, t.name? (t.intern n).2 = some n ∧
      SymbolTable.firstSerial + t.names.idxOf n < 2 ^ 52 ∧
      (t.intern n).2 = ((SymbolTable.firstSerial + t.names.idxOf n).toUInt64 <<< 4) ||| 1) ∧
    (∀ id, (∀ c a, (c, Except.ok a) ∈ answered → (t.intern c.name).2 ≠ id) →
      t.name? id = none) ∧
    (∀ n o, (SymbolCall.id n, o) ∈ answered → o = .ok (t.intern n).2) ∧
    (∀ n o, (SymbolCall.symbol n, o) ∈ answered →
      o = .ok (api.layout.idToSymbol (t.intern n).2)) ∧
    (∀ n d, (SymbolCall.dynamicSymbol n, Except.ok d) ∈ answered →
      api.raw.rbType h.memory d = .ok .symbol ∧ api.raw.dynamicSymP h.memory d = .ok true ∧
      api.raw.frozenP h.memory d = .ok true ∧
      HostM.exec h (api.sym2Id d) = (.ok (t.intern n).2, h) ∧
      Heap.exec h (Heap.sym2Id d) = (.ok (t.intern n).2, h)) ∧
    (∀ v, api.layout.isStaticSymbol v = false →
      (∀ n, (SymbolCall.dynamicSymbol n, Except.ok v) ∉ answered) →
      Heap.exec h (Heap.sym2Id v) = (.error (.range v "not a symbol"), h)) := by
  intro h t answered
  have hran : SymbolCall.Ran api.release calls h0 (SymbolCall.runAll h0 calls).1 h :=
    SymbolCall.runAll_ran (Heap.SymbolsInv.of_create hc) calls
  have hempty := Heap.create_symbols hc
  have hnd := hran.inv.names_nodup
  have hlen : t.names.length < 2 ^ 52 - 256 :=
    Nat.lt_of_le_of_lt (hran.length_names_le hempty) hfew
  have hlen' : t.names.length < 2 ^ 60 - 256 :=
    Nat.lt_of_lt_of_le hlen (Nat.sub_le_sub_right (Nat.pow_le_pow_right (by decide) (by decide)) _)
  have hst (v : Value) (hv : api.layout.isStaticSymbol v = false) :
      h.facts.isStaticSymbol v = false := by
    rw [hran.inv.sound.facts_eq]
    exact hv
  refine ⟨fun id n ↦ SymbolTable.name?_eq_some_iff hnd hlen',
    fun a ha b hb ↦ SymbolTable.intern_snd_inj hnd hlen' ha hb, hran.names_of_empty hempty,
    fun n hn ↦ ⟨SymbolTable.name?_intern hnd hlen' hn, ?_,
      SymbolTable.intern_snd_eq_serial hlen' hn⟩,
    fun id hid ↦ hran.name?_eq_none hempty hlen' hid, fun n o hm ↦ (hran.holds _ o hm).2,
    fun n o hm ↦ (hran.holds _ o hm).2, fun n d hm ↦ ?_,
    fun v hv hans ↦ hran.exec_sym2Id_of_unanswered hempty (hst v hv) hans⟩
  · have hidx : t.names.idxOf n < t.names.length := List.idxOf_lt_length_iff.mpr hn
    have hf : SymbolTable.firstSerial = 256 := rfl
    have h52 : (2 : Nat) ^ 52 = 4503599627370496 := rfl
    omega
  · obtain ⟨-, hb, off, c, rfl, -, hh⟩ := hran.holds _ _ hm
    exact hran.inv.dynamic_reads api hh hb

/-- On a fresh 3.4 heap of 4096 bytes, after the identifier and then a dynamic symbol of one name,
the table's names and identifiers are inverse. -/
theorem symbol_table_consistent_id_then_dynamic :
    ∃ h0, Heap.create (Api.ofRelease .v34 false .unchecked).layout 4096 = .ok h0 ∧
      ([SymbolCall.id "a", .dynamicSymbol "a"].map SymbolCall.name).dedup.length < 2 ^ 52 - 256 ∧
      let t := (SymbolCall.runAll h0 [.id "a", .dynamicSymbol "a"]).2.symbols
      ∀ id n, t.name? id = some n ↔ t.intern n = (t, id) := by
  obtain ⟨h0, hcreate, -, -⟩ := Heap.create_ok (r := .v34) 4096 (.inr ⟨by decide, by decide⟩)
  have hfew : ([SymbolCall.id "a", .dynamicSymbol "a"].map SymbolCall.name).dedup.length <
      2 ^ 52 - 256 :=
    Nat.lt_of_le_of_lt (List.dedup_sublist _).length_le (by decide)
  exact ⟨h0, hcreate, hfew,
    (symbol_table_consistent (Api.ofRelease .v34 false .unchecked) hcreate _ hfew).1⟩

end RubyLayout
