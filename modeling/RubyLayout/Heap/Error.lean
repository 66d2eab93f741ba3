import RubyLayout.Memory
import RubyLayout.Version
import RubyLayout.Text.ByteSize

/-!
# Heap errors

What can go wrong while a heap is made or used: facts for another word size, an arena that
cannot be mapped, an object larger than the largest slot, an exhausted arena, an allocation of
nothing at the very end of the arena (which indexes one past the last byte), a layout without
an interned-string flag or without embeddable typed data, a memory fault, and a conversion out
of range.

`HeapError.kind` sorts them into the error kinds answers name: an exhausted arena, a range
error, a runtime error, or a plain error.
-/

set_option autoImplicit false

namespace RubyLayout

/-- Why a heap operation failed. -/
inductive HeapError where
  /-- The facts describe words of another size. -/
  | wordSize (bytes : UInt64)
  /-- The arena could not be mapped. -/
  | mapFailed (size : Int) (reason : String)
  /-- An object of `size` bytes does not fit the largest slot. -/
  | slotTooLarge (size : Nat) (largest : UInt64)
  /-- The arena has `left` of its `total` bytes but `need` were asked for. -/
  | arenaFull (need left total : Nat)
  /-- An empty allocation exactly at the end of the arena. -/
  | indexOutOfRange (index length : Nat)
  /-- The layout has no interned-string flag. -/
  | noFstring (version : Version)
  /-- The layout has no embeddable typed data. -/
  | noTypedData (version : Version)
  /-- A memory access faulted. -/
  | fault (f : Fault)
  /-- A conversion of the value `v` failed. -/
  | range (v : UInt64) (message : String)
deriving DecidableEq, Repr

/-- The kinds of error answers. -/
inductive ErrorKind where
  | arenaFull | range | runtime | plain
deriving DecidableEq, Repr

/-- The name of an error kind in answers. -/
def ErrorKind.name : ErrorKind → String
  | .arenaFull => "ErrArenaFull"
  | .range => "RangeError"
  | .runtime => "runtime"
  | .plain => "error"

namespace HeapError

/-- The kind of a heap error. -/
def kind : HeapError → ErrorKind
  | .arenaFull .. => .arenaFull
  | .range .. => .range
  | .indexOutOfRange .. | .fault _ => .runtime
  | _ => .plain

/-- The message of a heap error. -/
def message : HeapError → String
  | .wordSize n => "heapsim: facts for " ++ toString n.toNat ++ "-byte words on a 8-byte target"
  | .mapFailed n reason => "heapsim: mmap " ++ toString n ++ " bytes: " ++ reason
  | .slotTooLarge n m =>
    "heapsim: " ++ toString n ++ " byte object exceeds the largest slot (" ++ toString m.toNat ++
      ")"
  | .arenaFull need left total =>
    "heapsim: arena exhausted: need " ++ ByteSize.text need ++ ", " ++ ByteSize.text left ++
      " of " ++ ByteSize.text total ++ " left"
  | .indexOutOfRange i n =>
    "runtime error: index out of range [" ++ toString i ++ "] with length " ++ toString n
  | .noFstring v => "heapsim: ruby " ++ v.text ++ " has no fstring flag"
  | .noTypedData v => "heapsim: ruby " ++ v.text ++ " has no embeddable typed data layout"
  | .fault f => f.message
  | .range v m => "heapsim: " ++ Word.hex v ++ ": " ++ m

end HeapError

end RubyLayout
