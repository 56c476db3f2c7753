import Revana.Foundation.ByteWords

/-!
# The guest machine as the hooks see it

Registers, memory and the big-endian accesses of `load_and_swap` and
`store_and_swap`.  Memory is the host's view: `TranslateVirtual` maps a guest
address to an index, and a host pointer moves on from there without the
32-bit wrap of guest arithmetic.
-/

namespace Revana.Runtime

open Foundation

abbrev Memory := ℕ → UInt8

/-- The registers of `PPCContext` which the hooks read or write. -/
structure Registers where
  r1 : UInt64
  r3 : UInt64
  r4 : UInt64
  r5 : UInt64
  r7 : UInt64
  r10 : UInt64
  r11 : UInt64
  r27 : UInt64
  r29 : UInt64
  r30 : UInt64
  deriving DecidableEq, Repr

def u32 (register : UInt64) : UInt32 := register.toUInt32

def s32 (register : UInt64) : Int32 := register.toUInt32.toInt32

structure Guest where
  registers : Registers
  memory : Memory

namespace Memory

def store (memory : Memory) (pointer : ℕ) (bytes : List UInt8) : Memory :=
  fun index =>
    if pointer ≤ index ∧ index < pointer + bytes.length then
      byteAt bytes (index - pointer)
    else memory index

def load (memory : Memory) (pointer size : ℕ) : List UInt8 :=
  (List.range size).map fun index => memory (pointer + index)

def loadHalf (memory : Memory) (pointer : ℕ) : UInt16 :=
  le16 (memory (pointer + 1)) (memory pointer)

def loadWord (memory : Memory) (pointer : ℕ) : UInt32 :=
  le32 (memory (pointer + 3)) (memory (pointer + 2)) (memory (pointer + 1))
    (memory pointer)

def storeWord (memory : Memory) (pointer : ℕ) (value : UInt32) : Memory :=
  memory.store pointer (le32Bytes value).reverse

theorem store_of_outside
    {memory : Memory} {pointer index : ℕ} {bytes : List UInt8}
    (houtside : index < pointer ∨ pointer + bytes.length ≤ index) :
    memory.store pointer bytes index = memory index := by
  unfold store
  rw [if_neg (by omega)]

theorem store_inside
    {memory : Memory} {pointer offset : ℕ} {bytes : List UInt8}
    (hoffset : offset < bytes.length) :
    memory.store pointer bytes (pointer + offset) = byteAt bytes offset := by
  unfold store
  rw [if_pos (by omega), Nat.add_sub_cancel_left]

theorem store_singleton (memory : Memory) (pointer : ℕ) (byte : UInt8) :
    memory.store pointer [byte] pointer = byte := by
  unfold store
  rw [if_pos ⟨le_rfl, Nat.lt_succ_self pointer⟩, Nat.sub_self]
  rfl

theorem store_congr
    {left right : Memory} {pointer index : ℕ} {bytes : List UInt8}
    (hbyte : left index = right index) :
    left.store pointer bytes index = right.store pointer bytes index := by
  unfold store
  rw [hbyte]

theorem load_congr
    {left right : Memory} {pointer size : ℕ}
    (hbytes : ∀ index < size,
      left (pointer + index) = right (pointer + index)) :
    left.load pointer size = right.load pointer size := by
  unfold load
  apply List.map_congr_left
  intro index hindex
  exact hbytes index (List.mem_range.mp hindex)

theorem load_store
    (memory : Memory) (pointer : ℕ) (bytes : List UInt8) :
    (memory.store pointer bytes).load pointer bytes.length = bytes := by
  unfold load
  apply List.ext_getElem
  · rw [List.length_map, List.length_range]
  intro index hindex hother
  rw [List.getElem_map, List.getElem_range, store_inside hother,
    byteAt_eq_getElem hother]

theorem load_append
    (memory : Memory) (pointer left right : ℕ) :
    memory.load pointer (left + right) =
      memory.load pointer left ++ memory.load (pointer + left) right := by
  unfold load
  rw [List.range_add, List.map_append, List.map_map]
  congr 1
  apply List.map_congr_left
  intro index _
  rw [Function.comp_apply, Nat.add_assoc]

@[simp] theorem loadWord_storeWord
    (memory : Memory) (pointer : ℕ) (value : UInt32) :
    (memory.storeWord pointer value).loadWord pointer = value := by
  simp only [loadWord, storeWord, store, List.length_reverse,
    le32Bytes_length]
  simpa [byteAt, le32Bytes] using le32_shifts value

theorem loadWord_storeWord_of_disjoint
    (memory : Memory) {pointer other : ℕ} (value : UInt32)
    (hdisjoint : pointer + 4 ≤ other ∨ other + 4 ≤ pointer) :
    (memory.storeWord other value).loadWord pointer =
      memory.loadWord pointer := by
  have hbyte : ∀ index, pointer ≤ index → index < pointer + 4 →
      memory.storeWord other value index = memory index := by
    intro index hlow hhigh
    simp only [storeWord, store, List.length_reverse, le32Bytes_length]
    rw [if_neg (by omega)]
  unfold loadWord
  rw [hbyte _ (by omega) (by omega), hbyte _ (by omega) (by omega),
    hbyte _ (by omega) (by omega), hbyte _ le_rfl (by omega)]

end Memory

/-! ## What a hook writes -/

/-- A store into guest memory, as the bytes that land there. -/
structure MemoryWrite where
  pointer : ℕ
  bytes : List UInt8
  deriving DecidableEq, Repr

namespace MemoryWrite

def half (pointer : ℕ) (value : UInt16) : MemoryWrite :=
  ⟨pointer, [(value >>> 8).toUInt8, value.toUInt8]⟩

def word (pointer : ℕ) (value : UInt32) : MemoryWrite :=
  ⟨pointer, (le32Bytes value).reverse⟩

def double (pointer : ℕ) (value : UInt64) : MemoryWrite :=
  ⟨pointer, (le32Bytes (value >>> 32).toUInt32).reverse ++
    (le32Bytes value.toUInt32).reverse⟩

end MemoryWrite

def Memory.apply (memory : Memory) (writes : List MemoryWrite) : Memory :=
  writes.foldl (fun memory write => memory.store write.pointer write.bytes)
    memory

@[simp] theorem Memory.apply_nil (memory : Memory) :
    memory.apply [] = memory := rfl

theorem Memory.apply_append
    (memory : Memory) (first second : List MemoryWrite) :
    memory.apply (first ++ second) = (memory.apply first).apply second :=
  List.foldl_append

/-- The writes of the hooks to memory and to the two registers they assign. -/
inductive GuestWrite where
  | memory (write : MemoryWrite)
  | r3 (value : UInt64)
  | r10 (value : UInt64)
  deriving DecidableEq, Repr

def Guest.write (guest : Guest) : GuestWrite → Guest
  | .memory write =>
      { guest with memory := guest.memory.store write.pointer write.bytes }
  | .r3 value =>
      { guest with registers := { guest.registers with r3 := value } }
  | .r10 value =>
      { guest with registers := { guest.registers with r10 := value } }

def Guest.apply (guest : Guest) (writes : List GuestWrite) : Guest :=
  writes.foldl Guest.write guest

end Revana.Runtime
