import M68HC05.Bus

/-!
The memory image: one byte for each address of the 8 KB space. Which parts of it act as ROM or
RAM is for the address map to say; here bytes are only stored.
-/

namespace M68HC05

/-- A string of bytes whose length fits in 64 bits, as every string that a host can hold. -/
structure ByteString where
  toArray : Array UInt8
  size_lt : toArray.size < UInt64.size
  deriving DecidableEq

/-- The first bytes of a list, or all if there are fewer. -/
def ByteString.front (bytes : List UInt8) (length : UInt64) : ByteString where
  toArray := (bytes.take length.toNat).toArray
  size_lt := by
    rw [List.size_toArray, List.length_take]
    exact Nat.lt_of_le_of_lt (Nat.min_le_left _ _) length.toNat_lt

/-- The bytes of the address space. -/
structure Memory where
  bytes : Vector UInt8 addressSpace

namespace Memory

/-- All bytes zero. -/
def zero : Memory := ⟨.replicate addressSpace 0⟩

/-- The byte at an address, or 0xFF beyond the space. -/
def read (memory : Memory) (address : UInt16) : UInt8 :=
  if h : address.toNat < addressSpace then memory.bytes[address.toNat] else 0xFF

/-- Stores a byte; nothing is stored beyond the space. -/
def write (memory : Memory) (address : UInt16) (byte : UInt8) : Memory :=
  if h : address.toNat < addressSpace then ⟨memory.bytes.set address.toNat byte⟩ else memory

/-- Lays an image over the memory from `start` on; what does not fit is dropped. -/
def overlay (memory : Memory) (start : Nat) (image : Array UInt8) : Memory :=
  ⟨.ofFn fun i =>
    if h : start ≤ i.val ∧ i.val - start < image.size then image[i.val - start]
    else memory.bytes.get i⟩

/-- The whole memory as a byte string. -/
def image (memory : Memory) : ByteString where
  toArray := memory.bytes.toArray
  size_lt := by
    rw [Vector.size_toArray]
    decide

/-- Copies an image to `offset`, provided that all of it fits. -/
def load? (memory : Memory) (offset : UInt16) (image : Array UInt8) : Option Memory :=
  if offset.toNat + image.size ≤ addressSpace then some (memory.overlay offset.toNat image)
  else none

theorem read_write_self (memory : Memory) (address : UInt16) (byte : UInt8)
    (h : address.toNat < addressSpace) : (memory.write address byte).read address = byte := by
  simp [read, write, h]

theorem read_write_of_ne (memory : Memory) {address other : UInt16} (byte : UInt8)
    (h : address ≠ other) : (memory.write address byte).read other = memory.read other := by
  have hne : address.toNat ≠ other.toNat := fun eq => h (UInt16.toNat_inj.mp eq)
  by_cases hother : other.toNat < addressSpace
  · by_cases haddress : address.toNat < addressSpace <;> simp [read, write, hother, haddress, hne]
  · simp [read, hother]

end Memory
end M68HC05
