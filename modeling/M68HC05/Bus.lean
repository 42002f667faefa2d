/-!
The bus of the M68HC05 family: thirteen address lines, so that addresses given in sixteen bits
are taken modulo 8 KB; who performs an access; and the vector addresses at the top of the space.
-/

namespace M68HC05

/-- Bytes in the address space. -/
def addressSpace : Nat := 0x2000

/-- The address that thirteen address lines carry. -/
def busAddress (address : UInt16) : UInt16 :=
  address % 0x2000

theorem toNat_busAddress (address : UInt16) :
    (busAddress address).toNat = address.toNat % addressSpace := by
  simp [busAddress, addressSpace]

theorem busAddress_lt (address : UInt16) : (busAddress address).toNat < addressSpace := by
  rw [toNat_busAddress]
  exact Nat.mod_lt _ (by decide)

/-- Who performs a bus access. A debugger sees what the program would see and leaves every
read and write protocol of the registers where it was. -/
inductive Access where
  | program
  | debugger
  deriving DecidableEq

/-- The accesses a watchpoint covers; a single access is a read or a write. -/
inductive WatchKind where
  | read
  | write
  | access
  deriving DecidableEq

namespace WatchKind

/-- A kind covers its own accesses, and `access` covers all. -/
def covers (kind made : WatchKind) : Bool :=
  kind = .access || kind = made

/-- Short form in reports. -/
def tag : WatchKind → String
  | .read => "r"
  | .write => "w"
  | .access => "rw"

/-- Long form in reports. -/
def label : WatchKind → String
  | .read => "Read"
  | .write => "Write"
  | .access => "Access"

end WatchKind

/-- One half of a sixteen-bit register that is reached a byte at a time. -/
inductive Half where
  | high
  | low
  deriving DecidableEq

/-- A word from its high and low bytes. -/
def joinBytes (high low : UInt8) : UInt16 :=
  high.toUInt16 * 256 + low.toUInt16

namespace Half

/-- Register pairs lie high byte first, so an odd offset names the low byte. -/
def ofOffset (offset : UInt16) : Half :=
  if offset % 2 = 0 then .high else .low

/-- The byte of a word that a half names. -/
def byteOf (half : Half) (word : UInt16) : UInt8 :=
  match half with
  | .high => (word / 256).toUInt8
  | .low => word.toUInt8

/-- Replaces one half of a word. -/
def replaceIn (half : Half) (word : UInt16) (byte : UInt8) : UInt16 :=
  match half with
  | .high => joinBytes byte word.toUInt8
  | .low => joinBytes (word / 256).toUInt8 byte

/-- The bytes of a word make it up. -/
theorem joinBytes_byteOf (word : UInt16) :
    joinBytes (high.byteOf word) (low.byteOf word) = word := by
  have bound := word.toNat_lt
  have upper : (high.byteOf word).toNat = word.toNat / 256 := by
    simp only [byteOf, UInt16.toNat_toUInt8, UInt16.toNat_div, UInt16.reduceToNat]
    omega
  have lower : (low.byteOf word).toNat = word.toNat % 256 := UInt16.toNat_toUInt8 word
  apply UInt16.toNat_inj.mp
  simp only [joinBytes, UInt16.toNat_add, UInt16.toNat_mul, UInt8.toNat_toUInt16, upper, lower,
    UInt16.reduceToNat]
  omega

end Half

/-! ## Vectors -/

/-- Address of the serial peripheral vector. -/
def spiVector : UInt16 := 0x1FF4

/-- Address of the serial communications vector. -/
def sciVector : UInt16 := 0x1FF6

/-- Address of the timer vector. -/
def timerVector : UInt16 := 0x1FF8

/-- Address of the external interrupt vector. -/
def externalVector : UInt16 := 0x1FFA

/-- Address of the software interrupt vector. -/
def softwareVector : UInt16 := 0x1FFC

/-- Address of the reset vector. -/
def resetVector : UInt16 := 0x1FFE

/-- Mask option byte whose lowest bit enables the non-programmable watchdog. -/
def maskOptionAddress : UInt16 := 0x1FF1

end M68HC05
