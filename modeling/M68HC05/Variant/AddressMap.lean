import M68HC05.Bus

/-!
Address maps: which register or memory each address is wired to. A map is a list of regions; each
direction of an access goes to the first region that holds the address and is wired for that
direction, so a region wired for one direction only lets the other fall through.
-/

namespace M68HC05

/-- What an address range is wired to. -/
inductive Handler where
  /-- data registers of ports A to D -/
  | portData
  /-- data direction registers of ports A to C -/
  | portDirection
  | timerControl
  | timerStatus
  | inputCapture
  | outputCompare
  /-- the counter and alternate counter registers -/
  | counter
  /-- key register of the programmable watchdog -/
  | watchdogKey
  /-- control register of the programmable watchdog -/
  | watchdogControl
  /-- clear register of the non-programmable watchdog -/
  | watchdogClear
  | rom
  | ram
  deriving DecidableEq

/-- A range of addresses, both ends included, with its wiring for each direction. -/
structure Region where
  first : UInt16
  last : UInt16
  read : Option Handler
  write : Option Handler

namespace Region

/-- Wired to one handler in both directions. -/
def both (first last : UInt16) (handler : Handler) : Region :=
  ⟨first, last, some handler, some handler⟩

/-- Wired for reads only. -/
def readOnly (first last : UInt16) (handler : Handler) : Region :=
  ⟨first, last, some handler, none⟩

/-- Wired for writes only. -/
def writeOnly (first last : UInt16) (handler : Handler) : Region :=
  ⟨first, last, none, some handler⟩

/-- Read-only memory. It is wired for writes as well, because a debugger may patch it; program
writes end there without effect. -/
def rom (first last : UInt16) : Region :=
  both first last .rom

/-- The address lies in the range. -/
def contains (region : Region) (address : UInt16) : Bool :=
  region.first ≤ address && address ≤ region.last

/-- The handler for a read, with the offset of the address in the range. -/
def reader? (region : Region) (address : UInt16) : Option (Handler × UInt16) :=
  if region.contains address then region.read.map (·, address - region.first) else none

/-- The handler for a write, with the offset of the address in the range. -/
def writer? (region : Region) (address : UInt16) : Option (Handler × UInt16) :=
  if region.contains address then region.write.map (·, address - region.first) else none

end Region

/-- An address map, in order of precedence. -/
abbrev AddressMap := List Region

namespace AddressMap

/-- Where a read of `address` goes. -/
def reader? (map : AddressMap) (address : UInt16) : Option (Handler × UInt16) :=
  map.findSome? (·.reader? address)

/-- Where a write to `address` goes. -/
def writer? (map : AddressMap) (address : UInt16) : Option (Handler × UInt16) :=
  map.findSome? (·.writer? address)

/-- The ranges that read as RAM. -/
def ramRanges (map : AddressMap) : List (UInt16 × UInt16) :=
  (map.filter (·.read = some .ram)).map fun region => (region.first, region.last)

end AddressMap
end M68HC05
