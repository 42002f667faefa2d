import M68HC05.Variant.AddressMap

/-!
The parts of the family. All share the processor, timer and ports; a part differs in its address
map, its bonded port pins, the watchdogs it has, and the names of its registers.
-/

namespace M68HC05

/-- A part of the family. -/
inductive Variant where
  /-- MC68HC05C4: 4 KB of mask ROM -/
  | c4
  /-- MC68HC05C8: 8 KB of mask ROM -/
  | c8
  /-- MC68HC705C8A: EPROM, with both watchdogs -/
  | c8a
  deriving DecidableEq

namespace Variant

/-- All parts, in the order of their identifiers. -/
def all : List Variant := [.c4, .c8, .c8a]

/-- Identifier in saved states. -/
def id : Variant → UInt8
  | .c4 => 0
  | .c8 => 1
  | .c8a => 2

/-- The part with an identifier. -/
def ofId? (id : UInt8) : Option Variant :=
  all.find? (·.id = id)

theorem ofId?_id (variant : Variant) : ofId? variant.id = some variant := by
  cases variant <;> rfl

/-- Name on the package. -/
def name : Variant → String
  | .c4 => "MC68HC05C4"
  | .c8 => "MC68HC05C8"
  | .c8a => "MC68HC705C8A"

/-- Short name. -/
def shortName : Variant → String
  | .c4 => "m68hc05c4"
  | .c8 => "m68hc05c8"
  | .c8a => "m68hc705c8a"

/-- Bonded pins of ports A to D; bit 6 of port D is missing on every part. -/
def bondedPins : Variant → Vector UInt8 4 := fun _ => #v[0xFF, 0xFF, 0xFF, 0xBF]

/-- The part has the programmable watchdog. -/
def hasProgrammableWatchdog : Variant → Bool
  | .c8a => true
  | _ => false

/-- The part has the non-programmable watchdog. -/
def hasFixedWatchdog : Variant → Bool
  | .c8a => true
  | _ => false

/-- The external interrupt line has a vector of its own, ahead of the timer's. -/
def vectorsExternalLine : Variant → Bool := fun _ => true

/-! ## Address maps -/

/-- Ports and timer, which lie at the same addresses on every part. -/
def peripheralRegions : AddressMap :=
  [.both 0x0000 0x0003 .portData,
   .both 0x0004 0x0006 .portDirection,
   .both 0x0012 0x0012 .timerControl,
   .readOnly 0x0013 0x0013 .timerStatus,
   .readOnly 0x0014 0x0015 .inputCapture,
   .both 0x0016 0x0017 .outputCompare,
   .readOnly 0x0018 0x001B .counter]

/-- Page zero above the registers: a little ROM, then RAM with the stack at its end. -/
def pageZeroRegions : AddressMap :=
  [.rom 0x0020 0x004F,
   .both 0x0050 0x00FF .ram]

/-- The address map of a part. The clear register of the non-programmable watchdog shares its
address with a ROM byte: writes reach the register, reads the byte. -/
def addressMap : Variant → AddressMap
  | .c4 => peripheralRegions ++ pageZeroRegions ++
      [.rom 0x0100 0x10FF,
       .rom 0x1F00 0x1FEF,
       .rom 0x1FF4 0x1FFF]
  | .c8 => peripheralRegions ++ pageZeroRegions ++
      [.rom 0x0100 0x1EFF,
       .rom 0x1F00 0x1FEF,
       .rom 0x1FF4 0x1FFF]
  | .c8a => peripheralRegions ++
      [.writeOnly 0x001D 0x001D .watchdogKey,
       .both 0x001E 0x001E .watchdogControl] ++ pageZeroRegions ++
      [.rom 0x0100 0x015F,
       .rom 0x0160 0x1EFF,
       .rom 0x1F00 0x1FDE,
       .rom 0x1FE0 0x1FEF,
       .writeOnly 0x1FF0 0x1FF0 .watchdogClear,
       .rom 0x1FF0 0x1FFF]

/-! ## Register names -/

/-- Names of the registers that every part has. The serial registers have names only. -/
def sharedSymbols : List (UInt16 × String) :=
  [(0x0000, "PORTA"), (0x0001, "PORTB"), (0x0002, "PORTC"), (0x0003, "PORTD"),
   (0x0004, "DDRA"), (0x0005, "DDRB"), (0x0006, "DDRC"),
   (0x000A, "SPCR"), (0x000B, "SPSR"), (0x000C, "SPDR"),
   (0x000D, "BAUD"), (0x000E, "SCCR1"), (0x000F, "SCCR2"), (0x0010, "SCSR"), (0x0011, "SCDR"),
   (0x0012, "TCR"), (0x0013, "TSR"),
   (0x0014, "ICRH"), (0x0015, "ICRL"), (0x0016, "OCRH"), (0x0017, "OCRL"),
   (0x0018, "TRH"), (0x0019, "TRL"), (0x001A, "ATRH"), (0x001B, "ATRL")]

/-- Register names of a part by address. -/
def symbols : Variant → List (UInt16 × String)
  | .c8a => sharedSymbols ++ [(0x001C, "PROG"), (0x001D, "COPRST"), (0x001E, "COPCR")]
  | _ => sharedSymbols

/-- The name of the register at an address. -/
def symbol? (variant : Variant) (address : UInt16) : Option String :=
  variant.symbols.lookup address

end Variant
end M68HC05
