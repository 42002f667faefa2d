import M68HC05.Device.Inspection

/-!
Texts in which a host shows a device: the processor registers on one line, all registers by name,
the input and output registers with their bits, memory in hexadecimal and as characters, and the
watch list.
-/

namespace M68HC05

open Text

/-- The processor registers on one line. A flag that is clear shows as a dash. -/
def Cpu.line (cpu : Cpu) : String :=
  "PC=" ++ hexWord cpu.pc ++ " A=" ++ hexByte cpu.a ++ " X=" ++ hexByte cpu.x ++ " SP="
    ++ hexWord cpu.sp ++ " CC="
    ++ String.join (Flag.all.map fun flag => if cpu.flag flag then flag.letter else "-")
    ++ " (" ++ hexByte cpu.cc ++ ") " ++ cpu.state.label ++ " tick=" ++ toString cpu.tick.toNat

/-- Each register of a device on a line of its own. -/
def Device.registerLines (device : Device) : String :=
  String.join (device.registers.map fun register =>
    padLeft ' ' 7 register.name ++ "="
      ++ hex register.digits (device.register register).toNat ++ "\n")

/-- The line of one input or output register; a register that cannot be read shows no value. -/
def symbolLine (address : UInt16) (name : String) (byte : Option UInt8) : String :=
  padLeft ' ' 8 name ++ " (0x" ++ hex 2 address.toNat ++ ") = "
    ++ (match byte with
      | some byte => "0x" ++ hexByte byte ++ "  " ++ binary 8 byte.toNat
      | none => "--")
    ++ "\n"

/-- The input and output registers that a part has, read as a debugger reads them. -/
def Device.symbolLinesOf (variant : Variant) : Action String := do
  let mut text := ""
  for (address, name) in variant.symbols do
    if (variant.addressMap.reader? address).isSome then
      let byte ← read address .debugger
      text := text ++ symbolLine address name (some byte)
    else
      text := text ++ symbolLine address name none
  return text

/-- The input and output registers of a device. -/
def Device.symbolLines : Action String := do
  symbolLinesOf (← get).variant

/-- A byte as a character, with a point for what cannot be printed. -/
def printable (byte : UInt8) : Char :=
  if 0x20 ≤ byte ∧ byte ≤ 0x7E then Char.ofNat byte.toNat else '.'

/-- One row of a memory dump: the address, the bytes, and the bytes as characters. -/
def dumpRow (address : Nat) (bytes : List UInt8) : String :=
  hex 4 address ++ ": " ++ padRight 47 (" ".intercalate (bytes.map hexByte)) ++ "  "
    ++ String.ofList (bytes.map printable) ++ "\n"

/-- Rows of a memory dump, sixteen bytes each. -/
def dumpRows (address : Nat) (bytes : List UInt8) : String :=
  if bytes.isEmpty then ""
  else dumpRow address (bytes.take 16) ++ dumpRows (address + 16) (bytes.drop 16)
termination_by bytes.length
decreasing_by
  have : bytes ≠ [] := by simpa using ‹¬ bytes.isEmpty›
  have := List.length_pos_iff.mpr this
  simp only [List.length_drop]
  omega

/-- Dump of `length` bytes from `start` on, as far as the bytes go. -/
def dump (bytes : Array UInt8) (start length : Nat) : String :=
  let first := min start bytes.size
  dumpRows first (bytes.extract first (first + length)).toList

/-- Dump of a part of the memory of a device. -/
def Device.memoryDump (device : Device) (start length : Nat) : String :=
  dump device.memory.bytes.toArray start length

/-- The line of one watchpoint. -/
def Watchpoint.line (point : Watchpoint) (index : Nat) : String :=
  "  #" ++ toString index ++ " " ++ hexWord point.address ++ " " ++ padRight 2 point.kind.tag
    ++ ((point.byte.map (" ==" ++ hexByte ·)).getD "") ++ (if point.enabled then "" else " (off)")
    ++ " hits=" ++ toString point.hits ++ "\n"

/-- Each watchpoint on a line of its own. -/
def WatchList.lines (list : WatchList) : String :=
  String.join (list.points.mapIdx fun index point => point.line index)

end M68HC05
