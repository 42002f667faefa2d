import M68HC05.Text.Numeral
import M68HC05.Variant

/-!
What can go wrong while a device is configured or its state is moved in or out, by cause, and the
wording of each. Nothing that a program on the device does is a failure.
-/

namespace M68HC05

/-- Why a compressed stream cannot be expanded, in the words of the compressor. -/
structure StreamFault where
  message : String
  deriving DecidableEq

/-- A payload that does not begin with an encoded state. -/
inductive PayloadFault where
  | endOfInput
  /-- a byte other than 0 or 1 where a truth value belongs -/
  | badBool (byte : UInt8)
  /-- a number of no run state -/
  | badRunState (number : UInt32)
  deriving DecidableEq

/-- The wording of a payload fault. -/
def PayloadFault.message : PayloadFault → String
  | .endOfInput => "io error: unexpected end of file"
  | .badBool byte =>
    "invalid u8 while decoding bool, expected 0 or 1, found " ++ toString byte.toNat
  | .badRunState number =>
    "invalid value: integer \x60" ++ toString number.toNat
      ++ "\x60, expected variant index 0 <= i < 3"

/-- Why a file cannot be read or written: a text, and the number that the operating system has for
it unless the path was refused before it came there. -/
structure FileFault where
  text : String
  number : Option Nat
  deriving DecidableEq

namespace FileFault

/-- The wording of a file error. -/
def message (fault : FileFault) : String :=
  match fault.number with
  | some number => fault.text ++ " (os error " ++ toString number ++ ")"
  | none => fault.text

/-- Nothing has that name. -/
def notFound : FileFault := ⟨"No such file or directory", some 2⟩

/-- A file is used as a directory. -/
def notDirectory : FileFault := ⟨"Not a directory", some 20⟩

/-- A directory is used as a file. -/
def isDirectory : FileFault := ⟨"Is a directory", some 21⟩

/-- A name is longer than the file system allows. -/
def nameTooLong : FileFault := ⟨"File name too long", some 36⟩

/-- A path holds the character that ends paths. -/
def zeroInPath : FileFault := ⟨"file name contained an unexpected NUL byte", none⟩

end FileFault

/-- Why an operation on a device was refused. -/
inductive Failure where
  /-- bonded pins were set after the start -/
  | alreadyConfigured
  /-- an image does not fit into the address space -/
  | imageOverflow (offset : UInt16) (size : Nat)
  /-- a saved state is shorter than its header -/
  | truncated
  | badMagic
  | badVersion (found : UInt32)
  /-- a state was saved by another part, if any -/
  | variantMismatch (saved : Option Variant) (current : Variant)
  | stream (fault : StreamFault)
  | payload (fault : PayloadFault)
  | file (fault : FileFault)
  deriving DecidableEq

/-- The version of the saved-state format. -/
def stateVersion : UInt32 := 1

/-- The wording of a failure. -/
def Failure.message : Failure → String
  | .alreadyConfigured => "attempt to set physical port bits after configuration"
  | .imageOverflow offset size =>
    "image of " ++ toString size ++ " bytes at 0x" ++ Text.hexWord offset
      ++ " exceeds the address space"
  | .truncated => "save state too small"
  | .badMagic => "invalid save state (bad magic)"
  | .badVersion found =>
    "unsupported save state version " ++ toString found.toNat ++ " (expected "
      ++ toString stateVersion.toNat ++ ")"
  | .variantMismatch saved current =>
    "variant mismatch: save=" ++ (saved.map Variant.name).getD "?" ++ " current=" ++ current.name
  | .stream fault => "decompress error: " ++ fault.message
  | .payload fault => "codec error: " ++ fault.message
  | .file fault => "i/o error: " ++ fault.message

end M68HC05
