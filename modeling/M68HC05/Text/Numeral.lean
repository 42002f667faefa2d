/-!
Numerals as the reports print them: upper-case hexadecimal and binary, filled with zeros to a
least width, and text filled with blanks to a column. A numeral that needs more room than its
width is printed whole.
-/

namespace M68HC05.Text

/-- Fills on the left up to `width` characters. -/
def padLeft (fill : Char) (width : Nat) (text : String) : String :=
  String.ofList (List.replicate (width - text.length) fill) ++ text

/-- Fills with blanks on the right up to `width` characters. -/
def padRight (width : Nat) (text : String) : String :=
  text ++ String.ofList (List.replicate (width - text.length) ' ')

/-- Upper-case hexadecimal of at least `width` digits. -/
def hex (width n : Nat) : String :=
  padLeft '0' width (String.ofList ((Nat.toDigits 16 n).map Char.toUpper))

/-- Binary of at least `width` digits. -/
def binary (width n : Nat) : String :=
  padLeft '0' width (String.ofList (Nat.toDigits 2 n))

/-- A byte as two hexadecimal digits. -/
def hexByte (byte : UInt8) : String :=
  hex 2 byte.toNat

/-- An address or a word as four hexadecimal digits. -/
def hexWord (word : UInt16) : String :=
  hex 4 word.toNat

/-- One bit of a byte, as the digit 0 or 1. -/
def bitDigit (byte : UInt8) (position : Nat) : String :=
  if byte.toNat.testBit position then "1" else "0"

end M68HC05.Text
