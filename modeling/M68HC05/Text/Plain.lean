/-!
Text for a log that is no terminal. Control characters are taken out and so are control sequences,
which begin with the escape character; white space stays. White space in the middle of a sequence
is shown and with it what follows, up to the next control character, where the sequence goes on; a
character beyond ASCII in between puts an end to it.
-/

namespace M68HC05.Text

/-- A control sequence that has begun, by what it waits for. -/
inductive Sequence where
  /-- what follows the escape character tells the kind of sequence -/
  | escape
  /-- the last character of an escape sequence of several -/
  | designation
  /-- the last character of a control sequence, after its parameters -/
  | control
  /-- the bell that ends a command to the terminal -/
  | command
  /-- the head of a device control string, at its beginning -/
  | deviceHead
  /-- the same, in its parameters -/
  | deviceParameters
  /-- the same, after its parameters -/
  | deviceIntermediates
  /-- the end of a string -/
  | string
  deriving DecidableEq

/-- What is being read. -/
inductive Reading where
  /-- text, possibly shown in the middle of a sequence -/
  | text (interrupted : Option Sequence)
  | within (sequence : Sequence)
  deriving DecidableEq

/-- A character lies between two others. -/
def isBetween (first last c : Char) : Bool :=
  first ≤ c && c ≤ last

/-- White space among the control characters. -/
def isSpacing (c : Char) : Bool :=
  c = '\t' || c = '\n' || c = '\x0c' || c = '\r'

/-- A character that is shown as text. -/
def isShown (c : Char) : Bool :=
  ' ' ≤ c && c ≠ '\x7f' || isSpacing c

/-- The encoding of a character holds the byte that ends strings. -/
def endsString (c : Char) : Bool :=
  (String.utf8EncodeChar c).contains 0x9C

namespace Sequence

/-- White space in a sequence is shown. -/
def showsSpacing : Sequence → Bool
  | escape => true
  | designation => true
  | control => true
  | _ => false

/-- What is read after a character of a sequence. -/
def next (sequence : Sequence) (c : Char) : Reading :=
  match sequence with
  | escape =>
    if isBetween ' ' '/' c then .within designation
    else if c = '[' then .within control
    else if c = ']' then .within command
    else if c = 'P' then .within deviceHead
    else if c = 'X' || c = '^' || c = '_' then .within string
    else if isBetween '0' '~' c then .text none
    else .within escape
  | designation => if isBetween '0' '~' c then .text none else .within designation
  | control => if isBetween '@' '~' c then .text none else .within control
  | command => if c = '\x07' then .text none else .within command
  | deviceHead =>
    if isBetween ' ' '/' c then .within deviceIntermediates
    else if isBetween '0' '?' c then .within deviceParameters
    else if isBetween '@' '~' c then .within string
    else .within deviceHead
  | deviceParameters =>
    if isBetween ' ' '/' c then .within deviceIntermediates
    else if isBetween '<' '~' c then .within string
    else .within deviceParameters
  | deviceIntermediates =>
    if isBetween '0' '~' c then .within string else .within deviceIntermediates
  | string => if endsString c then .text none else .within string

end Sequence

namespace Reading

/-- What is read after a character that begins or breaks off a sequence wherever it stands. -/
def onBreak? (c : Char) : Option Reading :=
  if c = '\x1b' then some (.within .escape)
  else if c = '\x18' || c = '\x1a' then some (.text none)
  else none

/-- Reads a character, and answers whether it is shown. -/
def read (reading : Reading) (c : Char) : Reading × Bool :=
  match onBreak? c, reading with
  | some next, _ => (next, false)
  | none, .text interrupted =>
    if isShown c then (.text (if c ≤ '\x7f' then interrupted else none), true)
    else ((interrupted.map within).getD (.text none), false)
  | none, .within sequence =>
    if sequence.showsSpacing && isSpacing c then (.text (some sequence), true)
    else (sequence.next c, false)

/-- The characters that are shown. -/
def shown (reading : Reading) : List Char → List Char
  | [] => []
  | c :: rest =>
    let (next, visible) := reading.read c
    if visible then c :: next.shown rest else next.shown rest

end Reading

/-- A text without control characters and control sequences. -/
def plain (text : String) : String :=
  String.ofList ((Reading.text none).shown text.toList)

end M68HC05.Text
