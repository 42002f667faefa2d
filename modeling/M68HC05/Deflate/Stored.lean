import M68HC05.Compressor
import M68HC05.Deflate.Inflate

/-!
The plainest compressed form: the bytes themselves, in stored blocks of at most 65535 bytes. With
it comes the compressor that the runner uses.
-/

namespace M68HC05.Deflate

/-- Most bytes in a stored block. -/
def storedLimit : Nat := 0xFFFF

/-- A stored block, the last of its stream or not. -/
def storedBlock (last : Bool) (bytes : List UInt8) : List UInt8 :=
  let count := bytes.length
  let complement := 0xFFFF - count
  [if last then 1 else 0, UInt8.ofNat count, UInt8.ofNat (count / 256),
    UInt8.ofNat complement, UInt8.ofNat (complement / 256)] ++ bytes

/-- A stream of stored blocks. -/
def store (bytes : List UInt8) : List UInt8 :=
  if bytes.length ≤ storedLimit then storedBlock true bytes
  else storedBlock false (bytes.take storedLimit) ++ store (bytes.drop storedLimit)
termination_by bytes.length
decreasing_by
  simp only [List.length_drop, storedLimit] at *
  omega

/-- The compressor of the runner writes stored blocks and reads streams of any blocks. -/
instance compressor : Compressor where
  compress := store
  expand bytes := (inflate bytes).map Array.toList

end M68HC05.Deflate
