import M68HC05.Failure

/-!
The compressor that saved states go through. It belongs to the host, and a saved state is the same
to a device whatever compressor the host has: what the library says of saved states, it says for
every compressor. What is assumed of one is assumed by name (`Compressor.Reads`).
-/

namespace M68HC05

/-- A compressor of byte strings. Expansion stops at the end of a stream and may refuse. -/
class Compressor where
  compress : List UInt8 → List UInt8
  expand : List UInt8 → Except StreamFault (List UInt8)

namespace Compressor

variable [Compressor] {IsStream : List UInt8 → List UInt8 → Prop}

/-- The compressor reads a format of streams, which is given by its complete streams and what they
stand for: it expands what begins with a complete stream and fails on everything else, which is
incomplete or invalid. -/
structure Reads (IsStream : List UInt8 → List UInt8 → Prop) : Prop where
  accepts {stream payload : List UInt8} (complete : IsStream stream payload) (rest : List UInt8) :
    expand (stream ++ rest) = .ok payload
  refuses {bytes : List UInt8}
    (broken : ¬ ∃ stream payload, stream <+: bytes ∧ IsStream stream payload) :
    ∃ fault, expand bytes = .error fault

/-- Bytes expand exactly if a complete stream is at their front. -/
theorem Reads.expand_eq_ok_iff (reads : Reads IsStream) {bytes payload : List UInt8} :
    expand bytes = .ok payload ↔ ∃ stream, stream <+: bytes ∧ IsStream stream payload := by
  constructor
  · intro expands
    by_cases begun : ∃ stream payload, stream <+: bytes ∧ IsStream stream payload
    · obtain ⟨stream, other, ⟨rest, rfl⟩, complete⟩ := begun
      rw [reads.accepts complete rest] at expands
      cases expands
      exact ⟨stream, ⟨rest, rfl⟩, complete⟩
    · obtain ⟨fault, refused⟩ := reads.refuses begun
      rw [refused] at expands
      cases expands
  · rintro ⟨stream, ⟨rest, rfl⟩, complete⟩
    exact reads.accepts complete rest

end Compressor
end M68HC05
