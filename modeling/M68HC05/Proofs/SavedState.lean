import M68HC05.Proofs.Coding
import M68HC05.Proofs.Stored
import M68HC05.Snapshot.Container

/-!
Saved states are a canonical form of snapshots. A saved state is opened by the part that saved it
and refused by the others (`openContainer_header`), and its payload stands for one snapshot only
(`Coder.exact_snapshot`).
-/

namespace M68HC05.Snapshot

theorem id_injective {v w : Variant} (same : v.id = w.id) : v = w := by
  have known := congrArg Variant.ofId? same
  rw [Variant.ofId?_id, Variant.ofId?_id] at known
  exact Option.some.inj known

section

variable [Compressor]

/-- A header is accepted by the part that wrote it alone. -/
theorem openContainer_header (saver expected : Variant) (stream : List UInt8) :
    openContainer (header saver ++ stream) expected =
      if expected = saver then (Compressor.expand stream).mapError .stream
      else .error (.variantMismatch (some saver) expected) := by
  change (if saver.id ≠ expected.id then
      .error (.variantMismatch (Variant.ofId? saver.id) expected)
    else (Compressor.expand stream).mapError .stream : Except Failure (List UInt8)) = _
  by_cases same : expected = saver
  · subst same
    rw [if_neg (not_not_intro rfl), if_pos rfl]
  · have other : saver.id ≠ expected.id := fun ids => same (id_injective ids).symm
    rw [if_pos other, if_neg same, Variant.ofId?_id]

/-- A snapshot comes back from its saved state, for the part that saved it. -/
theorem decode_encode
    (undone : ∀ payload, Compressor.expand (Compressor.compress payload) = .ok payload)
    (snapshot : Snapshot) (saver expected : Variant) :
    decode (snapshot.encode saver) expected =
      if expected = saver then .ok snapshot
      else .error (.variantMismatch (some saver) expected) := by
  have payload := Coder.exact_snapshot.decode_encode snapshot []
  rw [List.append_nil] at payload
  unfold decode encode
  rw [openContainer_header, undone]
  by_cases same : expected = saver
  · rw [if_pos same, if_pos same]
    dsimp only [Except.mapError]
    rw [payload]
  · rw [if_neg same, if_neg same]

end

/-- The saved form is canonical and exact, whatever compressor a host uses, provided that expansion
undoes it. A saved state is accepted for its own part only and gives the snapshot back. A payload
decodes to a snapshot just when the snapshot's encoding is at its front. So no two snapshots share
an encoding, and an encoding that is cut short is refused. -/
theorem saved_form_canonical [Compressor]
    (undone : ∀ payload, Compressor.expand (Compressor.compress payload) = .ok payload) :
    (∀ (snapshot : Snapshot) (saver expected : Variant),
      decode (snapshot.encode saver) expected =
        if expected = saver then .ok snapshot
        else .error (.variantMismatch (some saver) expected)) ∧
    (∀ (payload rest : List UInt8) (snapshot : Snapshot),
      Coder.snapshot.decode payload = .ok (snapshot, rest) ↔
        payload = Coder.snapshot.encode snapshot ++ rest) ∧
    (∀ first second : Snapshot,
      Coder.snapshot.encode first = Coder.snapshot.encode second → first = second) ∧
    (∀ (snapshot : Snapshot) (payload : List UInt8),
      payload <+: Coder.snapshot.encode snapshot → payload ≠ Coder.snapshot.encode snapshot →
        ∃ fault, Coder.snapshot.decode payload = .error fault) := by
  have exact := Coder.exact_snapshot
  refine ⟨decode_encode undone, ?_, ?_, ?_⟩
  · intro payload rest snapshot
    exact exact.decode_eq_ok_iff
  · intro first second same
    have ended : Coder.snapshot.encode first ++ [] = Coder.snapshot.encode second ++ [] := by
      rw [same]
    exact (exact.eq_of_append_eq ended).1
  · rintro snapshot payload ⟨missing, whole⟩ short
    refine exact.refuses_cut whole ?_
    rintro rfl
    rw [List.append_nil] at whole
    exact short whole

/-- The compressor of the runner is as assumed; a state saved by one part is shown as opened by it
and as refused by another. -/
theorem saved_form_canonical_stored :
    (∀ payload, Deflate.compressor.expand (Deflate.store payload) = .ok payload) ∧
    decode ((Device.new .c8a 4000000).snapshot.encode .c8a) .c8a =
      .ok (Device.new .c8a 4000000).snapshot ∧
    decode ((Device.new .c8a 4000000).snapshot.encode .c8a) .c4 =
      .error (.variantMismatch (some .c8a) .c4) := by
  have canonical := saved_form_canonical Deflate.expand_compress
  refine ⟨Deflate.expand_compress, ?_, ?_⟩
  · rw [canonical.1, if_pos rfl]
  · rw [canonical.1, if_neg (by decide)]

end M68HC05.Snapshot
