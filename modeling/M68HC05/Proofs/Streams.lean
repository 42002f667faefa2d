import M68HC05.Proofs.Coding
import M68HC05.Proofs.Stored

/-!
A compressed stream ends by itself. Each part of a stream is read to its own end and no further, so
it is read the same when whole bytes follow (`Extends`), and with more turns to spare. Hence what a
stream stands for does not depend on what comes after it (`inflate_append`), and the compressor of
the runner is one as the theory of saved states assumes it (`reads_closed`).
-/

namespace M68HC05.Deflate

open Coder

variable {α β : Type}

/-- What the first reader takes off the front of some bits, the second takes when whole bytes
follow. -/
def Extends (first second : Bits → Except StreamFault (α × Bits)) : Prop :=
  ∀ ⦃bits rest more : Bits⦄ ⦃value : α⦄, more.length % 8 = 0 →
    first bits = .ok (value, rest) → second (bits ++ more) = .ok (value, rest ++ more)

namespace Extends

theorem pure (value : α) :
    Extends (fun bits => .ok (value, bits)) fun bits => .ok (value, bits) := by
  intro bits rest more other _ taken
  cases taken
  rfl

/-- A reader that takes nothing is extended by any. -/
theorem error (fault : StreamFault) (second : Bits → Except StreamFault (α × Bits)) :
    Extends (fun _ => .error fault) second :=
  fun _ _ _ _ _ taken => nomatch taken

theorem bind {first second : Bits → Except StreamFault (α × Bits)}
    {next following : α × Bits → Except StreamFault (β × Bits)} (front : Extends first second)
    (back : ∀ value, Extends (fun bits => next (value, bits)) fun bits => following (value, bits)) :
    Extends (fun bits => first bits >>= next) fun bits => second bits >>= following := by
  intro bits rest more value whole taken
  obtain ⟨⟨middle, left⟩, took, taken⟩ := bind_eq_ok.mp taken
  exact bind_eq_ok.mpr ⟨_, front whole took, back middle whole taken⟩

/-- What is found without the bits may be needed in between. -/
theorem lift {found : Except StreamFault α}
    {next following : α → Bits → Except StreamFault (β × Bits)}
    (back : ∀ value, Extends (next value) (following value)) :
    Extends (fun bits => found >>= fun value => next value bits)
      fun bits => found >>= fun value => following value bits := by
  intro bits rest more value whole taken
  obtain ⟨middle, took, taken⟩ := bind_eq_ok.mp taken
  exact bind_eq_ok.mpr ⟨middle, took, back middle whole taken⟩

theorem ite {condition : Prop} [Decidable condition]
    {yes no yes' no' : Bits → Except StreamFault (α × Bits)}
    (whenTrue : condition → Extends yes yes') (whenFalse : ¬ condition → Extends no no') :
    Extends (fun bits => if condition then yes bits else no bits)
      fun bits => if condition then yes' bits else no' bits := by
  by_cases holds : condition
  · simp only [if_pos holds]
    exact whenTrue holds
  · simp only [if_neg holds]
    exact whenFalse holds

end Extends

/-! ## Numbers and symbols -/

theorem extends_takeNumber (width : Nat) : Extends (takeNumber width) (takeNumber width) := by
  induction width with
  | zero => exact .pure 0
  | succ width ih =>
    intro bits rest more value whole taken
    rcases bits with _ | ⟨bit, bits⟩
    · cases taken
    · rw [takeNumber] at taken
      obtain ⟨⟨high, left⟩, took, taken⟩ := bind_eq_ok.mp taken
      cases taken
      rw [List.cons_append, takeNumber]
      exact bind_eq_ok.mpr ⟨_, ih whole took, rfl⟩

theorem extends_takeSymbol (tree : CodeTree) : Extends tree.takeSymbol tree.takeSymbol := by
  induction tree with
  | unused => exact .error _ _
  | leaf symbol => exact .pure symbol
  | node zero one ihZero ihOne =>
    intro bits rest more value whole taken
    rcases bits with _ | ⟨bit, bits⟩
    · cases taken
    · cases bit with
      | false => exact ihZero whole taken
      | true => exact ihOne whole taken

theorem extends_takeExtended (table : Array (Nat × Nat)) (symbol : Nat) :
    Extends (takeExtended table symbol) (takeExtended table symbol) := by
  unfold takeExtended
  rcases table[symbol]? with _ | ⟨least, width⟩
  · exact .error _ _
  · exact (extends_takeNumber width).bind fun extra => .pure (least + extra)

/-- Symbols are expanded the same with more turns to spare. -/
theorem extends_expandSymbols (literals distances : CodeTree) {turns more : Nat}
    (enough : turns ≤ more) (out : Array UInt8) :
    Extends (expandSymbols literals distances turns out)
      (expandSymbols literals distances more out) := by
  induction turns generalizing more out with
  | zero => exact .error _ _
  | succ turns ih =>
    obtain ⟨more, rfl⟩ := Nat.exists_eq_add_of_le' (Nat.le_trans (Nat.succ_pos turns) enough)
    have enough := Nat.le_of_succ_le_succ enough
    refine (extends_takeSymbol literals).bind fun symbol => ?_
    refine .ite (fun _ => ih enough _) fun _ => .ite (fun _ => .pure out) fun _ => ?_
    refine (extends_takeExtended lengthTable _).bind fun length => ?_
    refine (extends_takeSymbol distances).bind fun symbol => ?_
    refine (extends_takeExtended distanceTable symbol).bind fun distance => ?_
    exact .ite (fun _ => ih enough _) fun _ => .error _ _

/-! ## Blocks -/

theorem extends_takeBytes (count : Nat) (out : Array UInt8) :
    Extends (takeBytes count out) (takeBytes count out) := by
  induction count generalizing out with
  | zero => exact .pure out
  | succ count ih => exact (extends_takeNumber 8).bind fun byte => ih _

theorem dropToByte_append {bits more : Bits} (whole : more.length % 8 = 0) :
    dropToByte (bits ++ more) = dropToByte bits ++ more := by
  have same : (bits ++ more).length % 8 = bits.length % 8 := by
    rw [List.length_append]
    omega
  unfold dropToByte
  rw [same, List.drop_append_of_le_length (Nat.mod_le _ _)]

theorem extends_expandStored (out : Array UInt8) :
    Extends (expandStored out) (expandStored out) := by
  intro bits rest more value whole taken
  unfold expandStored at taken ⊢
  rw [dropToByte_append whole]
  obtain ⟨⟨count, afterCount⟩, tookCount, taken⟩ := bind_eq_ok.mp taken
  obtain ⟨⟨complement, afterBoth⟩, tookComplement, taken⟩ := bind_eq_ok.mp taken
  refine bind_eq_ok.mpr ⟨_, extends_takeNumber 16 whole tookCount, ?_⟩
  refine bind_eq_ok.mpr ⟨_, extends_takeNumber 16 whole tookComplement, ?_⟩
  dsimp only at taken ⊢
  by_cases agree : count + complement = 0xFFFF
  · rw [if_pos agree] at taken ⊢
    exact extends_takeBytes count out whole taken
  · rw [if_neg agree] at taken
    cases taken

theorem extends_takeShortLengths (count : Nat) :
    Extends (takeShortLengths count) (takeShortLengths count) := by
  induction count with
  | zero => exact .pure []
  | succ count ih =>
    exact (extends_takeNumber 3).bind fun length => ih.bind fun lengths => .pure (length :: lengths)

theorem extends_takeLengths (code : CodeTree) (total turns : Nat) (lengths : List Nat) :
    Extends (takeLengths code total turns lengths) (takeLengths code total turns lengths) := by
  induction turns generalizing lengths with
  | zero => exact .ite (fun _ => .pure lengths) fun _ => .error _ _
  | succ turns ih =>
    refine .ite (fun _ => .pure lengths) fun _ => .ite (fun _ => .error _ _) fun _ => ?_
    refine (extends_takeSymbol code).bind fun symbol => .ite (fun _ => ih _) fun _ => ?_
    refine .ite (fun _ => ?_) fun _ => ?_
    · rcases lengths with _ | ⟨last, lengths⟩
      · exact .error _ _
      · exact (extends_takeNumber 2).bind fun extra => ih _
    · exact (extends_takeNumber _).bind fun extra => ih _

theorem extends_takeCodes : Extends takeCodes takeCodes := by
  refine (extends_takeNumber 5).bind fun literalCount => ?_
  refine (extends_takeNumber 5).bind fun distanceCount => ?_
  refine (extends_takeNumber 4).bind fun lengthCount => ?_
  refine .ite (fun _ => .error _ _) fun _ => ?_
  refine (extends_takeShortLengths _).bind fun written => .lift fun code => ?_
  refine (extends_takeLengths code _ _ []).bind fun lengths => ?_
  exact .lift fun distances => .lift fun literals => .pure _

theorem extends_expandBlock (kind : Nat) (out : Array UInt8) :
    Extends (expandBlock kind out) (expandBlock kind out) := by
  intro bits rest more value whole taken
  have enough (bits : Bits) : bits.length ≤ (bits ++ more).length := by
    rw [List.length_append]
    exact Nat.le_add_right _ _
  -- the turns of a block with codes are as many as the bits that are left, so they grow with these
  rcases kind with _ | _ | _ | kind
  · exact extends_expandStored out whole taken
  · exact extends_expandSymbols fixedLiterals fixedDistances (enough bits) out whole taken
  · obtain ⟨⟨⟨literals, distances⟩, left⟩, took, taken⟩ := bind_eq_ok.mp taken
    refine bind_eq_ok.mpr ⟨_, extends_takeCodes whole took, ?_⟩
    exact extends_expandSymbols literals distances (enough left) out whole taken
  · cases taken

/-! ## Streams -/

/-- Blocks are expanded the same when whole bytes follow, with more turns to spare. -/
theorem expandBlocks_extended {turns spare : Nat} (enough : turns ≤ spare)
    {out payload : Array UInt8} {bits more : Bits} (whole : more.length % 8 = 0)
    (expands : expandBlocks turns out bits = .ok payload) :
    expandBlocks spare out (bits ++ more) = .ok payload := by
  induction turns generalizing spare out bits with
  | zero => cases expands
  | succ turns ih =>
    obtain ⟨spare, rfl⟩ := Nat.exists_eq_add_of_le' (Nat.le_trans (Nat.succ_pos turns) enough)
    rw [expandBlocks] at expands ⊢
    obtain ⟨⟨last, afterLast⟩, tookLast, expands⟩ := bind_eq_ok.mp expands
    obtain ⟨⟨kind, afterKind⟩, tookKind, expands⟩ := bind_eq_ok.mp expands
    obtain ⟨⟨block, afterBlock⟩, tookBlock, expands⟩ := bind_eq_ok.mp expands
    refine bind_eq_ok.mpr ⟨_, extends_takeNumber 1 whole tookLast, ?_⟩
    refine bind_eq_ok.mpr ⟨_, extends_takeNumber 2 whole tookKind, ?_⟩
    refine bind_eq_ok.mpr ⟨_, extends_expandBlock kind out whole tookBlock, ?_⟩
    dsimp only at expands ⊢
    by_cases ends : last = 1
    · rw [if_pos ends] at expands ⊢
      exact expands
    · rw [if_neg ends] at expands ⊢
      exact ih (Nat.le_of_succ_le_succ enough) expands

/-- What a stream stands for does not depend on what follows it. -/
theorem inflate_append {stream : List UInt8} {payload : Array UInt8}
    (complete : inflate stream = .ok payload) (more : List UInt8) :
    inflate (stream ++ more) = .ok payload := by
  have whole : (bitsOf more).length % 8 = 0 := by
    rw [length_bitsOf]
    exact Nat.mul_mod_right 8 _
  have enough : (bitsOf stream).length ≤ (bitsOf stream ++ bitsOf more).length := by
    rw [List.length_append]
    exact Nat.le_add_right _ _
  unfold inflate at complete ⊢
  rw [bitsOf_append]
  exact expandBlocks_extended enough whole complete

/-- A complete stream as the expansion has it: bytes that expand, and of which no shorter front
does. -/
structure Closed (stream payload : List UInt8) : Prop where
  expands : inflate stream = .ok payload.toArray
  ends {front : List UInt8} {other : Array UInt8} :
    front <+: stream → inflate front = .ok other → front = stream

/-- What expands begins with a complete stream: the shortest of its fronts that expands. -/
theorem exists_closed {bytes : List UInt8} {payload : Array UInt8}
    (expands : inflate bytes = .ok payload) :
    ∃ stream, stream <+: bytes ∧ Closed stream payload.toList := by
  by_cases ends : ∃ front, front <+: bytes ∧ front ≠ bytes ∧ ∃ other, inflate front = .ok other
  · obtain ⟨front, ⟨more, whole⟩, short, other, frontExpands⟩ := ends
    have shorter : front.length < bytes.length := by
      have cut : more ≠ [] := by
        rintro rfl
        exact short ((List.append_nil front).symm.trans whole)
      rw [← whole, List.length_append]
      exact Nat.lt_add_of_pos_right (List.length_pos_iff.mpr cut)
    have same := inflate_append frontExpands more
    rw [whole, expands] at same
    cases same
    obtain ⟨stream, within, complete⟩ := exists_closed frontExpands
    exact ⟨stream, within.trans ⟨more, whole⟩, complete⟩
  · refine ⟨bytes, List.prefix_rfl, expands, fun {front other} within frontExpands => ?_⟩
    by_cases whole : front = bytes
    · exact whole
    · exact absurd ⟨front, within, whole, other, frontExpands⟩ ends
termination_by bytes.length

/-- The compressor of the runner reads its streams as a compressor is assumed to do. -/
theorem reads_closed : Compressor.Reads Closed where
  accepts {stream payload} complete rest := by
    change (inflate (stream ++ rest)).map Array.toList = _
    rw [inflate_append complete.expands rest]
    rfl
  refuses {bytes} broken := by
    change ∃ fault, (inflate bytes).map Array.toList = .error fault
    rcases expands : inflate bytes with fault | payload
    · exact ⟨fault, rfl⟩
    · obtain ⟨stream, within, complete⟩ := exists_closed expands
      exact absurd ⟨stream, payload.toList, within, complete⟩ broken

end M68HC05.Deflate
