import Mathlib.Algebra.Group.Nat.Defs
import M68HC05.Snapshot.Payload

/-!
The byte form of a snapshot is exact. A coder is `Exact` when its decoder takes off the front of a
list precisely the encoding of the value that it answers. Exactness passes from parts to compounds
(`Exact.pair`, `Exact.via`), so it is proved for the elementary coders and then follows the shape
of a snapshot (`exact_snapshot`).

An exact encoding is free of choice and of overlap: no encoding is the front of another
(`Exact.eq_of_append_eq`), and what is cut short is refused (`Exact.refuses_cut`).
-/

namespace M68HC05.Coder

variable {α β : Type}

/-- A list decodes to a value and a rest just when it is the encoding of the value and the rest
after it. -/
structure Exact (coder : Coder α) : Prop where
  decode_encode (value : α) (rest : List UInt8) :
    coder.decode (coder.encode value ++ rest) = .ok (value, rest)
  eq_encode {bytes rest : List UInt8} {value : α}
    (decoded : coder.decode bytes = .ok (value, rest)) : bytes = coder.encode value ++ rest

namespace Exact

theorem decode_eq_ok_iff {coder : Coder α} (exact : Exact coder) {bytes rest : List UInt8}
    {value : α} :
    coder.decode bytes = .ok (value, rest) ↔ bytes = coder.encode value ++ rest := by
  constructor
  · exact exact.eq_encode
  · rintro rfl
    exact exact.decode_encode value rest

/-- Two encodings that agree as far as the shorter goes are of one value. -/
theorem eq_of_append_eq {coder : Coder α} (exact : Exact coder) {a b : α}
    {restA restB : List UInt8}
    (same : coder.encode a ++ restA = coder.encode b ++ restB) : a = b ∧ restA = restB := by
  have both := exact.decode_encode a restA
  rw [same, exact.decode_encode b restB] at both
  cases both
  exact ⟨rfl, rfl⟩

/-- A list that is continued to an encoding, and is not all of it, is refused. -/
theorem refuses_cut {coder : Coder α} (exact : Exact coder) {value : α}
    {bytes missing : List UInt8}
    (whole : bytes ++ missing = coder.encode value) (short : missing ≠ []) :
    ∃ fault, coder.decode bytes = .error fault := by
  rcases decoded : coder.decode bytes with fault | ⟨other, rest⟩
  · exact ⟨fault, rfl⟩
  · exfalso
    have front := exact.eq_encode decoded
    have same : coder.encode other ++ (rest ++ missing) = coder.encode value ++ [] := by
      rw [← List.append_assoc, ← front, whole, List.append_nil]
    have ends := (exact.eq_of_append_eq same).2
    exact short (List.append_eq_nil_iff.mp ends).2

end Exact

/-! ## Compound values -/

/-- A decoder in two parts succeeds when both do. -/
theorem bind_eq_ok {ε γ δ : Type} {first : Except ε γ}
    {second : γ → Except ε δ} {result : δ} :
    first >>= second = .ok result ↔ ∃ value, first = .ok value ∧ second value = .ok result := by
  constructor
  · intro succeeded
    rcases first with fault | value
    · cases succeeded
    · exact ⟨value, rfl, succeeded⟩
  · rintro ⟨value, rfl, succeeded⟩
    exact succeeded

theorem Exact.pair {first : Coder α} {second : Coder β}
    (exactFirst : Exact first) (exactSecond : Exact second) : Exact (first.pair second) where
  decode_encode value rest := by
    unfold Coder.pair
    dsimp only
    rw [List.append_assoc, exactFirst.decode_encode]
    dsimp only [Bind.bind, Except.bind]
    rw [exactSecond.decode_encode]
    rfl
  eq_encode := by
    intro bytes rest value decoded
    obtain ⟨⟨a, afterFirst⟩, tookFirst, decoded⟩ := bind_eq_ok.mp decoded
    obtain ⟨⟨b, afterSecond⟩, tookSecond, decoded⟩ := bind_eq_ok.mp decoded
    cases decoded
    have front := exactFirst.eq_encode tookFirst
    have back := exactSecond.eq_encode tookSecond
    unfold Coder.pair
    dsimp only at back ⊢
    rw [front, back, List.append_assoc]

/-- Another form of the value, with which it can be exchanged, has an exact encoding too. -/
theorem Exact.via {coder : Coder α} (exact : Exact coder) {toPart : β → α} {ofPart : α → β}
    (ofPart_toPart : ∀ value, ofPart (toPart value) = value)
    (toPart_ofPart : ∀ part, toPart (ofPart part) = part) : Exact (coder.via toPart ofPart) where
  decode_encode value rest := by
    unfold Coder.via
    dsimp only
    rw [exact.decode_encode]
    dsimp only [Bind.bind, Except.bind]
    rw [ofPart_toPart]
    rfl
  eq_encode := by
    intro bytes rest value decoded
    obtain ⟨⟨part, after⟩, took, decoded⟩ := bind_eq_ok.mp decoded
    cases decoded
    unfold Coder.via
    dsimp only
    rw [toPart_ofPart]
    exact exact.eq_encode took

/-! ## Numbers -/

theorem length_littleEndian (width n : Nat) : (littleEndian width n).length = width := by
  induction width generalizing n with
  | zero => rfl
  | succ width ih => rw [littleEndian, List.length_cons, ih]

/-- The bytes of a number stand for it, if it has no more digits than bytes are written. -/
theorem ofLittleEndian_littleEndian {width n : Nat} (bounded : n < 256 ^ width) :
    ofLittleEndian (littleEndian width n) = n := by
  induction width generalizing n with
  | zero =>
    rw [Nat.pow_zero, Nat.lt_one_iff] at bounded
    rw [bounded]
    rfl
  | succ width ih =>
    have rest : n / 256 < 256 ^ width := by
      rw [Nat.div_lt_iff_lt_mul (by decide), ← Nat.pow_succ]
      exact bounded
    rw [littleEndian, ofLittleEndian, ih rest, UInt8.toNat_ofNat']
    exact Nat.mod_add_div n 256

/-- More digits than bytes are written do not show. -/
theorem littleEndian_mod (width n : Nat) :
    littleEndian width (n % 256 ^ width) = littleEndian width n := by
  induction width generalizing n with
  | zero => rfl
  | succ width ih =>
    have low : UInt8.ofNat (n % 256 ^ (width + 1)) = UInt8.ofNat n := by
      apply UInt8.toNat_inj.mp
      rw [UInt8.toNat_ofNat', UInt8.toNat_ofNat', Nat.pow_succ']
      exact Nat.mod_mod_of_dvd n (Nat.dvd_mul_right _ _)
    have high : n % 256 ^ (width + 1) / 256 = n / 256 % 256 ^ width := by
      rw [Nat.pow_succ', Nat.mod_mul_right_div_self]
    rw [littleEndian, littleEndian, low, high, ih]

/-- Bytes are the bytes of the number that they stand for. -/
theorem littleEndian_ofLittleEndian (bytes : List UInt8) :
    littleEndian bytes.length (ofLittleEndian bytes) = bytes := by
  induction bytes with
  | nil => rfl
  | cons byte bytes ih =>
    have low : UInt8.ofNat (byte.toNat + 256 * ofLittleEndian bytes) = byte := by
      apply UInt8.toNat_inj.mp
      rw [UInt8.toNat_ofNat', Nat.add_mul_mod_self_left]
      exact Nat.mod_eq_of_lt byte.toNat_lt
    have high : (byte.toNat + 256 * ofLittleEndian bytes) / 256 = ofLittleEndian bytes := by
      have := byte.toNat_lt
      omega
    rw [List.length_cons, littleEndian, ofLittleEndian, low, high, ih]

theorem ofLittleEndian_lt (bytes : List UInt8) : ofLittleEndian bytes < 256 ^ bytes.length := by
  induction bytes with
  | nil => decide
  | cons byte bytes ih =>
    have := byte.toNat_lt
    rw [ofLittleEndian, List.length_cons, Nat.pow_succ]
    omega

/-- Words that are exchanged with the numbers of `width` bytes have an exact encoding. -/
theorem exact_number {width : Nat} {toNat : α → Nat} {ofNat : Nat → α}
    (bounded : ∀ value, toNat value < 256 ^ width)
    (ofNat_toNat : ∀ value, ofNat (toNat value) = value)
    (toNat_ofNat : ∀ n, n < 256 ^ width → toNat (ofNat n) = n) :
    Exact ((number width).via toNat ofNat) where
  decode_encode value rest := by
    have written := length_littleEndian width (toNat value)
    unfold Coder.via number
    dsimp only
    rw [if_pos (by rw [List.length_append, written]; exact Nat.le_add_right _ _),
      List.take_left' written, List.drop_left' written]
    dsimp only [Bind.bind, Except.bind]
    rw [ofLittleEndian_littleEndian (bounded value), ofNat_toNat]
    rfl
  eq_encode := by
    intro bytes rest value decoded
    obtain ⟨⟨n, after⟩, took, decoded⟩ := bind_eq_ok.mp decoded
    cases decoded
    unfold number at took
    dsimp only at took
    by_cases enough : width ≤ bytes.length
    · rw [if_pos enough] at took
      cases took
      have taken : (bytes.take width).length = width := List.length_take_of_le enough
      have small := ofLittleEndian_lt (bytes.take width)
      have again := littleEndian_ofLittleEndian (bytes.take width)
      rw [taken] at small again
      unfold Coder.via number
      dsimp only
      rw [toNat_ofNat _ small, again, List.take_append_drop]
    · rw [if_neg enough] at took
      cases took

theorem exact_byte : Exact byte :=
  exact_number UInt8.toNat_lt (fun _ => UInt8.ofNat_toNat) fun _ => UInt8.toNat_ofNat_of_lt'

theorem exact_word16 : Exact word16 :=
  exact_number UInt16.toNat_lt (fun _ => UInt16.ofNat_toNat) fun _ => UInt16.toNat_ofNat_of_lt'

theorem exact_word32 : Exact word32 :=
  exact_number UInt32.toNat_lt (fun _ => UInt32.ofNat_toNat) fun _ => UInt32.toNat_ofNat_of_lt'

theorem exact_word64 : Exact word64 :=
  exact_number UInt64.toNat_lt (fun _ => UInt64.ofNat_toNat) fun _ => UInt64.toNat_ofNat_of_lt'

theorem exact_signed64 : Exact signed64 :=
  exact_word64.via (fun _ => rfl) fun _ => rfl

/-! ## Other values -/

theorem exact_bool : Exact bool where
  decode_encode value rest := by
    cases value with
    | false => rfl
    | true => rfl
  eq_encode := by
    intro bytes rest value decoded
    obtain ⟨⟨number, after⟩, took, decoded⟩ := bind_eq_ok.mp decoded
    have front := exact_byte.eq_encode took
    dsimp only at decoded
    split at decoded
    · subst number
      cases decoded
      exact front
    · split at decoded
      · subst number
        cases decoded
        exact front
      · cases decoded

theorem exact_runState : Exact runState where
  decode_encode state rest := by
    cases state with
    | running => rfl
    | wait => rfl
    | stop => rfl
  eq_encode := by
    intro bytes rest state decoded
    obtain ⟨⟨number, after⟩, took, decoded⟩ := bind_eq_ok.mp decoded
    have front := exact_word32.eq_encode took
    dsimp only at decoded
    split at decoded
    · subst number
      cases decoded
      exact front
    · split at decoded
      · subst number
        cases decoded
        exact front
      · split at decoded
        · subst number
          cases decoded
          exact front
        · cases decoded

theorem exact_byteString : Exact byteString where
  decode_encode string rest := by
    have size : (UInt64.ofNat string.toArray.size).toNat = string.toArray.toList.length :=
      UInt64.toNat_ofNat_of_lt' string.size_lt
    unfold byteString
    dsimp only
    rw [List.append_assoc, exact_word64.decode_encode]
    dsimp only [Bind.bind, Except.bind]
    rw [if_pos (by rw [size, List.length_append]; exact Nat.le_add_right _ _), ByteString.front]
    simp only [List.take_left' size.symm, List.drop_left' size.symm, Array.toArray_toList]
    rfl
  eq_encode := by
    intro bytes rest string decoded
    obtain ⟨⟨length, after⟩, took, decoded⟩ := bind_eq_ok.mp decoded
    have front := exact_word64.eq_encode took
    dsimp only at decoded
    by_cases enough : length.toNat ≤ after.length
    · rw [if_pos enough] at decoded
      cases decoded
      have taken : (after.take length.toNat).length = length.toNat :=
        List.length_take_of_le enough
      unfold byteString ByteString.front
      dsimp only
      rw [List.size_toArray, taken, UInt64.ofNat_toNat, List.append_assoc,
        List.take_append_drop]
      exact front
    · rw [if_neg enough] at decoded
      cases decoded

theorem exact_perPort : Exact perPort := by
  refine (exact_byte.pair <| exact_byte.pair <| exact_byte.pair exact_byte).via ?_ fun _ => rfl
  intro bytes
  apply Vector.ext
  intro i inside
  rcases i with _ | _ | _ | _ | i
  · rfl
  · rfl
  · rfl
  · rfl
  · omega

/-! ## Snapshots -/

theorem exact_ports : Exact ports :=
  (exact_perPort.pair <| exact_perPort.pair exact_perPort).via (fun _ => rfl) fun _ => rfl

theorem exact_timer : Exact timer :=
  (exact_bool.pair <| exact_byte.pair <| exact_byte.pair <| exact_byte.pair <| exact_byte.pair <|
    exact_word16.pair <| exact_word16.pair <| exact_word16.pair <|
    exact_bool.pair <| exact_bool.pair <| exact_byte.pair <| exact_byte.pair <|
    exact_bool.pair exact_bool).via (fun _ => rfl) fun _ => rfl

theorem exact_watchdog : Exact watchdog :=
  (exact_word32.pair <| exact_word32.pair <| exact_byte.pair <| exact_byte.pair exact_bool).via
    (fun _ => rfl) fun _ => rfl

theorem exact_cpu : Exact cpu :=
  (exact_word16.pair <| exact_byte.pair <| exact_byte.pair <| exact_byte.pair <|
    exact_word16.pair <| exact_runState.pair exact_word64).via (fun _ => rfl) fun _ => rfl

theorem exact_snapshot : Exact snapshot :=
  (exact_cpu.pair <| exact_word16.pair <| exact_bool.pair <| exact_signed64.pair <|
    exact_byteString.pair <| exact_ports.pair <| exact_timer.pair exact_watchdog).via
    (fun _ => rfl) fun _ => rfl

end M68HC05.Coder
