import Mathlib.Algebra.Group.Nat.Defs
import M68HC05.Deflate.Stored

/-!
Expansion undoes storing. Numbers written lowest bit first are taken off a stream as they were
written (`takeNumber_testBits`), so a stored block expands to its bytes (`expandBlocks_block`) and a
stream of stored blocks to all of them (`inflate_store`).
-/

namespace M68HC05.Deflate

/-! ## Numbers in a stream -/

/-- The lowest bits of a number, written lowest first, are taken as the number they make. -/
theorem takeNumber_testBits (width n : Nat) (rest : Bits) :
    takeNumber width ((List.range width).map n.testBit ++ rest) = .ok (n % 2 ^ width, rest) := by
  induction width generalizing n with
  | zero =>
    rw [Nat.pow_zero, Nat.mod_one]
    rfl
  | succ width ih =>
    have shifted : n.testBit ∘ Nat.succ = (n / 2).testBit := by
      funext i
      exact Nat.testBit_succ n i
    have split : (n.testBit 0).toNat + 2 * (n / 2 % 2 ^ width) = n % 2 ^ (width + 1) := by
      rw [Nat.testBit_zero, Nat.pow_succ, Nat.mul_comm (2 ^ width), Nat.mod_mul]
      rcases Nat.mod_two_eq_zero_or_one n with even | odd
      · simp [even]
      · simp [odd]
    rw [List.range_succ_eq_map, List.map_cons, List.map_map, shifted, List.cons_append,
      takeNumber, ih]
    dsimp only [Bind.bind, Except.bind, pure, Except.pure]
    rw [split]

theorem takeNumber_byte (byte : UInt8) (rest : Bits) :
    takeNumber 8 (bitsOfByte byte ++ rest) = .ok (byte.toNat, rest) := by
  unfold bitsOfByte
  rw [takeNumber_testBits, Nat.mod_eq_of_lt byte.toNat_lt]

/-- A number is taken in two parts, low part first. -/
theorem takeNumber_add {width more low high : Nat} {bits mid rest : Bits}
    (takesLow : takeNumber width bits = .ok (low, mid))
    (takesHigh : takeNumber more mid = .ok (high, rest)) :
    takeNumber (width + more) bits = .ok (low + 2 ^ width * high, rest) := by
  induction width generalizing bits low with
  | zero =>
    cases takesLow
    rw [Nat.zero_add, takesHigh, Nat.zero_add, Nat.pow_zero, Nat.one_mul]
  | succ width ih =>
    rcases bits with _ | ⟨bit, bits⟩
    · cases takesLow
    · rw [takeNumber] at takesLow
      rcases inner : takeNumber width bits with fault | ⟨above, after⟩
      · rw [inner] at takesLow
        cases takesLow
      · rw [inner] at takesLow
        cases takesLow
        have sum : bit.toNat + 2 * (above + 2 ^ width * high) =
            bit.toNat + 2 * above + 2 ^ (width + 1) * high := by
          rw [Nat.mul_add, Nat.pow_succ, ← Nat.mul_assoc, Nat.mul_comm 2 (2 ^ width),
            Nat.add_assoc]
        rw [Nat.add_right_comm, takeNumber, ih inner]
        dsimp only [Bind.bind, Except.bind, pure, Except.pure]
        rw [sum]

/-- A number below 2^16 in two bytes. -/
theorem takeNumber_word {n : Nat} (bounded : n < 2 ^ 16) (rest : Bits) :
    takeNumber 16 (bitsOfByte (UInt8.ofNat n) ++ (bitsOfByte (UInt8.ofNat (n / 256)) ++ rest)) =
      .ok (n, rest) := by
  have parts : (UInt8.ofNat n).toNat + 2 ^ 8 * (UInt8.ofNat (n / 256)).toNat = n := by
    rw [UInt8.toNat_ofNat', UInt8.toNat_ofNat']
    omega
  rw [takeNumber_add (takeNumber_byte _ _) (takeNumber_byte _ rest), parts]

/-! ## Stored blocks -/

theorem length_bitsOf (bytes : List UInt8) : (bitsOf bytes).length = 8 * bytes.length := by
  induction bytes with
  | nil => rfl
  | cons byte bytes ih =>
    rw [bitsOf, List.flatMap_cons, List.length_append]
    change 8 + (bitsOf bytes).length = _
    rw [ih, List.length_cons, Nat.mul_add, Nat.add_comm]

theorem bitsOf_append (first second : List UInt8) :
    bitsOf (first ++ second) = bitsOf first ++ bitsOf second :=
  List.flatMap_append

theorem takeBytes_bitsOf (bytes : List UInt8) (out : Array UInt8) (rest : Bits) :
    takeBytes bytes.length out (bitsOf bytes ++ rest) = .ok (out ++ bytes.toArray, rest) := by
  induction bytes generalizing out with
  | nil =>
    simp [takeBytes, bitsOf]
  | cons byte bytes ih =>
    have next : bitsOf (byte :: bytes) = bitsOfByte byte ++ bitsOf bytes := List.flatMap_cons
    rw [List.length_cons, takeBytes, next, List.append_assoc, takeNumber_byte]
    dsimp only [Bind.bind, Except.bind]
    rw [ih, UInt8.ofNat_toNat]
    simp

theorem length_storedBlock (last : Bool) (bytes : List UInt8) :
    (storedBlock last bytes).length = bytes.length + 5 := by
  unfold storedBlock
  simp

/-- What follows the first byte of a stored block expands to its bytes; the bits left of the first
byte are passed over. -/
theorem expandStored_block {bytes : List UInt8} (fits : bytes.length ≤ storedLimit)
    (out : Array UInt8) (padding : Bits) (short : padding.length < 8) (rest : List UInt8) :
    expandStored out (padding ++ bitsOf ((storedBlock true bytes).tail ++ rest)) =
      .ok (out ++ bytes.toArray, bitsOf rest) := by
  unfold storedLimit at fits
  have whole : dropToByte (padding ++ bitsOf ((storedBlock true bytes).tail ++ rest)) =
      bitsOf ((storedBlock true bytes).tail ++ rest) := by
    unfold dropToByte
    rw [List.length_append, length_bitsOf, Nat.add_mul_mod_self_left, Nat.mod_eq_of_lt short,
      List.drop_left]
  have laid : bitsOf ((storedBlock true bytes).tail ++ rest) =
      bitsOfByte (UInt8.ofNat bytes.length) ++ (bitsOfByte (UInt8.ofNat (bytes.length / 256)) ++
        (bitsOfByte (UInt8.ofNat (0xFFFF - bytes.length)) ++
          (bitsOfByte (UInt8.ofNat ((0xFFFF - bytes.length) / 256)) ++
            (bitsOf bytes ++ bitsOf rest)))) := by
    rw [← bitsOf_append]
    rfl
  unfold expandStored
  rw [whole, laid, takeNumber_word (by omega)]
  dsimp only [Bind.bind, Except.bind]
  rw [takeNumber_word (by omega)]
  dsimp only
  rw [if_pos (by omega), takeBytes_bitsOf]

/-- Expansion of a stored block, then of what follows unless it is the last. -/
theorem expandBlocks_block {bytes : List UInt8} (fits : bytes.length ≤ storedLimit) (last : Bool)
    (turns : Nat) (out : Array UInt8) (rest : List UInt8) :
    expandBlocks (turns + 1) out (bitsOf (storedBlock last bytes ++ rest)) =
      if last then .ok (out ++ bytes.toArray)
      else expandBlocks turns (out ++ bytes.toArray) (bitsOf rest) := by
  have laid : bitsOf (storedBlock last bytes ++ rest) =
      last :: false :: false :: (.replicate 5 false ++
        bitsOf ((storedBlock true bytes).tail ++ rest)) := by
    cases last with
    | false => rfl
    | true => rfl
  have body := expandStored_block fits out (.replicate 5 false) (by decide) rest
  rw [laid, expandBlocks]
  dsimp only [takeNumber, expandBlock, Bind.bind, Except.bind, pure, Except.pure]
  rw [body]
  cases last with
  | false => rfl
  | true => rfl

/-- Blocks that a stream stores expand to the bytes stored, given a turn for each. -/
theorem expandBlocks_store (bytes : List UInt8) {turns : Nat}
    (enough : (store bytes).length ≤ turns) (out : Array UInt8) :
    expandBlocks turns out (bitsOf (store bytes)) = .ok (out ++ bytes.toArray) := by
  fun_induction store bytes generalizing turns out with
  | case1 bytes fits =>
    rw [length_storedBlock] at enough
    obtain ⟨turns, rfl⟩ := Nat.exists_eq_add_of_lt (show 0 < turns by omega)
    rw [Nat.zero_add, ← List.append_nil (storedBlock true bytes), expandBlocks_block fits]
    rfl
  | case2 bytes long ih =>
    have fits : (bytes.take storedLimit).length ≤ storedLimit := List.length_take_le _ _
    rw [List.length_append, length_storedBlock] at enough
    obtain ⟨turns, rfl⟩ := Nat.exists_eq_add_of_lt (show 0 < turns by omega)
    rw [Nat.zero_add, expandBlocks_block fits]
    change expandBlocks turns _ _ = _
    have joined : (bytes.take storedLimit).toArray ++ (bytes.drop storedLimit).toArray =
        bytes.toArray := by
      rw [List.append_toArray, List.take_append_drop]
    rw [ih (by omega), Array.append_assoc, joined]

/-- Storing is a compressed form: expansion gives the bytes back. -/
theorem inflate_store (bytes : List UInt8) : inflate (store bytes) = .ok bytes.toArray := by
  have enough : (store bytes).length ≤ (bitsOf (store bytes)).length := by
    rw [length_bitsOf]
    omega
  unfold inflate
  dsimp only
  rw [expandBlocks_store bytes enough]
  simp

/-- The compressor of the runner undoes what it does. -/
theorem expand_compress (payload : List UInt8) :
    Compressor.expand (Compressor.compress payload) = .ok payload := by
  change (inflate (store payload)).map Array.toList = _
  rw [inflate_store]
  rfl

end M68HC05.Deflate
