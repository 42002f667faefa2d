import Mathlib.Data.Nat.Bitwise
import Mathlib.Tactic.LinearCombination
import Mathlib.Tactic.Ring
import M68HC05.Cpu.Arithmetic
import M68HC05.Proofs.Bits
import M68HC05.Proofs.Coding
import M68HC05.Proofs.Fetching

/-!
Arithmetic on numbers of several bytes. The carry flag is read off bit by bit from operands and
result; what it says is whether the sum or difference of the numbers leaves the range of a byte, and
so it hands on from byte to byte what a longer number needs (`Ripples`). Chains of additions,
subtractions and left shifts go up from the lowest byte and are one induction (`value_chain`); right
shifts go down from the highest byte and are another (`value_halvings`). Loads and stores between
the bytes leave the carry alone.

The main statement is `Cpu.carry_chains`.
-/

namespace M68HC05

/-! ## Flags -/

namespace Flag

theorem bit_and_bit {f g : Flag} (apart : f ≠ g) : f.bit &&& g.bit = 0 := by
  cases f <;> cases g <;> first | exact absurd rfl apart | decide

theorem not_bit_and_bit {f g : Flag} (apart : f ≠ g) : ~~~f.bit &&& g.bit = g.bit := by
  cases f <;> cases g <;> first | exact absurd rfl apart | decide

end Flag

namespace Cpu

/-- Setting a flag leaves the others as they are. -/
theorem flag_setFlag_of_ne (cpu : Cpu) {f g : Flag} (apart : f ≠ g) (value : Bool) :
    (cpu.setFlag f value).flag g = cpu.flag g := by
  unfold setFlag flag
  cases value with
  | false => rw [if_neg Bool.false_ne_true, UInt8.and_assoc, Flag.not_bit_and_bit apart]
  | true => rw [if_pos rfl, or_and_right8, Flag.bit_and_bit apart, UInt8.or_zero]

theorem carry_setSignZero (cpu : Cpu) (result : UInt8) :
    (cpu.setSignZero result).flag .carry = cpu.flag .carry := by
  unfold setSignZero
  rw [flag_setFlag_of_ne _ (by decide), flag_setFlag_of_ne _ (by decide)]

theorem carry_setAddFlags (cpu : Cpu) (a m result : UInt8) :
    (cpu.setAddFlags a m result).flag .carry = decide (carries a m result &&& 0x80 ≠ 0) := by
  unfold setAddFlags
  rw [carry_setSignZero, flag_setFlag]

theorem carry_setSubFlags (cpu : Cpu) (a m result : UInt8) :
    (cpu.setSubFlags a m result).flag .carry = decide (borrows a m result &&& 0x80 ≠ 0) := by
  unfold setSubFlags
  rw [carry_setSignZero, flag_setFlag]

theorem carry_modify (cpu : Cpu) (op : ModifyOp) (m : UInt8) :
    (cpu.modify op m).2.flag .carry = cpu.modifiedCarry op m := by
  unfold modify
  rw [carry_setSignZero, flag_setFlag]

/-! ## Bytes -/

/-- The top bit of a byte tells whether it is in the upper half of its range. -/
theorem top_iff (byte : UInt8) : byte &&& 0x80 ≠ 0 ↔ 128 ≤ byte.toNat := by
  have value : (byte &&& 0x80).toNat = (byte.toNat.testBit 7).toNat * 2 ^ 7 := by
    rw [UInt8.toNat_and]
    exact Nat.and_two_pow byte.toNat 7
  have top : byte.toNat.testBit 7 = true ↔ 128 ≤ byte.toNat := by
    have bound := byte.toNat_lt
    rw [Nat.testBit_eq_decide_div_mod_eq, decide_eq_true_iff]
    omega
  rw [← top, Ne, ← UInt8.toNat_inj, value]
  cases byte.toNat.testBit 7 with
  | false => decide
  | true => decide

theorem msb_eq (byte : UInt8) : byte.toBitVec.msb = decide (128 ≤ byte.toNat) :=
  BitVec.msb_eq_decide byte.toBitVec

theorem top_iff_msb (byte : UInt8) : byte &&& 0x80 ≠ 0 ↔ byte.toBitVec.msb = true := by
  rw [top_iff, msb_eq, decide_eq_true_iff]

/-- The top position carries if two of the three bytes say so: the operands by being in the upper
half, the result by being in the lower one. -/
theorem carries_top_iff (a m result : UInt8) : carries a m result &&& 0x80 ≠ 0 ↔
    128 ≤ a.toNat ∧ 128 ≤ m.toNat ∨ 128 ≤ m.toNat ∧ result.toNat < 128 ∨
      result.toNat < 128 ∧ 128 ≤ a.toNat := by
  rw [top_iff_msb]
  unfold carries
  simp only [UInt8.toBitVec_or, UInt8.toBitVec_and, UInt8.toBitVec_not, BitVec.msb_or,
    BitVec.msb_and, BitVec.msb_not, msb_eq]
  simp [or_assoc]

/-- The top position borrows if two of the three bytes say so: the minuend by being in the lower
half, the others by being in the upper one. -/
theorem borrows_top_iff (a m result : UInt8) : borrows a m result &&& 0x80 ≠ 0 ↔
    a.toNat < 128 ∧ 128 ≤ m.toNat ∨ 128 ≤ m.toNat ∧ 128 ≤ result.toNat ∨
      128 ≤ result.toNat ∧ a.toNat < 128 := by
  rw [top_iff_msb]
  unfold borrows
  simp only [UInt8.toBitVec_or, UInt8.toBitVec_and, UInt8.toBitVec_not, BitVec.msb_or,
    BitVec.msb_and, BitVec.msb_not, msb_eq]
  simp [or_assoc]

/-- A sum of two bytes and a carry leaves the range of a byte if its top position carries. -/
theorem toNat_sum (a m : UInt8) {carry : UInt8} (small : carry.toNat ≤ 1) :
    (a + m + carry).toNat + 256 * (decide (carries a m (a + m + carry) &&& 0x80 ≠ 0)).toNat =
      a.toNat + m.toNat + carry.toNat := by
  have sum : (a + m + carry).toNat = (a.toNat + m.toNat + carry.toNat) % 256 := by
    rw [UInt8.toNat_add, UInt8.toNat_add, Nat.mod_add_mod]
  have top := carries_top_iff a m (a + m + carry)
  have first := a.toNat_lt
  have second := m.toNat_lt
  by_cases out : carries a m (a + m + carry) &&& 0x80 ≠ 0
  · have high := top.mp out
    rw [decide_eq_true out, Bool.toNat_true]
    omega
  · have low := mt top.mpr out
    rw [decide_eq_false out, Bool.toNat_false]
    omega

/-- A difference of two bytes and a borrow leaves the range of a byte if its top position
borrows. -/
theorem toNat_difference (a m : UInt8) {borrow : UInt8} (small : borrow.toNat ≤ 1) :
    (a - m - borrow).toNat + m.toNat + borrow.toNat =
      a.toNat + 256 * (decide (borrows a m (a - m - borrow) &&& 0x80 ≠ 0)).toNat := by
  have difference : (a - m - borrow).toNat =
      (a.toNat + (256 - m.toNat) + (256 - borrow.toNat)) % 256 := by
    rw [UInt8.toNat_sub, UInt8.toNat_sub]
    omega
  have top := borrows_top_iff a m (a - m - borrow)
  have first := a.toNat_lt
  have second := m.toNat_lt
  by_cases out : borrows a m (a - m - borrow) &&& 0x80 ≠ 0
  · have high := top.mp out
    rw [decide_eq_true out, Bool.toNat_true]
    omega
  · have low := mt top.mpr out
    rw [decide_eq_false out, Bool.toNat_false]
    omega

/-- A byte shifted to the left has room for a bit at its low end. -/
theorem toNat_shiftLeft_or (m : UInt8) {carry : UInt8} (small : carry.toNat ≤ 1) :
    (m <<< 1 ||| carry).toNat + 256 * (decide (m &&& 0x80 ≠ 0)).toNat =
      2 * m.toNat + carry.toNat := by
  have bound := m.toNat_lt
  have shifted : (m <<< 1).toNat = (m.toNat % 128) <<< 1 := by
    rw [UInt8.toNat_shiftLeft]
    change m.toNat <<< 1 % 256 = _
    rw [Nat.shiftLeft_eq, Nat.shiftLeft_eq]
    omega
  have joined : (m <<< 1 ||| carry).toNat = (m.toNat % 128) <<< 1 + carry.toNat := by
    rw [UInt8.toNat_or, shifted]
    exact (Nat.shiftLeft_add_eq_or_of_lt (Nat.lt_succ_of_le small) _).symm
  have top := top_iff m
  rw [joined, Nat.shiftLeft_eq]
  by_cases out : m &&& 0x80 ≠ 0
  · have high := top.mp out
    rw [decide_eq_true out, Bool.toNat_true]
    omega
  · have low := mt top.mpr out
    rw [decide_eq_false out, Bool.toNat_false]
    omega

/-- A byte shifted to the right has room for a bit at its high end. -/
theorem toNat_shiftRight_or (m : UInt8) (carry : Bool) :
    2 * ((m >>> 1) ||| if carry then 0x80 else 0).toNat + (decide (m &&& 0x01 ≠ 0)).toNat =
      256 * carry.toNat + m.toNat := by
  have bound := m.toNat_lt
  have shifted : (m >>> 1).toNat = m.toNat / 2 := by
    rw [UInt8.toNat_shiftRight]
    exact Nat.shiftRight_eq_div_pow m.toNat 1
  have entering : (if carry then (0x80 : UInt8) else 0).toNat = 2 ^ 7 * carry.toNat := by
    cases carry with
    | false => rfl
    | true => rfl
  have joined : ((m >>> 1) ||| if carry then 0x80 else 0).toNat =
      2 ^ 7 * carry.toNat + m.toNat / 2 := by
    rw [UInt8.toNat_or, shifted, entering, Nat.or_comm]
    exact (Nat.two_pow_add_eq_or_of_lt (by omega) _).symm
  have leaving : (decide (m &&& 0x01 ≠ 0)).toNat = m.toNat % 2 := by
    have value : (m &&& 0x01).toNat = m.toNat % 2 := by
      rw [UInt8.toNat_and]
      exact Nat.and_one_is_mod m.toNat
    have low : m &&& 0x01 ≠ 0 ↔ m.toNat % 2 ≠ 0 := by
      rw [← value]
      exact not_congr UInt8.toNat_inj.symm
    rcases Nat.mod_two_eq_zero_or_one m.toNat with even | odd
    · rw [decide_eq_false (mt low.mp (not_not_intro even)), even]
      rfl
    · rw [decide_eq_true (low.mpr (by omega)), odd]
      rfl
  rw [joined, leaving]
  omega

/-! ## Turns -/

/-- A turn on some operands: the byte that it leaves, and the registers after it. -/
abbrev Turn (α : Type) : Type :=
  Cpu → α → UInt8 × Cpu

/-- The accumulator is loaded, and combined with a byte. -/
def registerTurn (op : RegisterOp) : Turn (UInt8 × UInt8) := fun cpu operands =>
  let after := (cpu.operate .lda operands.1).operate op operands.2
  (after.a, after)

/-- A byte is replaced by a function of it. -/
def modifyTurn (op : ModifyOp) : Turn UInt8 := fun cpu byte =>
  cpu.modify op byte

theorem carryIn_eq (cpu : Cpu) : cpu.carryIn.toNat = (cpu.flag .carry).toNat := by
  unfold carryIn
  cases cpu.flag .carry with
  | false => rfl
  | true => rfl

theorem carryIn_le (cpu : Cpu) : cpu.carryIn.toNat ≤ 1 := by
  rw [carryIn_eq]
  exact Bool.toNat_le _

theorem carry_lda (cpu : Cpu) (m : UInt8) :
    (cpu.operate .lda m).flag .carry = cpu.flag .carry :=
  carry_setSignZero { cpu with a := m } m

theorem carryIn_lda (cpu : Cpu) (m : UInt8) : (cpu.operate .lda m).carryIn = cpu.carryIn := by
  unfold carryIn
  rw [carry_lda]

/-- A turn makes one digit of a sum. Its byte is the weight of the operands and, with a sign, the
carry in, as far as they fit in a byte; what does not fit is in the carry out. -/
def Ripples {α : Type} (sign : Int) (weight : α → Int) (entering : Cpu → UInt8) (turn : Turn α) :
    Prop :=
  ∀ cpu operands, ((turn cpu operands).1.toNat : Int) = weight operands +
    sign * ((entering cpu).toNat - 256 * ((turn cpu operands).2.flag .carry).toNat)

/-- The weight of two operands that are added or, with a negative sign, subtracted. -/
def pairWeight (sign : Int) (operands : UInt8 × UInt8) : Int :=
  operands.1.toNat + sign * operands.2.toNat

/-- The weight of a byte that is doubled. -/
def doubleWeight (m : UInt8) : Int :=
  2 * m.toNat

namespace Ripples

variable {entering : Cpu → UInt8}

theorem sum {op : RegisterOp} (small : ∀ cpu, (entering cpu).toNat ≤ 1)
    (kept : ∀ (cpu : Cpu) (x : UInt8), entering (cpu.operate .lda x) = entering cpu)
    (adds : ∀ (cpu : Cpu) (m : UInt8), cpu.operate op m =
      { cpu.setAddFlags cpu.a m (cpu.a + m + entering cpu) with a := cpu.a + m + entering cpu }) :
    Ripples 1 (pairWeight 1) entering (registerTurn op) := by
  intro cpu operands
  obtain ⟨x, y⟩ := operands
  have digit := toNat_sum x y (small cpu)
  have loaded : (cpu.operate .lda x).a = x := rfl
  have out := carry_setAddFlags (cpu.operate .lda x) x y (x + y + entering cpu)
  unfold registerTurn
  dsimp only
  rw [adds, loaded, kept, pairWeight]
  change ((x + y + entering cpu).toNat : Int) = x.toNat + 1 * y.toNat + 1 * ((entering cpu).toNat -
    256 * (((cpu.operate .lda x).setAddFlags x y (x + y + entering cpu)).flag .carry).toNat)
  rw [out]
  omega

theorem difference {op : RegisterOp} (small : ∀ cpu, (entering cpu).toNat ≤ 1)
    (kept : ∀ (cpu : Cpu) (x : UInt8), entering (cpu.operate .lda x) = entering cpu)
    (subtracts : ∀ (cpu : Cpu) (m : UInt8), cpu.operate op m =
      { cpu.setSubFlags cpu.a m (cpu.a - m - entering cpu) with a := cpu.a - m - entering cpu }) :
    Ripples (-1) (pairWeight (-1)) entering (registerTurn op) := by
  intro cpu operands
  obtain ⟨x, y⟩ := operands
  have digit := toNat_difference x y (small cpu)
  have loaded : (cpu.operate .lda x).a = x := rfl
  have out := carry_setSubFlags (cpu.operate .lda x) x y (x - y - entering cpu)
  unfold registerTurn
  dsimp only
  rw [subtracts, loaded, kept, pairWeight]
  change ((x - y - entering cpu).toNat : Int) = x.toNat + -1 * y.toNat + -1 *
    ((entering cpu).toNat -
      256 * (((cpu.operate .lda x).setSubFlags x y (x - y - entering cpu)).flag .carry).toNat)
  rw [out]
  omega

theorem double {op : ModifyOp} (small : ∀ cpu, (entering cpu).toNat ≤ 1)
    (byte : ∀ (cpu : Cpu) (m : UInt8), cpu.modified op m = m <<< 1 ||| entering cpu)
    (out : ∀ (cpu : Cpu) (m : UInt8), cpu.modifiedCarry op m = decide (m &&& 0x80 ≠ 0)) :
    Ripples 1 doubleWeight entering (modifyTurn op) := by
  intro cpu m
  have digit := toNat_shiftLeft_or m (small cpu)
  unfold modifyTurn
  rw [carry_modify, out]
  change ((cpu.modified op m).toNat : Int) = _
  rw [byte, doubleWeight]
  omega

theorem add : Ripples 1 (pairWeight 1) (fun _ => 0) (registerTurn .add) := by
  refine sum (fun _ => by decide) (fun _ _ => rfl) fun cpu m => ?_
  rw [UInt8.add_zero, operate]

theorem adc : Ripples 1 (pairWeight 1) carryIn (registerTurn .adc) :=
  sum carryIn_le carryIn_lda fun cpu m => by rw [operate]

theorem sub : Ripples (-1) (pairWeight (-1)) (fun _ => 0) (registerTurn .sub) := by
  refine difference (fun _ => by decide) (fun _ _ => rfl) fun cpu m => ?_
  rw [UInt8.sub_zero, operate]

theorem sbc : Ripples (-1) (pairWeight (-1)) carryIn (registerTurn .sbc) :=
  difference carryIn_le carryIn_lda fun cpu m => by rw [operate]

theorem lsl : Ripples 1 doubleWeight (fun _ => 0) (modifyTurn .lsl) :=
  double (fun _ => by decide) (fun _ _ => UInt8.or_zero.symm) fun _ _ => rfl

theorem rol : Ripples 1 doubleWeight carryIn (modifyTurn .rol) :=
  double carryIn_le (fun _ _ => rfl) fun _ _ => rfl

end Ripples

/-! ## Chains -/

variable {α : Type}

/-- Turns on several operands, one after the other: the bytes that they leave, and the registers at
the end. The first turn may be another one than the rest, and `between` is what the processor does
after each, by how many turns are left. -/
def chain (between : Nat → Cpu → Cpu) (next : Turn α) :
    (first : Turn α) → Cpu → List α → List UInt8 × Cpu
  | _, cpu, [] => ([], cpu)
  | first, cpu, operands :: rest =>
    let after := first cpu operands
    let left := chain between next next (between rest.length after.2) rest
    (after.1 :: left.1, left.2)

/-- The number with some weights as digits, lowest first. -/
def weigh (weight : α → Int) : List α → Int
  | [] => 0
  | operands :: rest => weight operands + 256 * weigh weight rest

section Chain

variable {between : Nat → Cpu → Cpu} {first next : Turn α}

theorem length_chain (first : Turn α) (cpu : Cpu) (operands : List α) :
    (chain between next first cpu operands).1.length = operands.length := by
  induction operands generalizing first cpu with
  | nil => rfl
  | cons head rest ih => exact congrArg Nat.succ (ih next _)

/-- A chain of turns that ripple makes a number: that of the weights and, with the sign, the carry
in; what does not fit in the bytes is in the carry out. -/
theorem value_chain (steady : ∀ left cpu, (between left cpu).flag .carry = cpu.flag .carry)
    {sign : Int} {weight : α → Int} {entering : Cpu → UInt8}
    (starts : Ripples sign weight entering first) (goes : Ripples sign weight carryIn next)
    (cpu : Cpu) (operands : α) (rest : List α) :
    let made := chain between next first cpu (operands :: rest)
    (Coder.ofLittleEndian made.1 : Int) = weigh weight (operands :: rest) +
      sign * ((entering cpu).toNat - 256 ^ (rest.length + 1) * (made.2.flag .carry).toNat) := by
  induction rest generalizing first entering cpu operands with
  | nil =>
    have digit := starts cpu operands
    have kept := steady 0 (first cpu operands).2
    simp only [chain, Coder.ofLittleEndian, weigh, List.length_nil, kept]
    push_cast
    linear_combination digit
  | cons second rest ih =>
    have digit := starts cpu operands
    let handed := between (rest.length + 1) (first cpu operands).2
    have higher := ih goes handed second
    have kept : (handed.carryIn.toNat : Int) = ((first cpu operands).2.flag .carry).toNat := by
      rw [carryIn_eq, steady]
    rw [kept] at higher
    change (((first cpu operands).1.toNat +
      256 * Coder.ofLittleEndian (chain between next next handed (second :: rest)).1 : Nat) : Int) =
        weight operands + 256 * weigh weight (second :: rest) + sign * ((entering cpu).toNat -
          256 ^ (rest.length + 1 + 1) *
            ((chain between next next handed (second :: rest)).2.flag .carry).toNat)
    push_cast
    linear_combination digit + 256 * higher

end Chain

/-! ## Right shifts -/

/-- A turn takes a byte and above it the bit that enters, and leaves half of that and the remainder
in the carry. -/
def Halves (entering : Cpu → Bool) (turn : Turn UInt8) : Prop :=
  ∀ cpu m, 2 * (turn cpu m).1.toNat + ((turn cpu m).2.flag .carry).toNat =
    256 * (entering cpu).toNat + m.toNat

theorem halves_ror : Halves (·.flag .carry) (modifyTurn .ror) := by
  intro cpu m
  unfold modifyTurn
  rw [carry_modify]
  exact toNat_shiftRight_or m (cpu.flag .carry)

theorem halves_lsr : Halves (fun _ => false) (modifyTurn .lsr) := by
  intro cpu m
  have digit := toNat_shiftRight_or m false
  rw [if_neg Bool.false_ne_true, UInt8.or_zero] at digit
  unfold modifyTurn
  rw [carry_modify]
  exact digit

/-- A byte that stands before the others as the highest one. -/
theorem value_highest (byte : UInt8) (bytes : List UInt8) :
    Coder.ofLittleEndian (byte :: bytes).reverse =
      Coder.ofLittleEndian bytes.reverse + 256 ^ bytes.length * byte.toNat := by
  have concat (low : List UInt8) : Coder.ofLittleEndian (low ++ [byte]) =
      Coder.ofLittleEndian low + 256 ^ low.length * byte.toNat := by
    induction low with
    | nil => simp [Coder.ofLittleEndian]
    | cons lowest low ih =>
      rw [List.cons_append, Coder.ofLittleEndian, Coder.ofLittleEndian, ih, List.length_cons]
      ring
  rw [List.reverse_cons, concat, List.length_reverse]

/-- A chain of right shifts, from the highest byte down, halves a number; what is left over is in
the carry out. -/
theorem value_halvings {between : Nat → Cpu → Cpu} {first next : Turn UInt8}
    (steady : ∀ left cpu, (between left cpu).flag .carry = cpu.flag .carry) {entering : Cpu → Bool}
    (starts : Halves entering first) (goes : Halves (·.flag .carry) next) (cpu : Cpu) (m : UInt8)
    (rest : List UInt8) :
    let made := chain between next first cpu (m :: rest)
    256 ^ (rest.length + 1) * (entering cpu).toNat + Coder.ofLittleEndian (m :: rest).reverse =
      2 * Coder.ofLittleEndian made.1.reverse + (made.2.flag .carry).toNat := by
  induction rest generalizing first entering cpu m with
  | nil =>
    have digit := starts cpu m
    have kept := steady 0 (first cpu m).2
    simp only [chain, List.length_nil, kept, List.reverse_singleton, Coder.ofLittleEndian]
    omega
  | cons second rest ih =>
    have digit := starts cpu m
    let handed := between (rest.length + 1) (first cpu m).2
    have lower := ih goes handed second
    have kept : handed.flag .carry = (first cpu m).2.flag .carry := steady _ _
    have length : (chain between next next handed (second :: rest)).1.length =
        (second :: rest).length := length_chain next _ _
    rw [kept] at lower
    change 256 ^ (rest.length + 1 + 1) * (entering cpu).toNat +
      Coder.ofLittleEndian (m :: second :: rest).reverse =
        2 * Coder.ofLittleEndian
          ((first cpu m).1 :: (chain between next next handed (second :: rest)).1).reverse +
        ((chain between next next handed (second :: rest)).2.flag .carry).toNat
    rw [value_highest m (second :: rest), value_highest (first cpu m).1, length, List.length_cons]
    linear_combination lower + 256 ^ (rest.length + 1) * digit.symm

/-! ## Numbers -/

/-- Bytes lie below what a carry out of them is worth, so they are the lowest bytes of the whole
number. -/
theorem bytes_eq {bytes : List UInt8} {total out : Int}
    (made : (Coder.ofLittleEndian bytes : Int) + (256 ^ bytes.length : Nat) * out = total) :
    bytes = Coder.littleEndian bytes.length (total % (256 ^ bytes.length : Nat)).toNat := by
  have small := Coder.ofLittleEndian_lt bytes
  have rest : total % (256 ^ bytes.length : Nat) = Coder.ofLittleEndian bytes := by
    rw [← made, Int.add_mul_emod_self_left]
    exact Int.emod_eq_of_lt (Int.natCast_nonneg _) (Int.ofNat_lt.mpr small)
  rw [rest, Int.toNat_natCast, Coder.littleEndian_ofLittleEndian]

theorem length_zip {x y : List UInt8} (same : x.length = y.length) :
    (x.zip y).length = x.length := by
  rw [List.length_zip, ← same, Nat.min_self]

theorem zip_ne_nil {x y : List UInt8} (nonempty : x ≠ []) (same : x.length = y.length) :
    x.zip y ≠ [] := by
  intro none
  have length := length_zip same
  rw [none] at length
  exact nonempty (List.eq_nil_of_length_eq_zero length.symm)

theorem weigh_pair (sign : Int) {x y : List UInt8} (same : x.length = y.length) :
    weigh (pairWeight sign) (x.zip y) =
      Coder.ofLittleEndian x + sign * Coder.ofLittleEndian y := by
  induction x generalizing y with
  | nil =>
    rw [List.eq_nil_of_length_eq_zero same.symm]
    simp [weigh, Coder.ofLittleEndian]
  | cons a x ih =>
    cases y with
    | nil => cases same
    | cons b y =>
      have rest := ih (Nat.succ.inj same)
      rw [List.zip_cons_cons, weigh, rest, pairWeight, Coder.ofLittleEndian, Coder.ofLittleEndian]
      push_cast
      ring

theorem weigh_double (x : List UInt8) :
    weigh doubleWeight x = 2 * Coder.ofLittleEndian x := by
  induction x with
  | nil => rfl
  | cons m x ih =>
    rw [weigh, ih, doubleWeight, Coder.ofLittleEndian]
    push_cast
    ring

section Numbers

variable {between : Nat → Cpu → Cpu}
  (steady : ∀ left cpu, (between left cpu).flag .carry = cpu.flag .carry)
include steady

/-- A chain that starts without a carry leaves the lowest bytes of its number; the carry, with the
sign, is the digit above them. -/
theorem bytes_chain {α : Type} {sign : Int} {weight : α → Int} {first next : Turn α}
    (starts : Ripples sign weight (fun _ => 0) first) (goes : Ripples sign weight carryIn next)
    (cpu : Cpu) {operands : List α} (nonempty : operands ≠ []) :
    let made := chain between next first cpu operands
    let range : Nat := 256 ^ operands.length
    made.1 = Coder.littleEndian operands.length (weigh weight operands % range).toNat ∧
      ∃ low < range, (low : Int) + range * (sign * (made.2.flag .carry).toNat) =
        weigh weight operands := by
  obtain ⟨head, rest, rfl⟩ := List.exists_cons_of_ne_nil nonempty
  intro made range
  have value := value_chain steady starts goes cpu head rest
  have length : made.1.length = (head :: rest).length := length_chain first cpu (head :: rest)
  have none : ((0 : UInt8).toNat : Int) = 0 := rfl
  have total : (Coder.ofLittleEndian made.1 : Int) +
      (256 ^ made.1.length : Nat) * (sign * (made.2.flag .carry).toNat) =
        weigh weight (head :: rest) := by
    dsimp only at value
    rw [none] at value
    rw [length, List.length_cons]
    push_cast
    linear_combination value
  have small := Coder.ofLittleEndian_lt made.1
  have bytes := bytes_eq total
  rw [length] at small bytes total
  exact ⟨bytes, Coder.ofLittleEndian made.1, small, total⟩

/-- Where a chain adds up, the carry says that the number has more bytes than were made. -/
theorem overflow_chain {α : Type} {weight : α → Int} {first next : Turn α}
    (starts : Ripples 1 weight (fun _ => 0) first) (goes : Ripples 1 weight carryIn next)
    (cpu : Cpu) {operands : List α} (nonempty : operands ≠ []) {total : Nat}
    (whole : weigh weight operands = total) :
    let made := chain between next first cpu operands
    made.1 = Coder.littleEndian operands.length total ∧
      (made.2.flag .carry = true ↔ 256 ^ operands.length ≤ total) := by
  intro made
  obtain ⟨bytes, low, top, sum⟩ := bytes_chain steady starts goes cpu nonempty
  rw [whole] at bytes sum
  refine ⟨bytes.trans (Coder.littleEndian_mod operands.length total), ?_⟩
  change (low : Int) + (256 ^ operands.length : Nat) * (1 * (made.2.flag .carry).toNat) = _ at sum
  cases out : made.2.flag .carry with
  | false =>
    rw [out, Bool.toNat_false] at sum
    exact iff_of_false Bool.false_ne_true (by omega)
  | true =>
    rw [out, Bool.toNat_true] at sum
    exact iff_of_true rfl (by omega)

variable {x y : List UInt8} (nonempty : x ≠ []) (cpu : Cpu)
include nonempty

/-- Subtractions of the bytes of two numbers make the bytes of the difference, and the carry says
that it is negative. -/
theorem subtraction_chain (same : x.length = y.length) :
    let made := chain between (registerTurn .sbc) (registerTurn .sub) cpu (x.zip y)
    made.1 = Coder.littleEndian x.length
        (((Coder.ofLittleEndian x : Int) - Coder.ofLittleEndian y) % (256 ^ x.length : Nat)).toNat ∧
      (made.2.flag .carry = true ↔ Coder.ofLittleEndian x < Coder.ofLittleEndian y) := by
  intro made
  have length : (x.zip y).length = x.length := length_zip same
  obtain ⟨bytes, low, top, difference⟩ :=
    bytes_chain steady .sub .sbc cpu (zip_ne_nil nonempty same)
  rw [length, weigh_pair (-1) same, neg_one_mul, ← sub_eq_add_neg] at bytes
  rw [length] at top difference
  rw [weigh_pair (-1) same] at difference
  refine ⟨bytes, ?_⟩
  change (low : Int) + (256 ^ x.length : Nat) * (-1 * (made.2.flag .carry).toNat) = _ at difference
  cases out : made.2.flag .carry with
  | false =>
    rw [out, Bool.toNat_false] at difference
    exact iff_of_false Bool.false_ne_true (by omega)
  | true =>
    rw [out, Bool.toNat_true] at difference
    exact iff_of_true rfl (by omega)

/-- Additions of the bytes of two numbers make the bytes of the sum, and the carry is its
overflow. -/
theorem addition_chain (same : x.length = y.length) :
    let made := chain between (registerTurn .adc) (registerTurn .add) cpu (x.zip y)
    made.1 = Coder.littleEndian x.length (Coder.ofLittleEndian x + Coder.ofLittleEndian y) ∧
      (made.2.flag .carry = true ↔
        256 ^ x.length ≤ Coder.ofLittleEndian x + Coder.ofLittleEndian y) := by
  have length : (x.zip y).length = x.length := length_zip same
  have whole : weigh (pairWeight 1) (x.zip y) =
      (Coder.ofLittleEndian x + Coder.ofLittleEndian y : Nat) := by
    rw [weigh_pair 1 same, one_mul, Int.natCast_add]
  have made := overflow_chain steady .add .adc cpu (zip_ne_nil nonempty same) whole
  rw [length] at made
  exact made

omit steady nonempty in
/-- A number that fills its bytes has its top bit up if its double does not fit in them. -/
theorem testBit_top (nonempty : x ≠ []) :
    256 ^ x.length ≤ 2 * Coder.ofLittleEndian x ↔
      (Coder.ofLittleEndian x).testBit (8 * x.length - 1) = true := by
  have small := Coder.ofLittleEndian_lt x
  have some : 0 < x.length := List.length_pos_iff.mpr nonempty
  have range : 256 ^ x.length = 2 * 2 ^ (8 * x.length - 1) := by
    have bits : (256 : Nat) = 2 ^ 8 := rfl
    rw [bits, ← Nat.pow_mul, ← Nat.pow_succ']
    congr 1
    omega
  rw [range] at small ⊢
  constructor
  · intro full
    exact Nat.testBit_of_two_pow_le_and_two_pow_add_one_gt (by omega)
      (by rw [Nat.pow_succ']; exact small)
  · intro up
    have large := Nat.ge_two_pow_of_testBit up
    omega

/-- Left shifts of the bytes of a number double it, and the carry is the bit that is shifted out at
the top. -/
theorem doubling_chain :
    let made := chain between (modifyTurn .rol) (modifyTurn .lsl) cpu x
    made.1 = Coder.littleEndian x.length (2 * Coder.ofLittleEndian x) ∧
      made.2.flag .carry = (Coder.ofLittleEndian x).testBit (8 * x.length - 1) := by
  have whole : weigh doubleWeight x = (2 * Coder.ofLittleEndian x : Nat) := by
    rw [weigh_double, Int.natCast_mul]
    rfl
  obtain ⟨bytes, full⟩ := overflow_chain steady .lsl .rol cpu nonempty whole
  exact ⟨bytes, Bool.eq_iff_iff.mpr (full.trans (testBit_top nonempty))⟩

/-- Right shifts of the bytes of a number, from the highest down, halve it, and the carry is the
remainder. -/
theorem halving_chain :
    let made := chain between (modifyTurn .ror) (modifyTurn .lsr) cpu x.reverse
    made.1.reverse = Coder.littleEndian x.length (Coder.ofLittleEndian x / 2) ∧
      (made.2.flag .carry = true ↔ Coder.ofLittleEndian x % 2 = 1) := by
  intro made
  have some : x.reverse ≠ [] := fun none => nonempty (List.reverse_eq_nil_iff.mp none)
  have length : made.1.reverse.length = x.length := by
    rw [List.length_reverse, length_chain, List.length_reverse]
  obtain ⟨top, rest, split⟩ := List.exists_cons_of_ne_nil some
  have value := value_halvings steady halves_lsr halves_ror cpu top rest
  rw [← split, List.reverse_reverse] at value
  have half : Coder.ofLittleEndian x =
      2 * Coder.ofLittleEndian made.1.reverse + (made.2.flag .carry).toNat := by
    rw [← value, Bool.toNat_false, Nat.mul_zero, Nat.zero_add]
  have remainder := Bool.toNat_le (made.2.flag .carry)
  constructor
  · have quotient : Coder.ofLittleEndian x / 2 = Coder.ofLittleEndian made.1.reverse := by omega
    rw [quotient, ← length, Coder.littleEndian_ofLittleEndian]
  · cases out : made.2.flag .carry with
    | false =>
      rw [out, Bool.toNat_false] at half
      exact iff_of_false Bool.false_ne_true (by omega)
    | true =>
      rw [out, Bool.toNat_true] at half
      exact iff_of_true rfl (by omega)

end Numbers
end Cpu

/-! ## Between the bytes -/

namespace Device

theorem carry_fetched (count : Nat) (device : Device) :
    (device.fetched count).cpu.flag .carry = device.cpu.flag .carry := by
  rw [fetched_cpu]
  rfl

theorem carry_load {op : RegisterOp} (load : op = .lda ∨ op = .ldx) (operand : Operand)
    (device : Device) :
    (perform (.register op operand) device).2.cpu.flag .carry = device.cpu.flag .carry := by
  obtain ⟨m, loaded⟩ := device.perform_register_cpu op operand
  rw [loaded, ← device.carry_fetched operand.size]
  rcases load with rfl | rfl
  · exact Cpu.carry_setSignZero _ m
  · exact Cpu.carry_setSignZero _ m

theorem carry_store (operand : Operand) (register : Cpu → UInt8) (device : Device) :
    (storeRegister operand register device).2.cpu.flag .carry = device.cpu.flag .carry := by
  rw [storeRegister_cpu, Cpu.carry_setSignZero, carry_fetched]

end Device

/-- Chains of byte operations compute on numbers of any number of bytes. Additions, subtractions and
left shifts go from the lowest byte up, right shifts from the highest down; `between` is whatever
the processor does after each byte with the carry flag left alone, as loads and stores do. -/
theorem Cpu.carry_chains {x y : List UInt8} (nonempty : x ≠ []) (same : x.length = y.length)
    {between : Nat → Cpu → Cpu}
    (steady : ∀ left cpu, (between left cpu).flag .carry = cpu.flag .carry) (cpu : Cpu) :
    let n := x.length
    let X := Coder.ofLittleEndian x
    let Y := Coder.ofLittleEndian y
    let sum := chain between (registerTurn .adc) (registerTurn .add) cpu (x.zip y)
    let difference := chain between (registerTurn .sbc) (registerTurn .sub) cpu (x.zip y)
    let double := chain between (modifyTurn .rol) (modifyTurn .lsl) cpu x
    let half := chain between (modifyTurn .ror) (modifyTurn .lsr) cpu x.reverse
    (sum.1 = Coder.littleEndian n (X + Y) ∧ (sum.2.flag .carry = true ↔ 256 ^ n ≤ X + Y)) ∧
      (difference.1 = Coder.littleEndian n (((X : Int) - Y) % (256 ^ n : Nat)).toNat ∧
        (difference.2.flag .carry = true ↔ X < Y)) ∧
      (double.1 = Coder.littleEndian n (2 * X) ∧
        double.2.flag .carry = X.testBit (8 * n - 1)) ∧
      (half.1.reverse = Coder.littleEndian n (X / 2) ∧
        (half.2.flag .carry = true ↔ X % 2 = 1)) ∧
      ∀ (device : Device) (operand : Operand), ∀ instruction ∈ ([.register .lda operand,
          .register .ldx operand, .sta operand, .stx operand] : List Instruction),
        (Device.perform instruction device).2.cpu.flag .carry = device.cpu.flag .carry := by
  refine ⟨addition_chain steady nonempty cpu same, subtraction_chain steady nonempty cpu same,
    doubling_chain steady nonempty cpu, halving_chain steady nonempty cpu, ?_⟩
  intro device operand instruction member
  simp only [List.mem_cons, List.not_mem_nil, or_false] at member
  rcases member with rfl | rfl | rfl | rfl
  · exact device.carry_load (.inl rfl) operand
  · exact device.carry_load (.inr rfl) operand
  · exact device.carry_store operand (·.a)
  · exact device.carry_store operand (·.x)

/-- Two words whose sum has a third byte, and between the bytes interrupts are masked. -/
theorem Cpu.carry_chains_of_words :
    let between (_ : Nat) (cpu : Cpu) : Cpu := cpu.setFlag .interruptMask true
    let sum := chain between (registerTurn .adc) (registerTurn .add) .initial
      ([0xFF, 0x80].zip [0x01, 0x90])
    sum.1 = [0x00, 0x11] ∧ sum.2.flag .carry = true := by
  intro between sum
  have steady (left : Nat) (cpu : Cpu) : (between left cpu).flag .carry = cpu.flag .carry :=
    cpu.flag_setFlag_of_ne (by decide) true
  have some : ([0xFF, 0x80] : List UInt8) ≠ [] := by decide
  have same : ([0xFF, 0x80] : List UInt8).length = ([0x01, 0x90] : List UInt8).length := rfl
  obtain ⟨⟨bytes, carry⟩, -⟩ := carry_chains some same steady .initial
  exact ⟨bytes.trans (by decide), carry.mpr (by decide)⟩

end M68HC05
