/-!
Words that have no bits outside a mask, and how the operations of the registers on masked words
keep them there.
-/

namespace M68HC05

/-- A word has only bits of the mask. -/
def HasOnly {α : Type} [AndOp α] (mask word : α) : Prop :=
  word &&& mask = word

instance {α : Type} [AndOp α] [DecidableEq α] (mask word : α) : Decidable (HasOnly mask word) :=
  inferInstanceAs (Decidable (word &&& mask = word))

namespace HasOnly

section Lattice

variable {α : Type} [AndOp α] [associative : @Std.Associative α (· &&& ·)] {mask word : α}

/-- What is cut to a mask has only its bits. -/
theorem cut [idempotent : @Std.IdempotentOp α (· &&& ·)] (word mask : α) :
    HasOnly mask (word &&& mask) := by
  unfold HasOnly
  rw [associative.assoc word mask mask, idempotent.idempotent mask]

theorem and_left [commutative : @Std.Commutative α (· &&& ·)] (within : HasOnly mask word)
    (other : α) : HasOnly mask (word &&& other) := by
  unfold HasOnly at within ⊢
  rw [associative.assoc word other mask, commutative.comm other mask,
    ← associative.assoc word mask other, within]

theorem and_right [commutative : @Std.Commutative α (· &&& ·)] (within : HasOnly mask word)
    (other : α) : HasOnly mask (other &&& word) := by
  rw [commutative.comm other word]
  exact within.and_left other

end Lattice
end HasOnly

theorem or_and_right8 (a b mask : UInt8) : (a ||| b) &&& mask = a &&& mask ||| b &&& mask :=
  UInt8.toBitVec_inj.mp BitVec.and_or_distrib_right

theorem or_and_right16 (a b mask : UInt16) : (a ||| b) &&& mask = a &&& mask ||| b &&& mask :=
  UInt16.toBitVec_inj.mp BitVec.and_or_distrib_right

theorem and_or_left8 (mask a b : UInt8) : mask &&& (a ||| b) = mask &&& a ||| mask &&& b :=
  UInt8.toBitVec_inj.mp BitVec.and_or_distrib_left

theorem and_or_left16 (mask a b : UInt16) : mask &&& (a ||| b) = mask &&& a ||| mask &&& b :=
  UInt16.toBitVec_inj.mp BitVec.and_or_distrib_left

theorem xor_and_right8 (a b mask : UInt8) : (a ^^^ b) &&& mask = a &&& mask ^^^ b &&& mask := by
  apply UInt8.toBitVec_inj.mp
  apply BitVec.eq_of_getElem_eq
  intro i inside
  simp only [UInt8.toBitVec_xor, UInt8.toBitVec_and, BitVec.getElem_xor, BitVec.getElem_and]
  cases mask.toBitVec[i] with
  | false => simp
  | true => simp

/-- Clearing the bits of a mask makes up for having set them. -/
theorem or_and_not16 (a mask : UInt16) : (a ||| mask) &&& ~~~mask = a &&& ~~~mask := by
  rw [or_and_right16, UInt16.and_not_self, UInt16.or_zero]

/-- Setting the bits of a mask makes up for having cleared them. -/
theorem and_not_or16 (a mask : UInt16) : a &&& ~~~mask ||| mask = a ||| mask := by
  apply UInt16.toBitVec_inj.mp
  apply BitVec.eq_of_getElem_eq
  intro i inside
  simp only [UInt16.toBitVec_or, UInt16.toBitVec_and, UInt16.toBitVec_not, BitVec.getElem_or,
    BitVec.getElem_and, BitVec.getElem_not]
  cases mask.toBitVec[i] with
  | false => simp
  | true => simp

/-- What has been set is there. -/
theorem or_and_self16 (a mask : UInt16) : (a ||| mask) &&& mask = mask := by
  apply UInt16.toBitVec_inj.mp
  apply BitVec.eq_of_getElem_eq
  intro i inside
  simp only [UInt16.toBitVec_or, UInt16.toBitVec_and, BitVec.getElem_or, BitVec.getElem_and]
  cases mask.toBitVec[i] with
  | false => simp
  | true => simp

/-- A word is in whatever more is added to it. -/
theorem and_or_self8 (a b : UInt8) : a &&& (a ||| b) = a := by
  apply UInt8.toBitVec_inj.mp
  apply BitVec.eq_of_getElem_eq
  intro i inside
  simp only [UInt8.toBitVec_or, UInt8.toBitVec_and, BitVec.getElem_or, BitVec.getElem_and]
  cases a.toBitVec[i] with
  | false => simp
  | true => simp

/-- A larger mask will do. -/
theorem HasOnly.widen8 {mask byte : UInt8} (within : HasOnly mask byte) (more : UInt8) :
    HasOnly (mask ||| more) byte := by
  unfold HasOnly at within ⊢
  rw [← within, UInt8.and_assoc, and_or_self8]

/-- What is cut off the mask may be cut off the byte as well. -/
theorem HasOnly.cut_both8 {mask byte : UInt8} (within : HasOnly mask byte) (other : UInt8) :
    HasOnly (mask &&& other) (byte &&& other) := by
  have parts : HasOnly mask (byte &&& other) := within.and_left other
  unfold HasOnly at parts ⊢
  rw [← UInt8.and_assoc, parts, UInt8.and_assoc, UInt8.and_self]

theorem HasOnly.zero8 (mask : UInt8) : HasOnly mask 0 :=
  UInt8.zero_and

theorem HasOnly.or8 {mask a b : UInt8} (first : HasOnly mask a) (second : HasOnly mask b) :
    HasOnly mask (a ||| b) := by
  unfold HasOnly at first second ⊢
  rw [or_and_right8, first, second]

theorem HasOnly.or16 {mask a b : UInt16} (first : HasOnly mask a) (second : HasOnly mask b) :
    HasOnly mask (a ||| b) := by
  unfold HasOnly at first second ⊢
  rw [or_and_right16, first, second]

/-- A byte with only bits of a mask is at most the mask. -/
theorem HasOnly.le8 {mask byte : UInt8} (within : HasOnly mask byte) : byte ≤ mask := by
  unfold HasOnly at within
  rw [UInt8.le_iff_toNat_le, ← within, UInt8.toNat_and]
  exact Nat.and_le_right

/-! ## Words in wider words -/

/-- A word that is cut to a mask below a bound is below the bound. -/
theorem and_mod32 (value : UInt32) {mask bound : UInt32} (small : mask.toNat < bound.toNat) :
    (value &&& mask) % bound = value &&& mask := by
  apply UInt32.toNat_inj.mp
  rw [UInt32.toNat_mod, UInt32.toNat_and]
  exact Nat.mod_eq_of_lt (Nat.lt_of_le_of_lt Nat.and_le_right small)

theorem toUInt8_and_toUInt32 (value : UInt32) {mask : UInt32} (small : mask.toNat < 256) :
    (value &&& mask).toUInt8.toUInt32 = value &&& mask := by
  rw [UInt32.toUInt32_toUInt8]
  exact and_mod32 value small

theorem toUInt16_and_toUInt32 (value : UInt32) {mask : UInt32} (small : mask.toNat < 65536) :
    (value &&& mask).toUInt16.toUInt32 = value &&& mask := by
  rw [UInt32.toUInt32_toUInt16]
  exact and_mod32 value small

/-- A word is cut to a mask as it is moved into a byte that keeps only the bits of this mask. -/
theorem toUInt8_and_and_toUInt32 (value : UInt32) (mask : UInt8) :
    ((value &&& mask.toUInt32).toUInt8 &&& mask).toUInt32 = value &&& mask.toUInt32 := by
  have small : mask.toUInt32.toNat < 256 := mask.toNat_lt
  rw [UInt8.toUInt32_and, toUInt8_and_toUInt32 value small]
  exact HasOnly.cut value mask.toUInt32

/-- The lowest bit of a word as a truth value and back. -/
theorem toUInt32_lowest (value : UInt32) :
    (decide (value &&& 1 ≠ 0)).toUInt32 = value &&& 1 := by
  by_cases clear : value &&& 1 = 0
  · rw [decide_eq_false (not_not_intro clear), clear]
    rfl
  · have bit : (value &&& 1).toNat = value.toNat % 2 := by
      rw [UInt32.toNat_and]
      exact Nat.and_one_is_mod _
    have odd : (value &&& 1).toNat ≠ 0 := fun zero => clear (UInt32.toNat_inj.mp zero)
    rw [decide_eq_true clear]
    apply UInt32.toNat_inj.mp
    change 1 = (value &&& 1).toNat
    omega

/-- A masked byte as a word is masked by the mask as a word. -/
theorem HasOnly.toUInt32 {mask byte : UInt8} (within : HasOnly mask byte) :
    HasOnly mask.toUInt32 byte.toUInt32 := by
  unfold HasOnly at within ⊢
  rw [← UInt8.toUInt32_and, within]

end M68HC05
