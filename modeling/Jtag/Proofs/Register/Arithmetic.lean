import Mathlib.Logic.Function.Iterate
import Mathlib.Tactic.Ring
import Jtag.Proofs.Register.Count

/-! Registers compute modulo two to the length. Whatever a register holds is a number below that power, bit 0 least
    significant: counting wraps around in both directions, a shift up multiplies and drops what does not fit, a shift
    down divides. -/

namespace Jtag

namespace Bits

/-! ### Pieces of a row -/

theorem toNat_append (low high : List Bool) : toNat (low ++ high) = toNat low + 2 ^ low.length * toNat high := by
  induction low with
  | nil => simp [toNat]
  | cons b low ih =>
    rw [List.cons_append, toNat, ih, toNat, List.length_cons, Nat.pow_succ]
    ring

@[simp] theorem toNat_zeros (count : Nat) : toNat (List.replicate count false) = 0 := by
  rw [← ofNat_zero, toNat_ofNat, Nat.zero_mod]

theorem toNat_take_lt (bits : List Bool) (count : Nat) : toNat (bits.take count) < 2 ^ count := by
  refine Nat.lt_of_lt_of_le (toNat_lt _) (Nat.pow_le_pow_right (by decide) ?_)
  exact List.length_take_le count bits

theorem toNat_split (bits : List Bool) (count : Nat) :
    toNat bits = toNat (bits.take count) + 2 ^ count * toNat (bits.drop count) := by
  rcases Nat.le_total count bits.length with hshort | hlong
  · have hpieces := toNat_append (bits.take count) (bits.drop count)
    rwa [List.take_append_drop, List.length_take_of_le hshort] at hpieces
  · rw [List.take_of_length_le hlong, List.drop_of_length_le hlong]
    rfl

theorem toNat_take (bits : List Bool) (count : Nat) : toNat (bits.take count) = toNat bits % 2 ^ count := by
  rw [toNat_split bits count, Nat.add_mul_mod_self_left, Nat.mod_eq_of_lt (toNat_take_lt bits count)]

theorem toNat_drop (bits : List Bool) (count : Nat) : toNat (bits.drop count) = toNat bits / 2 ^ count := by
  rw [toNat_split bits count, Nat.add_mul_div_left _ _ (Nat.two_pow_pos count),
    Nat.div_eq_of_lt (toNat_take_lt bits count), Nat.zero_add]

/-! ### Counting -/

theorem pred_ofNat (length n : Nat) : pred (ofNat length (n + 1)) = ofNat length n := by
  induction length generalizing n with
  | zero => rfl
  | succ length ih =>
    rcases Nat.mod_two_eq_zero_or_one n with heven | hodd
    · have hhalf : (n + 1) / 2 = n / 2 := by omega
      simp [ofNat, Nat.testBit_zero, heven, Nat.add_mod, pred, hhalf]
    · have hhalf : (n + 1) / 2 = n / 2 + 1 := by omega
      simp [ofNat, Nat.testBit_zero, hodd, Nat.add_mod, pred, hhalf, ih]

theorem toNat_succ (bits : List Bool) : toNat (succ bits) = (toNat bits + 1) % 2 ^ bits.length := by
  rw [← toNat_ofNat, ← succ_ofNat, ofNat_toNat]

theorem toNat_pred (bits : List Bool) :
    toNat (pred bits) = (toNat bits + 2 ^ bits.length - 1) % 2 ^ bits.length := by
  -- One round more does not change the row, and makes room for the step down.
  have hpos : 0 < 2 ^ bits.length := Nat.two_pow_pos bits.length
  have hround : ofNat bits.length (toNat bits + 2 ^ bits.length - 1 + 1) = bits := by
    rw [Nat.sub_add_cancel (by omega), ← ofNat_mod, Nat.add_mod_right, ofNat_mod, ofNat_toNat]
  rw [← toNat_ofNat, ← pred_ofNat, hround]

/-! ### Shifting -/

theorem toNat_shiftUp (amount : Nat) (bits : List Bool) :
    toNat (shiftUp amount bits) = toNat bits * 2 ^ amount % 2 ^ bits.length := by
  unfold shiftUp
  split
  · rename_i hall
    rw [toNat_zeros]
    exact (Nat.mod_eq_zero_of_dvd ((Nat.pow_dvd_pow 2 hall).mul_left _)).symm
  · rename_i hsome
    have hpower : 2 ^ bits.length = 2 ^ amount * 2 ^ (bits.length - amount) := by
      rw [← Nat.pow_add, Nat.add_sub_cancel' (Nat.le_of_not_le hsome)]
    rw [toNat_append, toNat_zeros, Nat.zero_add, List.length_replicate, toNat_take, hpower, Nat.mul_comm (toNat bits),
      Nat.mul_mod_mul_left]

theorem toNat_shiftDown (amount : Nat) (bits : List Bool) :
    toNat (shiftDown amount bits) = toNat bits / 2 ^ amount := by
  rw [← toNat_drop]
  unfold shiftDown
  split
  · rename_i hall
    rw [toNat_zeros, List.drop_of_length_le hall]
    rfl
  · rw [toNat_append, toNat_zeros, Nat.mul_zero, Nat.add_zero]

theorem toNat_low64 (bits : List Bool) : (low64 bits).toNat = toNat bits % 2 ^ 64 := by
  rw [low64, UInt64.toNat_ofNat', toNat_take, Nat.mod_mod]

end Bits

namespace Register

/-- A register holds as many low bits of a value as it is long. -/
theorem ofValue?_number (length : Nat) (value : UInt64) :
    (ofValue? length value).map (fun r => (r.length, r.toNat)) =
      if length = 0 then .error .invalidLength else .ok (length, value.toNat % 2 ^ length) := by
  cases length with
  | zero => rfl
  | succ length =>
    have hne : Bits.ofNat (length + 1) value.toNat ≠ [] := List.cons_ne_nil _ _
    rw [if_neg (Nat.succ_ne_zero length), ofValue?, ofBits?, dif_neg hne]
    simp [Except.map, Register.length, toNat, Bits.toNat_ofNat]

/-- A register of 64 bits or more holds a whole value. -/
theorem ofValue?_whole (more : Nat) (value : UInt64) : (ofValue? (64 + more) value).map toNat = .ok value.toNat := by
  have hfits : value.toNat < 2 ^ (64 + more) :=
    Nat.lt_of_lt_of_le value.toNat_lt (Nat.pow_le_pow_right (by decide) (Nat.le_add_right 64 more))
  have hnumber := ofValue?_number (64 + more) value
  rw [if_neg (by omega), Nat.mod_eq_of_lt hfits] at hnumber
  cases hmade : ofValue? (64 + more) value with
  | error e => rw [hmade] at hnumber; cases hnumber
  | ok r =>
    rw [hmade] at hnumber
    exact congrArg Except.ok (Prod.mk.inj (Except.ok.inj hnumber)).2

/-! ### Counting on and on -/

theorem bits_iterate_increment (r : Register) (steps : Nat) :
    (increment^[steps] r).bits = Bits.ofNat r.length (r.toNat + steps) := by
  induction steps with
  | zero => exact (Bits.ofNat_toNat r.bits).symm
  | succ steps ih =>
    rw [Function.iterate_succ_apply']
    show Bits.succ (increment^[steps] r).bits = _
    rw [ih, Bits.succ_ofNat, Nat.add_assoc]

theorem toNat_iterate_increment (r : Register) (steps : Nat) :
    (increment^[steps] r).toNat = (r.toNat + steps) % 2 ^ r.length := by
  rw [toNat, bits_iterate_increment, Bits.toNat_ofNat]

theorem iterate_increment_round (r : Register) : increment^[2 ^ r.length] r = r := by
  rw [mk.injEq, bits_iterate_increment, ← Bits.ofNat_mod, Nat.add_mod_right, Bits.ofNat_mod]
  exact Bits.ofNat_toNat r.bits

/-- Registers compute modulo two to the length, and counting comes across every value once before it is back. -/
theorem computes_modulo (r : Register) (amount length more : Nat) (value : UInt64) :
    let n := r.length
    let number := r.toNat
    (r.increment.toNat = (number + 1) % 2 ^ n ∧ r.decrement.toNat = (number + 2 ^ n - 1) % 2 ^ n ∧
      (r.shiftLeft amount).toNat = number * 2 ^ amount % 2 ^ n ∧
      (r.shiftRight amount).toNat = number / 2 ^ amount) ∧
    (r.increment.length = n ∧ r.decrement.length = n ∧ (r.shiftLeft amount).length = n ∧
      (r.shiftRight amount).length = n) ∧
    r.low64.toNat = number % 2 ^ 64 ∧
    ((ofValue? length value).map (fun r => (r.length, r.toNat)) =
        if length = 0 then .error .invalidLength else .ok (length, value.toNat % 2 ^ length)) ∧
    ((ofValue? (64 + more) value).map toNat = .ok value.toNat) ∧
    increment^[2 ^ n] r = r ∧
    ((List.range (2 ^ n)).map fun steps => (increment^[steps] r).toNat).Perm (List.range (2 ^ n)) := by
  intro n number
  have hcounts : r.increment.toNat = (number + 1) % 2 ^ n ∧ r.decrement.toNat = (number + 2 ^ n - 1) % 2 ^ n :=
    ⟨Bits.toNat_succ r.bits, Bits.toNat_pred r.bits⟩
  have hshifts : (r.shiftLeft amount).toNat = number * 2 ^ amount % 2 ^ n ∧
      (r.shiftRight amount).toNat = number / 2 ^ amount :=
    ⟨Bits.toNat_shiftUp amount r.bits, Bits.toNat_shiftDown amount r.bits⟩
  refine ⟨⟨hcounts.1, hcounts.2, hshifts⟩, ?_, Bits.toNat_low64 r.bits, ofValue?_number length value,
    ofValue?_whole more value, r.iterate_increment_round, ?_⟩
  · exact ⟨r.length_increment, r.length_decrement, r.length_shiftLeft amount, r.length_shiftRight amount⟩
  · simp only [toNat_iterate_increment]
    exact Bits.perm_range_from number n

end Register
end Jtag
