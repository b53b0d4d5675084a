import Mathlib.Data.Nat.ModEq
import Mathlib.Data.List.Nodup
import Mathlib.Data.List.Perm.Subperm
import Jtag.Proofs.Scan.Split
import Jtag.Register.Count

/-! Counting through rows of bits. A row of one length is a number below a power of two; behind its
    highest bit there are only zeros. -/

namespace Jtag

namespace Register

@[simp] theorem length_increment (r : Register) : r.increment.length = r.length := length_withBits ..

@[simp] theorem length_decrement (r : Register) : r.decrement.length = r.length := length_withBits ..

@[simp] theorem length_shiftLeft (r : Register) (amount : Nat) : (r.shiftLeft amount).length = r.length :=
  length_withBits ..

@[simp] theorem length_shiftRight (r : Register) (amount : Nat) : (r.shiftRight amount).length = r.length :=
  length_withBits ..

end Register

namespace Bits

theorem succ_ofNat (length n : Nat) : succ (ofNat length n) = ofNat length (n + 1) := by
  induction length generalizing n with
  | zero => rfl
  | succ length ih =>
    rcases Nat.mod_two_eq_zero_or_one n with heven | hodd
    · have hhalf : (n + 1) / 2 = n / 2 := by omega
      simp [ofNat, Nat.testBit_zero, heven, Nat.add_mod, succ, hhalf]
    · have hhalf : (n + 1) / 2 = n / 2 + 1 := by omega
      simp [ofNat, Nat.testBit_zero, hodd, Nat.add_mod, succ, hhalf, ih]

theorem ofNat_zero (length : Nat) : ofNat length 0 = List.replicate length false := by
  induction length with
  | zero => rfl
  | succ length ih => simp [ofNat, ih, List.replicate_succ]

theorem ofNat_add {width n : Nat} (h : n < 2 ^ width) (more : Nat) :
    ofNat (width + more) n = ofNat width n ++ List.replicate more false := by
  induction width generalizing n with
  | zero =>
    obtain rfl : n = 0 := by simpa using h
    simp [ofNat, ofNat_zero]
  | succ width ih =>
    have hhalf : n / 2 < 2 ^ width := by rw [Nat.pow_succ] at h; omega
    rw [Nat.add_right_comm, ofNat, ofNat, ih hhalf, List.cons_append]

theorem ofNat_last (width : Nat) : ofNat width (2 ^ width - 1) = List.replicate width true := by
  induction width with
  | zero => rfl
  | succ width ih =>
    have hpos : 0 < 2 ^ width := Nat.two_pow_pos width
    have hodd : (2 ^ (width + 1) - 1) % 2 = 1 := by rw [Nat.pow_succ]; omega
    have hhalf : (2 ^ (width + 1) - 1) / 2 = 2 ^ width - 1 := by rw [Nat.pow_succ]; omega
    simp [ofNat, Nat.testBit_zero, hodd, hhalf, ih, List.replicate_succ]

theorem ofNat_inj {width n k : Nat} (hn : n < 2 ^ width) (hk : k < 2 ^ width) (h : ofNat width n = ofNat width k) :
    n = k := by
  have hnumber := congrArg toNat h
  rwa [toNat_ofNat, toNat_ofNat, Nat.mod_eq_of_lt hn, Nat.mod_eq_of_lt hk] at hnumber

/-! ### All values of one width -/

/-- A count wraps around behind its last value. -/
theorem ofNat_mod (width n : Nat) : ofNat width (n % 2 ^ width) = ofNat width n := by
  induction width generalizing n with
  | zero => rfl
  | succ width ih =>
    have hlow : (n % 2 ^ (width + 1)).testBit 0 = n.testBit 0 := by simp
    have hhigh : n % 2 ^ (width + 1) / 2 = n / 2 % 2 ^ width := by rw [Nat.pow_succ', Nat.mod_mul_right_div_self]
    rw [ofNat, ofNat, hlow, hhigh, ih]

theorem ofNat_toNat (bits : List Bool) : ofNat bits.length (toNat bits) = bits := by
  induction bits with
  | nil => rfl
  | cons b rest ih =>
    have hbit : b.toNat < 2 := b.toNat_lt
    have hhalf : (b.toNat + 2 * toNat rest) / 2 = toNat rest := by omega
    rw [List.length_cons, ofNat, toNat, hhalf, ih]
    cases b <;> simp [Nat.testBit_zero, Nat.add_mod]

theorem toNat_lt (bits : List Bool) : toNat bits < 2 ^ bits.length := by
  rw [← ofNat_toNat bits, toNat_ofNat, length_ofNat]
  exact Nat.mod_lt _ (Nat.two_pow_pos _)

theorem forall_length_iff {width : Nat} {P : List Bool → Prop} :
    (∀ bits, bits.length = width → P bits) ↔ ∀ n < 2 ^ width, P (ofNat width n) := by
  constructor
  · intro h n _
    exact h _ (length_ofNat width n)
  · rintro h bits rfl
    rw [← ofNat_toNat bits]
    exact h _ (toNat_lt bits)

/-- Counting on from any value, as many steps as there are values, comes across every one of them once. -/
theorem perm_range_from (start width : Nat) :
    ((List.range (2 ^ width)).map fun k => (start + k) % 2 ^ width).Perm (List.range (2 ^ width)) := by
  have hpos : 0 < 2 ^ width := Nat.two_pow_pos width
  have hnodup : ((List.range (2 ^ width)).map fun k => (start + k) % 2 ^ width).Nodup := by
    refine List.Nodup.map_on (fun k hk k' hk' h => ?_) List.nodup_range
    exact Nat.ModEq.eq_of_lt_of_lt (Nat.ModEq.add_left_cancel' start h) (List.mem_range.mp hk) (List.mem_range.mp hk')
  refine (hnodup.subperm fun n hn => ?_).perm_of_length_le (by simp)
  obtain ⟨k, -, rfl⟩ := List.mem_map.mp hn
  exact List.mem_range.mpr (Nat.mod_lt _ hpos)

theorem count_ofNat_from_last (value : List Bool) :
    ((List.range (2 ^ value.length)).map fun k =>
      ofNat value.length ((2 ^ value.length - 1 + k) % 2 ^ value.length)).count value = 1 := by
  have hperm := (perm_range_from (2 ^ value.length - 1) value.length).map (ofNat value.length)
  rw [List.map_map] at hperm
  refine (hperm.count_eq value).trans (List.count_eq_one_of_mem ?_ ?_)
  · refine List.Nodup.map_on (fun n hn k hk h => ?_) List.nodup_range
    exact ofNat_inj (List.mem_range.mp hn) (List.mem_range.mp hk) h
  · exact List.mem_map.mpr ⟨toNat value, List.mem_range.mpr (toNat_lt value), ofNat_toNat value⟩

end Bits
end Jtag
