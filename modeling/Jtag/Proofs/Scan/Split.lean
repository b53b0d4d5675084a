import Mathlib.Algebra.Group.Nat.Defs
import Jtag.Scan.Split

/-! Splitting is the inverse of putting entries in a row. What two patterns bring back through one chain
    agrees on the path and nowhere else; identification codes and bypass bits come out of the data path as
    they went in, and the starts of the instruction registers tell their lengths. -/

namespace Jtag

namespace Bits

theorem toNat_ofNat (length n : Nat) : toNat (ofNat length n) = n % 2 ^ length := by
  induction length generalizing n with
  | zero => exact (Nat.mod_one n).symm
  | succ length ih =>
    have hbit : (n.testBit 0).toNat = n % 2 := by
      rw [Nat.testBit_zero]
      rcases Nat.mod_two_eq_zero_or_one n with h | h <;> simp [h]
    have hpow : n % 2 ^ (length + 1) = n % 2 + 2 * (n / 2 % 2 ^ length) := by
      rw [Nat.pow_succ, Nat.mul_comm, Nat.mod_mul]
    rw [ofNat, toNat, ih, hbit, hpow]

end Bits

namespace IdCode

variable {id : IdCode}

theorem length_bits (id : IdCode) : id.bits.length = length := Bits.length_ofNat ..

theorem ofBits?_append (id : IdCode) (more : List Bool) : ofBits? (id.bits ++ more) = some id := by
  have hlong : length ≤ (id.bits ++ more).length := by
    rw [List.length_append, id.length_bits]
    exact Nat.le_add_right ..
  have hvalue : BitVec.ofNat 32 (Bits.toNat id.bits) = id.value := by
    rw [bits, Bits.toNat_ofNat, length, Nat.mod_eq_of_lt id.value.isLt, BitVec.ofNat_toNat, BitVec.setWidth_eq]
  rw [ofBits?, if_pos hlong, List.take_left' id.length_bits, hvalue]

theorem bits_of_valid (h : id.valid = true) : ∃ rest, id.bits = true :: rest ∧ rest.length = length - 1 := by
  have hmarker : id.marker = true := by
    rw [valid, Bool.and_assoc] at h
    exact (Bool.and_eq_true_iff.mp h).1
  have hfirst : id.value.toNat.testBit 0 = true := by
    have hone : id.value.toNat % 2 = 1 := by
      simpa [marker, get, Field.marker, BitVec.toNat_setWidth] using hmarker
    rw [Nat.testBit_zero, hone]
    rfl
  refine ⟨Bits.ofNat (length - 1) (id.value.toNat / 2), ?_, Bits.length_ofNat ..⟩
  rw [bits, ← hfirst]
  rfl

end IdCode

namespace Scan

/-! ### The end of a path -/

theorem agreement_append (path as bs : List Bool) :
    agreement (path ++ as) (path ++ bs) = path.length + agreement as bs := by
  induction path with
  | nil => exact (Nat.zero_add _).symm
  | cons b path ih =>
    rw [List.cons_append, List.cons_append, agreement, if_pos rfl, ih, List.length_cons]
    omega

theorem agreement_self (bits : List Bool) : agreement bits bits = bits.length := by
  induction bits with
  | nil => rfl
  | cons b bits ih => rw [agreement, if_pos rfl, ih, List.length_cons]

/-- The first `length` bits that come out behind a path: the path itself, and then what was shifted in. -/
def seen (length : Nat) (path pattern : List Bool) : List Bool := (path ++ pattern).take length

/-- Behind ones and behind zeros the same bits come out as long as they are the bits of the path. -/
theorem agreement_seen (length : Nat) (path more : List Bool) :
    agreement (seen length path (List.replicate length true))
      (seen length path (List.replicate length false ++ more)) = min path.length length := by
  unfold seen
  by_cases hlong : length ≤ path.length
  · rw [List.take_append_of_le_length hlong, List.take_append_of_le_length hlong, agreement_self,
      List.length_take, Nat.min_comm]
  · have hshort : path.length < length := Nat.lt_of_not_le hlong
    obtain ⟨left, hleft⟩ := Nat.exists_eq_add_of_lt hshort
    subst hleft
    -- Behind the path at least one bit of either pattern is seen, and the two differ.
    have hones : (path ++ List.replicate (path.length + left + 1) true).take (path.length + left + 1) =
        path ++ true :: List.replicate left true := by
      rw [Nat.add_assoc, List.take_length_add_append, List.take_replicate, Nat.min_eq_left (by omega)]
      rfl
    have hzeros : (path ++ (List.replicate (path.length + left + 1) false ++ more)).take (path.length + left + 1) =
        path ++ false :: List.replicate left false := by
      rw [Nat.add_assoc, List.take_length_add_append, List.take_append_of_le_length (by simp),
        List.take_replicate, Nat.min_eq_left (by omega)]
      rfl
    rw [hones, hzeros, agreement_append, agreement, if_neg (by decide), Nat.min_eq_left (by omega)]
    rfl

theorem take_seen {length : Nat} {path : List Bool} (h : path.length ≤ length) (pattern : List Bool) :
    (seen length path pattern).take path.length = path := by
  rw [seen, List.take_take, Nat.min_eq_left h, List.take_left]

/-! ### The data path -/

/-- What a part shows on the data path after a reset. -/
def dataEntry : Option IdCode → List Bool
  | none => [false]
  | some id => id.bits

theorem dataEntry_ne_nil (id? : Option IdCode) : dataEntry id? ≠ [] := by
  cases id? with
  | none => exact List.cons_ne_nil _ _
  | some id => exact List.ne_nil_of_length_pos (by rw [dataEntry, id.length_bits]; decide)

theorem length_dataEntry (id? : Option IdCode) : (dataEntry id?).length = if id?.isSome then IdCode.length else 1 := by
  cases id? with
  | none => rfl
  | some id => exact id.length_bits

/-- Valid codes and bypass bits in front of a path are split into what they are. -/
theorem idCodes?_append {ids : List (Option IdCode)} (h : ∀ id, some id ∈ ids → id.valid = true) (rest : List Bool) :
    idCodes? (ids.flatMap dataEntry ++ rest) = (idCodes? rest).map (ids ++ ·) := by
  induction ids with
  | nil => cases hrest : idCodes? rest <;> simp [hrest, Except.map]
  | cons id? ids ih =>
    have hmore := ih fun id hid => h id (List.mem_cons_of_mem id? hid)
    rw [List.flatMap_cons, List.append_assoc]
    cases id? with
    | none =>
      rw [dataEntry, List.singleton_append, idCodes?, hmore]
      cases idCodes? rest <;> rfl
    | some id =>
      have hvalid := h id List.mem_cons_self
      obtain ⟨others, hbits, hlength⟩ := IdCode.bits_of_valid hvalid
      have hread := id.ofBits?_append (ids.flatMap dataEntry ++ rest)
      rw [hbits, List.cons_append] at hread
      rw [dataEntry, hbits, List.cons_append, idCodes?, hread]
      dsimp only
      rw [if_pos hvalid, List.drop_left' hlength, hmore]
      cases idCodes? rest <;> rfl

/-- Valid codes and bypass bits in a row are split into what they are. -/
theorem idCodes?_flatMap {ids : List (Option IdCode)} (h : ∀ id, some id ∈ ids → id.valid = true) :
    idCodes? (ids.flatMap dataEntry) = .ok ids := by
  have hall := idCodes?_append h []
  rw [List.append_nil, idCodes?] at hall
  rw [hall, Except.map, List.append_nil]

/-- Whatever is wrong with a data path, it is not its length. -/
theorem idCodes?_ne_chainTooLong (dr : List Bool) (count : Nat) : idCodes? dr ≠ .error (.chainTooLong count) := by
  fun_induction idCodes? dr with
  | case1 => exact nofun
  | case2 rest ih =>
    cases hrest : idCodes? rest with
    | error e =>
      rw [hrest] at ih
      exact fun h => ih (by cases h; rfl)
    | ok ids => exact nofun
  | case3 rest hread => exact nofun
  | case4 rest id hread hvalid ih =>
    cases hrest : idCodes? (rest.drop (IdCode.length - 1)) with
    | error e =>
      rw [hrest] at ih
      exact fun h => ih (by cases h; rfl)
    | ok ids => exact nofun
  | case5 rest id hread hvalid => exact nofun

/-! ### The instruction path -/

/-- What a part shows on the instruction path: a one, and then zeros. -/
def instructionEntry (length : Nat) : List Bool := true :: List.replicate (length - 1) false

theorem length_instructionEntry {length : Nat} (h : 0 < length) : (instructionEntry length).length = length := by
  rw [instructionEntry, List.length_cons, List.length_replicate]
  omega

/-- Where registers of the given lengths start, the first one at `offset`. -/
def offsets : Nat → List Nat → List Nat
  | _, [] => []
  | offset, length :: lengths => offset :: offsets (offset + length) lengths

theorem length_offsets (offset : Nat) (lengths : List Nat) : (offsets offset lengths).length = lengths.length := by
  induction lengths generalizing offset with
  | nil => rfl
  | cons length lengths ih => exact congrArg (· + 1) (ih (offset + length))

/-- Zeros have no start in them, whatever follows. -/
theorem startsFrom_zeros (offset count : Nat) (bits : List Bool) :
    startsFrom offset (List.replicate count false ++ bits) = startsFrom (offset + count) bits := by
  induction count generalizing offset with
  | zero => rfl
  | succ count ih =>
    rw [List.replicate_succ, List.cons_append, startsFrom, Bool.false_and, if_neg Bool.false_ne_true, ih]
    congr 1
    omega

/-- Registers of at least two bits in a row can start only where they do. -/
theorem startsFrom_flatMap {lengths : List Nat} (h : ∀ length ∈ lengths, 2 ≤ length) (offset : Nat) :
    startsFrom offset (lengths.flatMap instructionEntry) = offsets offset lengths := by
  induction lengths generalizing offset with
  | nil => rfl
  | cons length lengths ih =>
    obtain ⟨zeros, rfl⟩ := Nat.exists_eq_add_of_le (h length List.mem_cons_self)
    have hentry : instructionEntry (2 + zeros) = true :: (false :: List.replicate zeros false) := by
      rw [instructionEntry, show 2 + zeros - 1 = zeros + 1 by omega, List.replicate_succ]
    have hfollowed : startsFrom offset (true :: (false :: List.replicate zeros false ++ lengths.flatMap instructionEntry)) =
        offset :: startsFrom (offset + 1) (false :: List.replicate zeros false ++ lengths.flatMap instructionEntry) := rfl
    rw [List.flatMap_cons, hentry, List.cons_append, hfollowed, ← List.replicate_succ, startsFrom_zeros,
      ih (fun l hl => h l (List.mem_cons_of_mem _ hl)), offsets]
    congr 2
    omega

theorem length_flatMap {α : Type} (f : α → List Bool) (entries : List α) :
    (entries.flatMap f).length = total (entries.map fun a => (f a).length) := by
  induction entries with
  | nil => rfl
  | cons a entries ih => rw [List.flatMap_cons, List.length_append, ih, List.map_cons, total]

theorem length_flatMap_instructionEntry {lengths : List Nat} (h : ∀ length ∈ lengths, 2 ≤ length) :
    (lengths.flatMap instructionEntry).length = total lengths := by
  have hlengths : (lengths.map fun length => (instructionEntry length).length) = lengths.map id :=
    List.map_congr_left fun length hlength => length_instructionEntry (Nat.lt_of_lt_of_le Nat.zero_lt_two (h length hlength))
  rw [length_flatMap, hlengths, List.map_id]

theorem lengthsOfStarts_offsets (lengths : List Nat) (offset : Nat) :
    lengthsOfStarts (offsets offset lengths) (offset + total lengths) = lengths := by
  induction lengths generalizing offset with
  | nil => rfl
  | cons length lengths ih =>
    cases lengths with
    | nil =>
      show [offset + (length + 0) - offset] = [length]
      rw [Nat.add_zero, Nat.add_sub_cancel_left]
    | cons next lengths =>
      have hrest := ih (offset + length)
      rw [Nat.add_assoc] at hrest
      have hfirst : offset + length - offset = length := Nat.add_sub_cancel_left ..
      exact congrArg₂ List.cons hfirst hrest

/-- The check passes if all registers start where one can, as far as a word tells. -/
theorem checkStarts_eq_ok_iff {starts lengths : List Nat} {offset : Nat} :
    checkStarts starts (Word.wrap offset) lengths = .ok () ↔
      ∀ start ∈ offsets offset lengths, Word.wrap start ∈ starts := by
  induction lengths generalizing offset with
  | nil => simp [checkStarts, offsets]
  | cons length lengths ih =>
    rw [checkStarts, offsets, List.forall_mem_cons]
    split
    · rename_i hstart
      rw [Word.wrap_wrap_add, ih, and_iff_right (List.contains_iff_mem.mp hstart)]
    · rename_i hstart
      simp [mt List.contains_iff_mem.mpr hstart]

end Scan
end Jtag
