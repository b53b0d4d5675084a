import Mathlib.Data.List.Basic
import Jtag.Cable.Queue

/-! The ring of a queue holds a list: the items from `head` on, counted around the ring, are the
    elements of the list in order, and the next free slot is the one behind them. Every operation keeps
    this, and a full ring that grows moves its items so that they stay in one run around the larger ring. -/

namespace Jtag
namespace Queue

variable {α : Type} {q : Queue α} {items : List α}

/-- The queue holds `items`, oldest first. -/
structure Holds (q : Queue α) (items : List α) : Prop where
  count : q.count = items.length
  fits : items.length ≤ q.slots.size
  head : q.head < q.slots.size
  free : q.free = q.slot items.length
  slots : ∀ i a, items[i]? = some a → q.slots[q.slot i]? = some (some a)

/-! ### Places on a ring -/

/-- Counting around a ring wraps at most once. -/
theorem wrap_eq {size head i : Nat} (hh : head < size) (hi : i ≤ size) :
    (head + i) % size = if head + i < size then head + i else head + i - size := by
  split
  · rename_i h
    exact Nat.mod_eq_of_lt h
  · rw [Nat.mod_eq_sub_mod (by omega), Nat.mod_eq_of_lt (by omega)]

/-- Two offsets of one ring name the same slot only if they are equal. -/
theorem wrap_ne {size head i j : Nat} (hh : head < size) (hi : i < size) (hj : j < size) (hij : i ≠ j) :
    (head + i) % size ≠ (head + j) % size := by
  rw [wrap_eq hh (Nat.le_of_lt hi), wrap_eq hh (Nat.le_of_lt hj)]
  split <;> split <;> omega

theorem slot_lt (q : Queue α) (i : Nat) : q.slot i < q.slots.size := Nat.mod_lt _ q.slots_pos

/-! ### Moving a run of slots -/

section Move
variable {slots : Array (Option α)} {source target n k : Nat}

/-- Slots outside both runs stay as they are. -/
theorem getElem?_moveUp_of_outside (hs : k < source ∨ source + n ≤ k) (ht : k < target ∨ target + n ≤ k) :
    (moveUp slots source target n)[k]? = slots[k]? := by
  induction n generalizing slots source target with
  | zero => rfl
  | succ n ih =>
    rw [moveUp, ih (by omega) (by omega), Array.getElem?_setIfInBounds_ne (by omega),
      Array.getElem?_setIfInBounds_ne (by omega)]

/-- Going up, a run may be moved onto lower slots that it overlaps: each slot is read before it is
    written. -/
theorem getElem?_moveUp (hd : target < source ∨ source + n ≤ target) (ht : target + n ≤ slots.size)
    (hk : k < n) : (moveUp slots source target n)[target + k]? = some slots[source + k]?.join := by
  induction n generalizing slots source target k with
  | zero => omega
  | succ n ih =>
    rw [moveUp]
    cases k with
    | zero =>
      simp only [Nat.add_zero]
      rw [getElem?_moveUp_of_outside (by omega) (by omega),
        Array.getElem?_setIfInBounds_self_of_lt (by rw [Array.size_setIfInBounds]; omega)]
    | succ k =>
      have h := @ih ((slots.setIfInBounds source none).setIfInBounds target slots[source]?.join) (source + 1)
        (target + 1) k (by omega) (by simp only [Array.size_setIfInBounds]; omega) (by omega)
      rw [show target + (k + 1) = target + 1 + k by omega, h, Array.getElem?_setIfInBounds_ne (by omega),
        Array.getElem?_setIfInBounds_ne (by omega), show source + 1 + k = source + (k + 1) by omega]

theorem getElem?_moveDown_of_outside (hs : k < source ∨ source + n ≤ k) (ht : k < target ∨ target + n ≤ k) :
    (moveDown slots source target n)[k]? = slots[k]? := by
  induction n generalizing slots with
  | zero => rfl
  | succ n ih =>
    rw [moveDown, ih (by omega) (by omega), Array.getElem?_setIfInBounds_ne (by omega),
      Array.getElem?_setIfInBounds_ne (by omega)]

/-- Going down, a run may be moved onto higher slots that it overlaps. -/
theorem getElem?_moveDown (hd : source < target) (ht : target + n ≤ slots.size) (hk : k < n) :
    (moveDown slots source target n)[target + k]? = some slots[source + k]?.join := by
  induction n generalizing slots k with
  | zero => omega
  | succ n ih =>
    rw [moveDown]
    by_cases hkn : k = n
    · subst hkn
      rw [getElem?_moveDown_of_outside (by omega) (by omega),
        Array.getElem?_setIfInBounds_self_of_lt (by rw [Array.size_setIfInBounds]; omega)]
    · rw [ih (by simp only [Array.size_setIfInBounds]; omega) (by omega),
        Array.getElem?_setIfInBounds_ne (by omega), Array.getElem?_setIfInBounds_ne (by omega)]

end Move

/-! ### Growing -/

/-- Where the items of a full ring are after free slots came behind its end. The next free slot of a full ring
    is the one of its oldest item. -/
theorem getElem?_unwrap {slots : Array (Option α)} {head size added i : Nat} (hsize : slots.size = size + added)
    (hh : head < size) (ha : 0 < added) (hi : i < size) {a : α}
    (hslot : slots[(head + i) % size]? = some (some a)) :
    (unwrap slots head head size added).1[((unwrap slots head head size added).2 + i) % (size + added)]? =
      some (some a) := by
  rw [wrap_eq hh (Nat.le_of_lt hi)] at hslot
  simp only [unwrap]
  by_cases h0 : head = 0
  · rw [if_pos h0, Nat.mod_eq_of_lt (by dsimp only; omega)]
    rwa [if_pos (by omega)] at hslot
  rw [if_neg h0]
  by_cases htail : size - head ≤ head
  · -- The piece at the end goes to the new end.
    rw [if_pos htail]
    dsimp only
    rw [wrap_eq (by omega) (by omega)]
    by_cases hw : head + i < size
    · rw [if_pos hw] at hslot
      rw [if_pos (by omega), getElem?_moveDown (by omega) (by omega) (by omega), hslot]
      rfl
    · rw [if_neg hw] at hslot
      rw [if_neg (by omega), getElem?_moveDown_of_outside (by omega) (by omega),
        show size + added - (size - head) + i - (size + added) = head + i - size by omega, hslot]
  rw [if_neg htail]
  by_cases hfit : head ≤ added
  · -- The piece at the start fits behind the old end.
    rw [if_pos hfit]
    dsimp only
    rw [Nat.mod_eq_of_lt (by omega)]
    by_cases hw : head + i < size
    · rw [if_pos hw] at hslot
      rw [getElem?_moveUp_of_outside (by omega) (by omega), hslot]
    · rw [if_neg hw] at hslot
      rw [show head + i = size + (head + i - size) by omega, getElem?_moveUp (by omega) (by omega) (by omega),
        Nat.zero_add, hslot]
      rfl
  · -- The piece at the start fills the new slots, and the rest of it closes up.
    rw [if_neg hfit]
    dsimp only
    rw [wrap_eq (by omega) (by omega)]
    by_cases hw : head + i < size
    · rw [if_pos hw] at hslot
      rw [if_pos (by omega), getElem?_moveUp_of_outside (by omega) (by omega),
        getElem?_moveUp_of_outside (by omega) (by omega), hslot]
    · rw [if_neg hw] at hslot
      by_cases hnew : head + i < size + added
      · rw [if_pos hnew, getElem?_moveUp_of_outside (by omega) (by omega),
          show head + i = size + (head + i - size) by omega, getElem?_moveUp (by omega) (by omega) (by omega),
          Nat.zero_add, hslot]
        rfl
      · rw [if_neg hnew, show head + i - (size + added) = 0 + (head + i - size - added) by omega,
          getElem?_moveUp (by omega) (by rw [size_moveUp]; omega) (by omega),
          show added + (head + i - size - added) = head + i - size by omega,
          getElem?_moveUp_of_outside (by omega) (by omega), hslot]
        rfl

theorem head_unwrap_lt {slots : Array (Option α)} {head size added : Nat} (hh : head < size) (ha : 0 < added) :
    (unwrap slots head head size added).2 < size + added := by
  simp only [unwrap]
  split
  · dsimp only
    omega
  · split
    · dsimp only
      omega
    · split <;> dsimp only <;> omega

@[simp] theorem size_grown (q : Queue α) : q.grown.slots.size = q.slots.size + q.growth := by
  show (unwrap _ _ _ _ _).1.size = _
  rw [size_unwrap, Array.size_append, Array.size_replicate]

theorem Holds.free_of_full (h : q.Holds items) (hfull : items.length = q.slots.size) : q.free = q.head := by
  rw [h.free, slot, hfull, Nat.add_mod_right, Nat.mod_eq_of_lt h.head]

/-- A full ring that grows holds the same items, and has room for more. -/
theorem Holds.grown (h : q.Holds items) (hfull : items.length = q.slots.size) : q.grown.Holds items where
  count := h.count
  fits := by rw [size_grown, hfull]; exact Nat.le_add_right _ _
  head := by
    show (unwrap _ q.head q.free _ _).2 < _
    rw [size_grown, h.free_of_full hfull]
    exact head_unwrap_lt h.head q.growth_pos
  free := by rw [slot, size_grown, ← h.count]; rfl
  slots i a hi := by
    have hlt : i < q.slots.size := hfull ▸ (List.getElem?_eq_some_iff.mp hi).1
    have hold := h.slots i a hi
    show (unwrap _ q.head q.free _ _).1[((unwrap _ q.head q.free _ _).2 + i) % q.grown.slots.size]? = _
    rw [size_grown, h.free_of_full hfull]
    refine getElem?_unwrap ?_ h.head q.growth_pos hlt ?_
    · rw [Array.size_append, Array.size_replicate]
    · rw [Array.getElem?_append_left (Nat.mod_lt _ q.slots_pos)]
      exact hold

/-! ### Operations -/

theorem holds_withCapacity (capacity growth : Nat) : (withCapacity capacity growth : Queue α).Holds [] where
  count := rfl
  fits := Nat.zero_le _
  head := (withCapacity capacity growth).slots_pos
  free := (Nat.zero_mod _).symm
  slots i a hi := by simp at hi

theorem holds_purge (q : Queue α) : q.purge.Holds [] where
  count := rfl
  fits := Nat.zero_le _
  head := by
    show 0 < (Array.replicate q.slots.size none).size
    rw [Array.size_replicate]
    exact q.slots_pos
  free := (Nat.zero_mod _).symm
  slots i a hi := by simp at hi

theorem Holds.put (h : q.Holds items) (hroom : items.length < q.slots.size) (a : α) :
    (q.put a).Holds (items ++ [a]) where
  count := by simp [Queue.put, h.count]
  fits := by
    show _ ≤ (q.slots.setIfInBounds _ _).size
    rw [List.length_append, List.length_singleton, Array.size_setIfInBounds]
    exact hroom
  head := by simpa [Queue.put] using h.head
  free := by
    show (q.free + 1) % q.slots.size = (q.head + _) % (q.slots.setIfInBounds _ _).size
    rw [Array.size_setIfInBounds, h.free, slot, Nat.mod_add_mod, List.length_append, List.length_singleton, Nat.add_assoc]
  slots i b hi := by
    show (q.slots.setIfInBounds q.free (some a))[(q.head + i) % (q.slots.setIfInBounds _ _).size]? = _
    rw [Array.size_setIfInBounds, h.free]
    by_cases hlt : i < items.length
    · rw [List.getElem?_append_left hlt] at hi
      have hne : q.slot items.length ≠ (q.head + i) % q.slots.size :=
        wrap_ne h.head hroom (Nat.lt_trans hlt hroom) (Nat.ne_of_gt hlt)
      rw [Array.getElem?_setIfInBounds_ne hne]
      exact h.slots i b hi
    · have heq : i = items.length := by
        have := (List.getElem?_eq_some_iff.mp hi).1
        rw [List.length_append, List.length_singleton] at this
        omega
      subst heq
      rw [List.getElem?_concat_length] at hi
      cases hi
      exact Array.getElem?_setIfInBounds_self_of_lt (q.slot_lt _)

theorem Holds.isFull_iff (h : q.Holds items) : q.isFull = true ↔ items.length = q.slots.size := by
  have hfits := h.fits
  rw [isFull, decide_eq_true_iff, h.count]
  omega

/-- As long as a slot is free, an item is appended without any memory being asked for. -/
theorem Holds.push_room (h : q.Holds items) (hroom : q.isFull = false) (granted : Bool) (a : α) :
    ∃ q', (push granted a).runOn q = (.ok (), q') ∧ q'.Holds (items ++ [a]) ∧ q'.capacity = q.capacity ∧
      q'.growth = q.growth := by
  have hlt : items.length < q.slots.size :=
    Nat.lt_of_le_of_ne h.fits fun hfull => Bool.eq_false_iff.mp hroom (h.isFull_iff.mpr hfull)
  refine ⟨q.put a, ?_, h.put hlt a, Array.size_setIfInBounds, rfl⟩
  rw [runOn_push, if_neg (Bool.eq_false_iff.mp hroom)]

/-- A full ring grows if it is granted the memory. -/
theorem Holds.push_grows (h : q.Holds items) (hfull : q.isFull = true) (a : α) :
    ∃ q', (push true a).runOn q = (.ok (), q') ∧ q'.Holds (items ++ [a]) ∧ q'.capacity = q.capacity + q.growth ∧
      q'.growth = q.growth := by
  have hlength := h.isFull_iff.mp hfull
  have hlt : items.length < q.grown.slots.size := by
    rw [size_grown, hlength]
    exact Nat.lt_add_of_pos_right q.growth_pos
  refine ⟨q.grown.put a, ?_, (h.grown hlength).put hlt a, Array.size_setIfInBounds.trans q.size_grown, rfl⟩
  rw [runOn_push, if_pos hfull, if_pos rfl]

/-- An item that a full ring gets no memory for is refused, and the ring is left as it was. -/
theorem push_refused (hfull : q.isFull = true) (a : α) : (push false a).runOn q = (.error .outOfMemory, q) := by
  rw [runOn_push, if_pos hfull, if_neg Bool.false_ne_true]

/-- Appending an item fails only on a full ring that is refused memory. -/
theorem Holds.push (h : q.Holds items) (granted : Bool) (a : α) :
    (∃ q', (push granted a).runOn q = (.ok (), q') ∧ q'.Holds (items ++ [a]) ∧ q'.growth = q.growth) ∨
      ((push granted a).runOn q = (.error .outOfMemory, q) ∧ q.isFull = true ∧ granted = false) := by
  cases hfull : q.isFull with
  | false =>
    obtain ⟨q', hpush, hholds, -, hgrowth⟩ := h.push_room hfull granted a
    exact .inl ⟨q', hpush, hholds, hgrowth⟩
  | true =>
    cases granted with
    | false => exact .inr ⟨push_refused hfull a, rfl, rfl⟩
    | true =>
      obtain ⟨q', hpush, hholds, -, hgrowth⟩ := h.push_grows hfull a
      exact .inl ⟨q', hpush, hholds, hgrowth⟩

theorem Holds.push_granted (h : q.Holds items) (a : α) :
    ∃ q', (Queue.push true a).runOn q = (.ok (), q') ∧ q'.Holds (items ++ [a]) ∧ q'.growth = q.growth := by
  rcases h.push true a with hpushed | ⟨-, -, hgranted⟩
  · exact hpushed
  · cases hgranted

theorem Holds.dropOldest {a : α} (h : q.Holds (a :: items)) : q.dropOldest.Holds items := by
  have hfits := h.fits
  rw [List.length_cons] at hfits
  refine ⟨?_, by simpa [Queue.dropOldest] using Nat.le_of_lt hfits,
    by simpa [Queue.dropOldest] using Nat.mod_lt _ q.slots_pos,
    ?_, fun i b hi => ?_⟩
  · show q.count - 1 = _
    rw [h.count]
    rfl
  · show q.free = ((q.head + 1) % _ + _) % (q.slots.setIfInBounds _ _).size
    rw [Array.size_setIfInBounds, Nat.mod_add_mod, Nat.add_assoc, Nat.add_comm 1, h.free]
    rfl
  · have hlt := (List.getElem?_eq_some_iff.mp hi).1
    show (q.slots.setIfInBounds q.head none)[((q.head + 1) % _ + i) % (q.slots.setIfInBounds _ _).size]? = _
    rw [Array.size_setIfInBounds, Nat.mod_add_mod, Nat.add_assoc, Nat.add_comm 1 i]
    have hne : q.head ≠ (q.head + (i + 1)) % q.slots.size := by
      have := wrap_ne h.head q.slots_pos (show i + 1 < q.slots.size by omega) (by omega)
      rwa [Nat.add_zero, Nat.mod_eq_of_lt h.head] at this
    rw [Array.getElem?_setIfInBounds_ne hne]
    exact h.slots (i + 1) b hi

/-- The oldest item comes off first. -/
theorem Holds.pop_cons {a : α} (h : q.Holds (a :: items)) :
    ∃ q', (pop : QueueAction α α).runOn q = (.ok a, q') ∧ q'.Holds items ∧ q'.capacity = q.capacity ∧
      q'.growth = q.growth := by
  have hsome : q.count ≠ 0 := by
    rw [h.count]
    exact Nat.succ_ne_zero _
  have hhead : q.slots[q.head]? = some (some a) := by
    have := h.slots 0 a rfl
    rwa [slot, Nat.add_zero, Nat.mod_eq_of_lt h.head] at this
  exact ⟨q.dropOldest, runOn_pop hsome hhead, h.dropOldest, Array.size_setIfInBounds, rfl⟩

theorem Holds.pop_nil (h : q.Holds []) : (pop : QueueAction α α).runOn q = (.error .queueEmpty, q) :=
  runOn_pop_empty h.count

theorem Holds.peek? (h : q.Holds items) (i : Nat) : q.peek? i = items[i]? := by
  unfold Queue.peek?
  rw [h.count]
  split
  · rename_i hlt
    rw [h.slots i items[i] (List.getElem?_eq_getElem hlt), List.getElem?_eq_getElem hlt]
    rfl
  · rename_i hlt
    exact (List.getElem?_eq_none (by omega)).symm

theorem filterMap_range_getElem? (items : List α) :
    (List.range items.length).filterMap (fun i => items[i]?) = items := by
  induction items with
  | nil => rfl
  | cons a items ih =>
    rw [List.length_cons, List.range_succ_eq_map, List.filterMap_cons, List.filterMap_map]
    exact congrArg (a :: ·) ih

theorem Holds.toList (h : q.Holds items) : q.toList = items := by
  unfold Queue.toList
  rw [h.count, funext h.peek?]
  exact filterMap_range_getElem? items

theorem Holds.isEmpty (h : q.Holds items) : q.isEmpty = items.isEmpty := by
  unfold Queue.isEmpty
  rw [h.count]
  cases items <;> rfl

end Queue
end Jtag
