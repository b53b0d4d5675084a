import Jtag.Proofs.Chain.Follows

/-! The items that a shift asks for: one transfer of the bits that go out with TMS low, as far as the output reaches,
    and a sample before the clock of each other bit that is wanted. What they yield are the levels of TDO before the
    clocks of the bits. -/

namespace Jtag
namespace Chain

open Jtag.Action

/-- The items of bits that go out one clock each, from position `index` on, for an output of `n` bits. -/
def singleItems (n : Nat) (leave : Bool) : Nat → List Bool → List Item
  | _, [] => []
  | index, bit :: rest =>
    (if index < n then [.sampleTdo] else []) ++ .clock (leave && rest.isEmpty) bit 1 :: singleItems n leave (index + 1) rest

/-- The items of clocks without TDI, one each. -/
def levelItems (levels : List Bool) : List Item := levels.map (Item.clock · false 1)

/-- The items of a shift in the shift state for an output of `n` bits. -/
def shiftItems (bits : List Bool) (n : Nat) (exit : Exit) : List Item :=
  let bulk := min (exit.bulk bits.length) n
  .transfer (bits.take bulk) true :: (singleItems n exit.leavesShift bulk (bits.drop bulk) ++ levelItems exit.trailer)

/-- The items that lead from a capture state into the shift state. -/
def enterItems (s : Tap.State) : List Item := if s.isCapture then [.clock false false 1] else []

/-- The items of a shift in the shift state, for its output if it has one. -/
def bitItems (bits : List Bool) (outputLength? : Option Nat) (exit : Exit) : List Item :=
  let bulk := outputLength?.elim (exit.bulk bits.length) (min (exit.bulk bits.length))
  .transfer (bits.take bulk) outputLength?.isSome ::
    (singleItems (outputLength?.getD 0) exit.leavesShift bulk (bits.drop bulk) ++ levelItems exit.trailer)

/-- The items that lead from Run-Test/Idle into the capture state of a column. -/
def captureItems (column : Tap.Column) : List Item := [.clock true false (selectClocks column), .clock false false 1]

/-! ### What they yield -/

variable {samples : List (Nat × Bool)} {n : Nat} {bits : List Bool} {exit : Exit} {outcomes : List Outcome}

theorem yieldsAll_levelItems {levels : List Bool} {start : Nat}
    (h : Item.YieldsAll samples start (levelItems levels) outcomes) : outcomes = [] := by
  induction levels generalizing start outcomes with
  | nil => exact h
  | cons tms levels ih =>
    obtain ⟨own, others, rfl, hown, hothers⟩ := h
    obtain rfl : own = [] := hown
    exact ih hothers

theorem yieldsAll_singleItems {leave : Bool} {index start : Nat} {levels : List Bool}
    (h : Item.YieldsAll samples start (singleItems n leave index bits ++ levelItems levels) outcomes) :
    ∃ values : List Bool, outcomes = values.map .tdo ∧ values.length = min bits.length (n - index) ∧
      ∀ i b, values[i]? = some b → (start + i, b) ∈ samples := by
  induction bits generalizing index start outcomes with
  | nil => exact ⟨[], yieldsAll_levelItems h, (Nat.zero_min _).symm, nofun⟩
  | cons bit bits ih =>
    by_cases hwanted : index < n
    · rw [singleItems, if_pos hwanted] at h
      obtain ⟨own, others, rfl, ⟨level, rfl, hlevel⟩, hothers⟩ := h
      obtain ⟨own', others, rfl, hown', hothers⟩ := hothers
      obtain rfl : own' = [] := hown'
      obtain ⟨values, rfl, hlength, hmem⟩ := ih hothers
      refine ⟨level :: values, rfl, ?_, fun i b hb => ?_⟩
      · rw [List.length_cons, List.length_cons, hlength]
        omega
      · cases i with
        | zero =>
          cases hb
          exact hlevel
        | succ i =>
          rw [show start + (i + 1) = start + 0 + 1 + i by omega]
          exact hmem i b hb
    · -- The output ended before this bit, and so before all that follow.
      rw [singleItems, if_neg hwanted] at h
      obtain ⟨own, others, rfl, hown, hothers⟩ := h
      obtain rfl : own = [] := hown
      obtain ⟨values, hvalues, hlength, -⟩ := ih hothers
      have hnone : n - index = 0 := Nat.sub_eq_zero_of_le (Nat.le_of_not_lt hwanted)
      have hnone' : n - (index + 1) = 0 := Nat.sub_eq_zero_of_le (Nat.le_succ_of_le (Nat.le_of_not_lt hwanted))
      rw [hnone', Nat.min_zero] at hlength
      obtain rfl := List.eq_nil_of_length_eq_zero hlength
      exact ⟨[], hvalues, by rw [hnone, Nat.min_zero]; rfl, nofun⟩

/-- The bits of a transfer and the samples behind it are those before the clocks of the shift. -/
theorem yieldsAll_shiftItems {start : Nat} (h : Item.YieldsAll samples start (shiftItems bits n exit) outcomes) :
    let bulk := min (exit.bulk bits.length) n
    ∃ seen values : List Bool, outcomes = .transfer seen :: values.map .tdo ∧ seen.length = bulk ∧
      values.length = min bits.length n - bulk ∧ (∀ i b, seen[i]? = some b → (start + i, b) ∈ samples) ∧
      ∀ i b, values[i]? = some b → (start + bulk + i, b) ∈ samples := by
  intro bulk
  have hbulk : bulk ≤ bits.length := Nat.le_trans (Nat.min_le_left ..) (bulk_le exit bits.length)
  have hlength : (bits.take bulk).length = bulk := List.length_take_of_le hbulk
  obtain ⟨own, others, rfl, ⟨seen, rfl, hseen, hmem⟩, hothers⟩ := h
  rw [Item.ticks, Tick.length_lows, hlength] at hothers
  obtain ⟨values, rfl, hvalues, hmem'⟩ := yieldsAll_singleItems hothers
  refine ⟨seen, values, rfl, hseen.trans hlength, ?_, hmem, hmem'⟩
  rw [hvalues, List.length_drop]
  omega

/-! ### Asking for them -/

variable {σ : Type} [Driver σ] {c c' : Chain σ} {start : Tap.Tracker} {mark : σ} {items : List Item}
  {left : List Outcome} {outputLength? : Option Nat}

theorem Follows.capture (hframed : Framed σ) (h : c.Follows start mark items left) {column : Tap.Column}
    (hrun : (Chain.capture column).runOn c = (.ok (), c')) :
    c'.Follows start mark (items ++ captureItems column) left := by
  obtain ⟨_, c₁, h₁, hrest⟩ := bind_ok_inv hrun
  obtain ⟨_, c₂, h₂, hrest⟩ := bind_ok_inv hrest
  obtain ⟨_, c₃, h₃, h₄⟩ := bind_ok_inv hrest
  obtain rfl := requireCable_ok_inv h₁
  have hchecked : c₂.Follows start mark items left := by
    unfold Chain.checkCaptureStart at h₂
    rw [runOn_bind_ok (runOn_get c₁)] at h₂
    dsimp only at h₂
    split at h₂
    · cases h₂
      exact h
    · cases h₂
      exact h.same rfl rfl
  have k := (hchecked.deferClock hframed h₃).deferClock hframed h₄
  rwa [List.append_assoc] at k

theorem any_lt_iff {index : Nat} : outputLength?.any (index < ·) = true ↔ index < outputLength?.getD 0 := by
  cases outputLength? <;> simp

theorem Follows.deferSingles (hframed : Framed σ) (h : c.Follows start mark items left) {leave : Bool} {index : Nat}
    (hrun : (Chain.deferSingles outputLength? leave index bits).runOn c = (.ok (), c')) :
    c'.Follows start mark (items ++ singleItems (outputLength?.getD 0) leave index bits) left := by
  induction bits generalizing c items index with
  | nil =>
    cases hrun
    rwa [singleItems, List.append_nil]
  | cons bit bits ih =>
    rw [Chain.deferSingles] at hrun
    by_cases hwanted : index < outputLength?.getD 0
    · rw [if_pos (any_lt_iff.mpr hwanted)] at hrun
      obtain ⟨_, c₁, h₁, hrest⟩ := bind_ok_inv hrun
      obtain ⟨_, c₂, h₂, h₃⟩ := bind_ok_inv hrest
      have k := ih ((h.deferSampleTdo hframed h₁).deferClock hframed h₂) h₃
      rw [singleItems, if_pos hwanted]
      rwa [List.append_assoc, List.append_assoc] at k
    · rw [if_neg (mt any_lt_iff.mp hwanted)] at hrun
      obtain ⟨_, c₂, h₂, h₃⟩ := bind_ok_inv hrun
      have k := ih (h.deferClock hframed h₂) h₃
      rw [singleItems, if_neg hwanted]
      rwa [List.append_assoc] at k

/-- The bits of a shift, `bulk` of them in a transfer and the others one clock each, and the clocks behind them. -/
theorem Follows.deferBits (hframed : Framed σ) (h : c.Follows start mark items left) {bulk : Nat}
    (hbulk : bulk ≤ bits.length) {capture : Bool}
    (hrun : (do
      Chain.onCable (Cable.deferTransfer (bits.take bulk) capture)
      Chain.track (·.clocks false bulk)
      Chain.deferSingles outputLength? exit.leavesShift bulk (bits.drop bulk)
      exit.trailer.forM fun tms => Chain.deferClock tms false 1 : ChainAction σ Unit).runOn c = (.ok (), c')) :
    c'.Follows start mark (items ++ .transfer (bits.take bulk) capture ::
      (singleItems (outputLength?.getD 0) exit.leavesShift bulk (bits.drop bulk) ++ levelItems exit.trailer)) left := by
  obtain ⟨_, c₁, h₁, hrest⟩ := bind_ok_inv hrun
  obtain ⟨_, c₂, h₂, hrest⟩ := bind_ok_inv hrest
  obtain ⟨_, c₃, h₃, h₄⟩ := bind_ok_inv hrest
  have htransfer : (do
      Chain.onCable (Cable.deferTransfer (bits.take bulk) capture)
      Chain.track (·.clocks false (bits.take bulk).length) : ChainAction σ Unit).runOn c = (.ok (), c₂) := by
    rw [List.length_take_of_le hbulk]
    exact (runOn_bind_ok h₁ _).trans h₂
  have k := ((h.deferTransfer hframed htransfer).deferSingles hframed h₃).deferLevels hframed h₄
  rwa [List.append_assoc, List.append_assoc] at k

/-- What a shift asks for, wherever it starts. -/
theorem Follows.deferShift_items (hframed : Framed σ) (h : c.Follows start mark items left) {input : Register}
    (hrun : (Chain.deferShift input outputLength? exit).runOn c = (.ok (), c')) :
    c'.Follows start mark (items ++ (enterItems c.state ++ bitItems input.bits outputLength? exit)) left := by
  obtain ⟨_, c₁, h₁, hrest⟩ := bind_ok_inv hrun
  obtain rfl := requireCable_ok_inv h₁
  rw [runOn_bind_ok (runOn_get c₁)] at hrest
  obtain ⟨c₂, h₂, hrest⟩ := unless_ok_inv hrest
  have k₂ : c₂.Follows start mark items left := by
    split at h₂
    · cases h₂
      exact h
    · cases h₂
      exact h.same rfl rfl
  obtain ⟨c₃, h₃, hrest⟩ := when_ok_inv hrest
  have k₃ : c₃.Follows start mark (items ++ enterItems c₁.state) left := by
    rw [enterItems]
    split at h₃
    · rw [if_pos ‹_›]
      exact k₂.deferClock hframed h₃
    · rw [if_neg ‹_›]
      cases h₃
      rwa [List.append_nil]
  have hbulk := bulk_le exit input.length
  rw [← List.append_assoc]
  cases outputLength? with
  | none => exact k₃.deferBits hframed hbulk hrest
  | some n => exact k₃.deferBits hframed (Nat.le_trans (Nat.min_le_left ..) hbulk) hrest

/-- A shift that starts in a capture state. -/
theorem Follows.deferShift (hframed : Framed σ) (h : c.Follows start mark items left)
    (hcapture : c.state.isCapture = true) {input : Register}
    (hrun : (Chain.deferShift input (some n) exit).runOn c = (.ok (), c')) :
    c'.Follows start mark (items ++ .clock false false 1 :: shiftItems input.bits n exit) left := by
  have k := h.deferShift_items hframed hrun
  rw [enterItems, if_pos hcapture] at k
  exact k

end Chain
end Jtag
