import Jtag.Proofs.Cable.Asked
import Jtag.Proofs.Chain.Connected
import Jtag.Proofs.Chain.Shift

/-! What a chain asks its cable for. Every operation that succeeds asks for items behind those that were asked for
    before, and the tracker follows their clocks, whatever part of them is executed meanwhile. -/

namespace Jtag
namespace Chain

open Jtag.Action

variable {σ : Type} [Driver σ] {c c' : Chain σ} {start : Tap.Tracker} {mark : σ} {items : List Item} {item : Item}
  {left : List Outcome}

/-- Behind `mark` the chain asked for `items`, and its tracker followed their clocks from `start` on. -/
structure Follows (c : Chain σ) (start : Tap.Tracker) (mark : σ) (items : List Item) (left : List Outcome) : Prop where
  cable : ∃ cable, c.cable? = some cable ∧ cable.Asked mark items left
  tracker : c.tracker = start.follow (items.flatMap Item.ticks)

theorem Follows.same (h : c.Follows start mark items left) (hcable : c'.cable? = c.cable?)
    (htracker : c'.tracker = c.tracker) : c'.Follows start mark items left :=
  ⟨hcable ▸ h.cable, htracker.trans h.tracker⟩

/-! ### Deferring -/

theorem Follows.onDefer (hframed : Framed σ) (h : c.Follows start mark items left) (hitem : item.plain = true)
    (hrun : (Chain.onCable (Cable.defer item)).runOn c = (.ok (), c')) :
    (∃ cable, c'.cable? = some cable ∧ cable.Asked mark (items ++ [item]) left) ∧ c'.tracker = c.tracker := by
  obtain ⟨cable, hcable, hasked⟩ := h.cable
  obtain ⟨cable', hdefer, rfl⟩ := onCable_ok_inv hcable hrun
  exact ⟨⟨cable', rfl, hasked.defer hframed hitem hdefer⟩, rfl⟩

theorem Follows.defer (hframed : Framed σ) (h : c.Follows start mark items left) (hitem : item.plain = true)
    {f : Tap.Tracker → Tap.Tracker} (hf : ∀ t, f t = t.follow item.ticks)
    (hrun : (do Chain.onCable (Cable.defer item); Chain.track f : ChainAction σ Unit).runOn c = (.ok (), c')) :
    c'.Follows start mark (items ++ [item]) left := by
  obtain ⟨_, c₁, h₁, h₂⟩ := bind_ok_inv hrun
  obtain ⟨hcable, htracker⟩ := h.onDefer hframed hitem h₁
  cases h₂
  refine ⟨hcable, ?_⟩
  show f c₁.tracker = _
  rw [hf, htracker, h.tracker, List.flatMap_append, List.flatMap_singleton, Tap.Tracker.follow_append]

theorem Follows.deferClock (hframed : Framed σ) (h : c.Follows start mark items left) {tms tdi : Bool} {count : Nat}
    (hrun : (Chain.deferClock tms tdi count).runOn c = (.ok (), c')) :
    c'.Follows start mark (items ++ [.clock tms tdi count]) left :=
  h.defer hframed rfl (fun t => t.clocks_eq_follow tms tdi count) hrun

theorem Follows.deferTransfer (hframed : Framed σ) (h : c.Follows start mark items left) {bits : List Bool}
    {capture : Bool}
    (hrun : (do Chain.onCable (Cable.deferTransfer bits capture); Chain.track (·.clocks false bits.length) :
      ChainAction σ Unit).runOn c = (.ok (), c')) :
    c'.Follows start mark (items ++ [.transfer bits capture]) left :=
  h.defer hframed rfl (fun t => t.clocks_low_eq_follow bits) hrun

theorem Follows.deferSampleTdo (hframed : Framed σ) (h : c.Follows start mark items left)
    (hrun : (Chain.onCable Cable.deferSampleTdo).runOn c = (.ok (), c')) :
    c'.Follows start mark (items ++ [.sampleTdo]) left := by
  obtain ⟨hcable, htracker⟩ := h.onDefer hframed rfl hrun
  refine ⟨hcable, ?_⟩
  rw [htracker, h.tracker, List.flatMap_append]
  exact congrArg start.follow (List.append_nil _).symm

/-- Clocks that go out at once leave nothing to wait. -/
theorem clock_ok_inv (hframed : Framed σ) {cable : Cable σ} (hcable : c.cable? = some cable)
    (h : cable.Asked mark items left) {tms tdi : Bool} {count : Nat}
    (hrun : (Chain.clock tms tdi count).runOn c = (.ok (), c')) :
    ∃ cable' outcomes, c'.cable? = some cable' ∧ cable'.Ran mark (items ++ [.clock tms tdi count]) [] left outcomes ∧
      c'.tracker = c.tracker.follow (List.replicate count ⟨tms, tdi⟩) := by
  obtain ⟨_, c₁, h₁, h₂⟩ := bind_ok_inv hrun
  obtain ⟨cable', hclock, rfl⟩ := onCable_ok_inv hcable h₁
  obtain ⟨outcomes, hran⟩ := h.clock hframed hclock
  cases h₂
  exact ⟨cable', outcomes, rfl, hran, c.tracker.clocks_eq_follow tms tdi count⟩

theorem Follows.flush (hframed : Framed σ) (h : c.Follows start mark items left) {amount : FlushAmount}
    (hrun : (Chain.onCable (Cable.flush amount)).runOn c = (.ok (), c')) : c'.Follows start mark items left := by
  obtain ⟨cable, hcable, hasked⟩ := h.cable
  obtain ⟨cable', hflush, rfl⟩ := onCable_ok_inv hcable hrun
  exact ⟨⟨cable', rfl, hasked.flush hframed hflush⟩, h.tracker⟩

theorem Follows.deferLevels (hframed : Framed σ) (h : c.Follows start mark items left) {levels : List Bool}
    (hrun : (levels.forM fun tms => Chain.deferClock tms false 1).runOn c = (.ok (), c')) :
    c'.Follows start mark (items ++ levels.map (Item.clock · false 1)) left := by
  induction levels generalizing c items with
  | nil =>
    cases hrun
    rwa [List.map_nil, List.append_nil]
  | cons tms levels ih =>
    obtain ⟨_, c₁, h₁, h₂⟩ := bind_ok_inv hrun
    have k := ih (h.deferClock hframed h₁) h₂
    rwa [List.append_assoc] at k

/-! ### Picking up results -/

section Collect
variable {cable cable' : Cable σ} {outcomes held : List Outcome} {output output' : Register}

theorem set?_getD {r : Register} {index : Nat} (h : index < r.length) (value : Bool) :
    ((r.set? index value).getD r).bits = r.bits.set index value := by
  obtain ⟨r', hset, hbits⟩ := r.set?_of_lt h value
  rw [hset]
  exact hbits

/-- Single samples are picked up from the oldest result on, into one position after the other. Behind the end of the
    results TDO is sampled instead. -/
theorem collectSingles_ok_inv (hframed : Framed σ) {index n : Nat} (h : cable.Drained mark items outcomes held)
    (hfits : index + n ≤ output.length)
    (hrun : (Chain.collectSingles index n).runOn (cable, output) = (.ok (), cable', output')) :
    ∃ values : List Bool, values.length = n ∧ held.take n = (values.take held.length).map .tdo ∧
      cable'.Drained mark items outcomes (held.drop n) ∧ output'.length = output.length ∧
      ∀ k, output'.bits[k]? = if k < index then output.bits[k]? else (values[k - index]?).or output.bits[k]? := by
  induction n generalizing cable output index held with
  | zero =>
    cases hrun
    exact ⟨[], rfl, by rw [List.take_nil]; rfl, h, rfl, fun k => by split <;> rfl⟩
  | succ n ih =>
    obtain ⟨level, s₁, h₁, hrest⟩ := bind_ok_inv hrun
    obtain ⟨_, s₂, h₂, h₃⟩ := bind_ok_inv hrest
    rcases hlate : Cable.sampleTdoLate.runOn cable with ⟨answer, cable₁⟩
    rw [runOn_within, hlate] at h₁
    cases h₁
    cases h₂
    -- The sample is the oldest result, or the results had ended before.
    obtain ⟨held', hheld, k₁⟩ := h.sampleTdoLate_ok hframed hlate
    have hbits := set?_getD (show index < output.length by omega) level
    have hlength : ((output.set? index level).getD output).length = output.length := by
      rw [Register.length, hbits, List.length_set, Register.length]
    obtain ⟨values, hvalues, htake, k₂, hlength₂, hget⟩ := ih k₁ (by rw [hlength]; omega) h₃
    refine ⟨level :: values, congrArg (· + 1) hvalues, ?_, ?_, hlength₂.trans hlength, fun k => ?_⟩
    · rcases hheld with rfl | ⟨rfl, -⟩
      · rw [List.take_succ_cons, htake]
        rfl
      · rfl
    · rcases hheld with rfl | ⟨rfl, rfl⟩
      · exact k₂
      · rwa [List.drop_nil] at k₂ ⊢
    · rw [hget k, hbits]
      rcases Nat.lt_trichotomy k index with hlt | rfl | hgt
      · rw [if_pos (Nat.lt_succ_of_lt hlt), if_pos hlt, List.getElem?_set_ne (Nat.ne_of_gt hlt)]
      · rw [if_pos (Nat.lt_succ_self k), if_neg (Nat.lt_irrefl k), Nat.sub_self,
          List.getElem?_set_self (show k < output.length by omega)]
        rfl
      · obtain ⟨rest, rfl⟩ := Nat.exists_eq_add_of_lt hgt
        rw [if_neg (by omega), if_neg (by omega), List.getElem?_set_ne (by omega),
          show index + rest + 1 - index = rest + 1 by omega, show index + rest + 1 - (index + 1) = rest by omega]
        rfl

/-- The first results that are picked up are the bits of a transfer, and samples follow. -/
theorem collect_ok_inv (hframed : Framed σ) {inputLength : Nat} {exit : Exit} (h : cable.Asked mark items left)
    (hrun : (Chain.collect inputLength exit).runOn (cable, output) = (.ok (), cable', output')) :
    let bulk := min (exit.bulk inputLength) output.length
    let count := min inputLength output.length - bulk
    ∃ (outcomes : List Outcome) (bits : List Bool) (held : List Outcome) (values : List Bool),
      left ++ outcomes = .transfer bits :: held ∧ values.length = count ∧
      held.take count = (values.take held.length).map .tdo ∧ cable'.Drained mark items outcomes (held.drop count) ∧
      output'.length = output.length ∧ ∀ k, output'.bits[k]? =
        if k < bulk then (output.overlay bits).bits[k]? else (values[k - bulk]?).or (output.overlay bits).bits[k]? := by
  intro bulk count
  obtain ⟨bits, s₁, h₁, hrest⟩ := bind_ok_inv hrun
  obtain ⟨_, s₂, h₂, hrest⟩ := bind_ok_inv hrest
  obtain ⟨length, s₃, h₃, h₄⟩ := bind_ok_inv hrest
  rcases hlate : Cable.transferLate.runOn cable with ⟨answer, cable₁⟩
  rw [runOn_within, hlate] at h₁
  cases h₁
  cases h₂
  cases h₃
  obtain ⟨outcomes, held, hresults, k₁⟩ := h.transferLate_ok hframed hlate
  have hlength : (output.overlay bits).length = output.length := output.length_overlay bits
  dsimp only at h₄
  rw [hlength] at h₄
  have hbulk : bulk ≤ output.length := Nat.min_le_right ..
  obtain ⟨values, hvalues, htake, k₂, hlength₂, hget⟩ :=
    collectSingles_ok_inv hframed k₁ (show bulk + count ≤ _ by rw [hlength]; omega) h₄
  exact ⟨outcomes, bits, held, values, hresults, hvalues, htake, k₂, hlength₂.trans hlength, hget⟩

end Collect

end Chain
end Jtag
