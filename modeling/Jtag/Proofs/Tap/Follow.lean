import Mathlib.Logic.Function.Iterate
import Jtag.Proofs.Cable.Steady
import Jtag.Tap.Tracker

/-! A tracker that follows clocks. What it knows stays right as long as the clocks it counts are the
    clocks that the controller sees: the high ones it counted last led from some state to the one it
    tells, and five of them lead to Test-Logic-Reset from everywhere. -/

namespace Jtag.Tap

/-- The clocks of a reset: high ones that lead to Test-Logic-Reset from everywhere, and a low one. -/
def resetTicks : List Tick := List.replicate resetClocks ⟨true, false⟩ ++ [⟨false, false⟩]

namespace Tracker

/-- Follow one clock after the other. -/
def follow (t : Tracker) (ticks : List Tick) : Tracker := ticks.foldl (fun t k => t.clock k.tms) t

@[simp] theorem follow_nil (t : Tracker) : t.follow [] = t := rfl

@[simp] theorem follow_cons (t : Tracker) (k : Tick) (ticks : List Tick) :
    t.follow (k :: ticks) = (t.clock k.tms).follow ticks := rfl

theorem follow_append (t : Tracker) (ticks more : List Tick) :
    t.follow (ticks ++ more) = (t.follow ticks).follow more := List.foldl_append ..

theorem clocks_eq_follow (t : Tracker) (tms tdi : Bool) (count : Nat) :
    t.clocks tms count = t.follow (List.replicate count ⟨tms, tdi⟩) := by
  induction count generalizing t with
  | zero => rfl
  | succ count ih => exact ih (t.clock tms)

theorem clocks_low_eq_follow (t : Tracker) (bits : List Bool) :
    t.clocks false bits.length = t.follow (Tick.lows bits) := by
  induction bits generalizing t with
  | nil => rfl
  | cons bit bits ih => exact ih (t.clock false)

/-! ### Counting high clocks -/

/-- The high clocks counted last lead from some state to the one that the tracker tells. -/
def Consistent (t : Tracker) : Prop := ∃ s, t.state = (State.next true)^[t.high] s

theorem consistent_ofState (s : State) : (ofState s).Consistent := ⟨s, rfl⟩

theorem iterate_next_reset (count : Nat) : (State.next true)^[count] .testLogicReset = .testLogicReset := by
  induction count with
  | zero => rfl
  | succ count ih => exact ih

theorem Consistent.clock {t : Tracker} (h : t.Consistent) (tms : Bool) : (t.clock tms).Consistent := by
  obtain ⟨s, hs⟩ := h
  cases tms with
  | false => exact ⟨_, rfl⟩
  | true =>
    by_cases hfive : resetClocks ≤ t.high + 1
    · refine ⟨.testLogicReset, ?_⟩
      rw [iterate_next_reset]
      exact if_pos hfive
    · refine ⟨s, ?_⟩
      rw [show (t.clock true).high = t.high + 1 from rfl, Function.iterate_succ_apply', ← hs]
      exact if_neg hfive

theorem Consistent.follow {t : Tracker} (h : t.Consistent) (ticks : List Tick) : (t.follow ticks).Consistent := by
  induction ticks generalizing t with
  | nil => exact h
  | cons k ticks ih => exact ih (h.clock k.tms)

/-- Five high clocks reset a controller wherever it is. -/
theorem iterate_next_of_five {s : State} (hs : s ≠ .unknown) (count : Nat) :
    (State.next true)^[5 + count] s = .testLogicReset := by
  rw [Nat.add_comm, Function.iterate_add_apply]
  have hfive : (State.next true)^[5] s = .testLogicReset := by
    rcases s with _ | _ | _ | ⟨column, stage⟩
    · exact absurd rfl hs
    · rfl
    · rfl
    · cases column <;> cases stage <;> rfl
  rw [hfive, iterate_next_reset]

theorem iterate_next_unknown (count : Nat) : (State.next true)^[count] .unknown = .unknown := by
  induction count with
  | zero => rfl
  | succ count ih => exact ih

theorem Consistent.state_clock {t : Tracker} (h : t.Consistent) (hs : t.state ≠ .unknown) (tms : Bool) :
    (t.clock tms).state = t.state.next tms := by
  obtain ⟨s, hs'⟩ := h
  cases tms with
  | false => rfl
  | true =>
    by_cases hfive : resetClocks ≤ t.high + 1
    · have hknown : s ≠ .unknown := by
        rintro rfl
        exact hs (hs'.trans (iterate_next_unknown t.high))
      obtain ⟨count, hcount⟩ := Nat.exists_eq_add_of_le hfive
      have hreset := iterate_next_of_five hknown count
      rw [show 5 + count = t.high + 1 from hcount.symm, Function.iterate_succ_apply', ← hs'] at hreset
      rw [hreset]
      exact if_pos hfive
    · exact if_neg hfive

theorem next_ne_unknown {s : State} (hs : s ≠ .unknown) (tms : Bool) : s.next tms ≠ .unknown := by
  rcases s with _ | _ | _ | ⟨column, stage⟩
  · exact absurd rfl hs
  · cases tms <;> decide
  · cases tms <;> decide
  · cases column <;> cases stage <;> cases tms <;> decide

theorem foldl_ne_unknown {s : State} (hs : s ≠ .unknown) (ticks : List Tick) :
    ticks.foldl (fun s k => s.next k.tms) s ≠ .unknown := by
  induction ticks generalizing s with
  | nil => exact hs
  | cons k ticks ih => exact ih (next_ne_unknown hs k.tms)

/-- A tracker that knows the state goes on to know it. -/
theorem Consistent.state_follow {t : Tracker} (h : t.Consistent) (hs : t.state ≠ .unknown) (ticks : List Tick) :
    (t.follow ticks).state = ticks.foldl (fun s k => s.next k.tms) t.state := by
  induction ticks generalizing t with
  | nil => rfl
  | cons k ticks ih =>
    have hk := h.state_clock hs k.tms
    rw [follow_cons, ih (h.clock k.tms) (hk ▸ next_ne_unknown hs k.tms), hk]
    rfl

/-! ### The reset -/

/-- Behind a reset the tracker knows the state, whatever it knew before. -/
theorem follow_resetTicks (t : Tracker) : t.follow resetTicks = ofState .runTestIdle := by
  have hhigh : resetClocks ≤ t.high + 1 + 1 + 1 + 1 + 1 := Nat.le_add_left ..
  simp [resetTicks, resetClocks, List.replicate, Tracker.clock, Tracker.ofState, State.next]

/-- Behind a reset the controller is in Run-Test/Idle, wherever it was before. -/
theorem foldl_resetTicks {s : State} (hs : s ≠ .unknown) :
    resetTicks.foldl (fun s k => s.next k.tms) s = .runTestIdle := by
  calc
    _ = ((ofState s).follow resetTicks).state := ((consistent_ofState s).state_follow hs resetTicks).symm
    _ = .runTestIdle := by rw [follow_resetTicks, ofState]

end Tracker
end Jtag.Tap
