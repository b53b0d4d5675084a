import Jtag.Proofs.Tap.Stretch

/-! A tracker knows the state of its controller exactly when it can. The controller moves with the clocks, a reset
    brings it to Test-Logic-Reset, and where the tracker is told to forget it may be anywhere. Only what came since
    counts: a reset tells the state, and so do five high clocks in a row, wherever the controller was before. -/

namespace Jtag.Tap

theorem State.ne_unknown_of_mem_all {s : State} (h : s ∈ State.all) : s ≠ .unknown := by
  rintro rfl
  exact absurd h (by decide)

/-- Behind five high clocks in a row it does not matter where the controller was before. -/
theorem HighRun.after_eq {levels : List Bool} (h : HighRun levels) {s s' : State} (hs : s ≠ .unknown)
    (hs' : s' ≠ .unknown) : s.after levels = s'.after levels := by
  obtain ⟨front, back, rfl⟩ := h
  rw [State.after_append, State.after_append s', State.after_of_suffix hs (List.suffix_append ..),
    State.after_of_suffix hs' (List.suffix_append ..)]

/-! ### The controller -/

namespace Tracker

/-- How one event moves the controller. -/
inductive Event.Moves : Event → State → State → Prop
  | clock (tms : Bool) (s : State) : Moves (.clock tms) s (s.next tms)
  | reset (s : State) : Moves .reset s .testLogicReset
  /-- The controller may be anywhere. -/
  | forget (s : State) {s' : State} (h : s' ∈ State.all) : Moves .forget s s'

/-- Clocks, resets and losses that lead the controller from `s₀` to a state. -/
inductive Moved (s₀ : State) : List Event → State → Prop
  | start : Moved s₀ [] s₀
  | step {events : List Event} {e : Event} {s s' : State} (h : Moved s₀ events s) (he : e.Moves s s') :
    Moved s₀ (events ++ [e]) s'

/-- Nothing but clocks with these levels of TMS came since the state was lost, or since the beginning. -/
def LostSince (events : List Event) (levels : List Bool) : Prop :=
  ∃ before, events = before ++ levels.map .clock ∧ (before = [] ∨ [.forget] <:+ before)

end Tracker

/-! ### The last stretch -/

namespace Stretch

open Tracker (Event Moved LostSince)

variable {stretch : Stretch} {s₀ s s' : State} {events : List Event} {levels : List Bool}

/-- The controller went through the stretch, from Test-Logic-Reset if the state was told there. -/
def Leads (stretch : Stretch) (s : State) : Prop :=
  ∃ start : State, start ≠ .unknown ∧ (stretch.told = true → start = .testLogicReset) ∧ s = start.after stretch.levels

theorem leads_lost (hs : s ≠ .unknown) : lost.Leads s := ⟨s, hs, nofun, rfl⟩

theorem Leads.see (h : stretch.Leads s) {e : Event} (he : e.Moves s s') : (stretch.see e).Leads s' := by
  cases he with
  | clock tms =>
    obtain ⟨start, hstart, htold, rfl⟩ := h
    exact ⟨start, hstart, htold, (State.after_append start stretch.levels [tms]).symm⟩
  | reset => exact ⟨.testLogicReset, by decide, fun _ => rfl, rfl⟩
  | forget _ hs' => exact leads_lost (State.ne_unknown_of_mem_all hs')

theorem leads_foldl (h₀ : s₀ ≠ .unknown) (h : Moved s₀ events s) : (events.foldl Stretch.see lost).Leads s := by
  induction h with
  | start => exact leads_lost h₀
  | step _ he ih =>
    rw [List.foldl_concat]
    exact ih.see he

theorem state_eq_unknown_iff : stretch.state = .unknown ↔ stretch.told = false ∧ ¬HighRun stretch.levels := by
  rw [← Bool.not_eq_true, ← not_or, state]
  split
  · exact iff_of_false (State.after_ne_unknown (by decide) _) (not_not_intro ‹_›)
  · exact iff_of_true rfl ‹_›

theorem Leads.state_eq (h : stretch.Leads s) (hknown : stretch.state ≠ .unknown) : stretch.state = s := by
  obtain ⟨start, hstart, htold, rfl⟩ := h
  have hwhen : stretch.told = true ∨ HighRun stretch.levels := by
    by_contra hnot
    exact hknown (if_neg hnot)
  rw [state, if_pos hwhen]
  rcases hwhen with h | h
  · rw [htold h]
  · exact h.after_eq (by decide) hstart

theorem foldl_see_clocks (stretch : Stretch) (levels : List Bool) :
    (levels.map Event.clock).foldl see stretch = { stretch with levels := stretch.levels ++ levels } := by
  induction levels generalizing stretch with
  | nil => rw [List.append_nil]; rfl
  | cons tms levels ih =>
    rw [List.map_cons, List.foldl_cons, ih]
    simp [see]

theorem foldl_of_lostSince (h : LostSince events levels) : events.foldl see lost = ⟨false, levels⟩ := by
  obtain ⟨before, rfl, hbefore⟩ := h
  have hlost : before.foldl see lost = lost := by
    rcases hbefore with rfl | ⟨front, rfl⟩
    · rfl
    · exact List.foldl_concat ..
  rw [List.foldl_append, hlost, foldl_see_clocks]
  rfl

theorem lostSince_of_foldl (h : Moved s₀ events s) (hlost : events.foldl see lost = ⟨false, levels⟩) :
    LostSince events levels := by
  induction h generalizing levels with
  | start =>
    obtain rfl : [] = levels := congrArg Stretch.levels hlost
    exact ⟨[], rfl, .inl rfl⟩
  | @step events e s s' _ he ih =>
    rw [List.foldl_concat] at hlost
    cases he with
    | clock tms =>
      have htold : (events.foldl see lost).told = false := congrArg Stretch.told hlost
      obtain rfl : (events.foldl see lost).levels ++ [tms] = levels := congrArg Stretch.levels hlost
      have hsame : events.foldl see lost = ⟨false, (events.foldl see lost).levels⟩ := by rw [← htold]
      obtain ⟨before, hevents, hbefore⟩ := ih hsame
      refine ⟨before, ?_, hbefore⟩
      rw [List.map_append, ← List.append_assoc, ← hevents]
      rfl
    | reset =>
      have htold : true = false := congrArg Stretch.told hlost
      cases htold
    | forget =>
      obtain rfl : [] = levels := congrArg Stretch.levels hlost
      exact ⟨events ++ [.forget], (List.append_nil _).symm, .inr (List.suffix_append ..)⟩

theorem lostSince_iff (h : Moved s₀ events s) : LostSince events levels ↔ events.foldl see lost = ⟨false, levels⟩ :=
  ⟨foldl_of_lostSince, lostSince_of_foldl h⟩

end Stretch

namespace Tracker

variable {s₀ s : State} {events : List Event}

/-- A tracker does not know the state exactly if only clocks came since the state was lost, without five high ones in
    a row. Otherwise it tells the state that the controller is in, wherever that was at the beginning and whenever the
    state was lost. -/
theorem state_eq_unless_lost (h₀ : s₀ ∈ State.all) (h : Moved s₀ events s) :
    let state := (events.foldl see fresh).state
    let lost := ∃ levels, LostSince events levels ∧ ¬HighRun levels
    (state = .unknown ↔ lost) ∧ (¬lost → state = s) := by
  intro state lost
  have hstate : state = (events.foldl Stretch.see .lost).state := by
    rw [← Stretch.state_tracker, Stretch.tracker_foldl]
    rfl
  have hlost : state = .unknown ↔ lost := by
    rw [hstate, Stretch.state_eq_unknown_iff]
    constructor
    · rintro ⟨htold, hrun⟩
      exact ⟨_, (Stretch.lostSince_iff h).mpr (by rw [← htold]), hrun⟩
    · rintro ⟨levels, hsince, hrun⟩
      rw [(Stretch.lostSince_iff h).mp hsince]
      exact ⟨rfl, hrun⟩
  refine ⟨hlost, fun hnot => ?_⟩
  have hknown : state ≠ .unknown := mt hlost.mp hnot
  rw [hstate] at hknown ⊢
  exact (Stretch.leads_foldl (State.ne_unknown_of_mem_all h₀) h).state_eq hknown

/-- The state is lost while the controller pauses, and found again behind five high clocks. -/
theorem state_eq_unless_lost_found :
    let lost := [Event.reset, .clock false, .forget]
    let events := lost ++ (List.replicate 5 (.clock true) ++ [.clock false])
    State.scan .data .shift ∈ State.all ∧ Moved (.scan .data .shift) events .runTestIdle ∧
      (events.foldl see fresh).state = .runTestIdle := by
  intro lost events
  have hstart : State.scan .data .shift ∈ State.all := by decide
  have hlost : Moved (.scan .data .shift) lost (.scan .instruction .pause) :=
    .step (.step (.step .start (.reset _)) (.clock false _)) (.forget _ (by decide))
  have hmoved : Moved (.scan .data .shift) events .runTestIdle :=
    .step (.step (.step (.step (.step (.step hlost (.clock true _)) (.clock true _)) (.clock true _)) (.clock true _))
      (.clock true _)) (.clock false _)
  obtain ⟨hiff, hreal⟩ := state_eq_unless_lost hstart hmoved
  exact ⟨hstart, hmoved, hreal (mt hiff.mpr (by decide))⟩

end Tracker
end Jtag.Tap
