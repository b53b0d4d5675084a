import Mathlib.Data.List.Infix
import Jtag.Proofs.Tap.Follow

/-! What a tracker makes of a stretch of clocks. Whatever a tracker saw, only the clocks count that came since its
    state was told or lost last. Behind a point at which it was lost the state becomes known with five high clocks
    in a row, and with nothing else. -/

namespace Jtag.Tap

/-- Where clocks with these levels of TMS lead. -/
def State.after (s : State) (levels : List Bool) : State := levels.foldl (fun s tms => s.next tms) s

/-- Somewhere TMS is high for as many clocks in a row as reset every controller. -/
def HighRun (levels : List Bool) : Prop := List.replicate resetClocks true <:+: levels

instance : DecidablePred HighRun := fun levels =>
  inferInstanceAs (Decidable (List.replicate resetClocks true <:+: levels))

namespace State

variable {s : State}

theorem after_append (s : State) (levels more : List Bool) : s.after (levels ++ more) = (s.after levels).after more :=
  List.foldl_append ..

theorem after_ne_unknown (hs : s ≠ .unknown) (levels : List Bool) : s.after levels ≠ .unknown := by
  induction levels generalizing s with
  | nil => exact hs
  | cons tms levels ih => exact ih (Tracker.next_ne_unknown hs tms)

theorem after_replicate_high (s : State) (count : Nat) :
    s.after (List.replicate count true) = (State.next true)^[count] s := by
  induction count generalizing s with
  | zero => rfl
  | succ count ih => exact ih (s.next true)

/-- High clocks that reset every controller, right before the end. -/
theorem after_of_suffix (hs : s ≠ .unknown) {levels : List Bool} (h : List.replicate resetClocks true <:+ levels) :
    s.after levels = .testLogicReset := by
  obtain ⟨front, rfl⟩ := h
  rw [after_append, after_replicate_high]
  exact Tracker.iterate_next_of_five (after_ne_unknown hs front) 0

end State

theorem highRun_concat (levels : List Bool) (tms : Bool) :
    HighRun (levels ++ [tms]) ↔ List.replicate resetClocks true <:+ levels ++ [tms] ∨ HighRun levels :=
  List.infix_concat_iff

namespace Tracker

def clocked (t : Tracker) (levels : List Bool) : Tracker := levels.foldl clock t

theorem clocked_concat (t : Tracker) (levels : List Bool) (tms : Bool) :
    t.clocked (levels ++ [tms]) = (t.clocked levels).clock tms := List.foldl_concat ..

theorem clocked_eq_follow (t : Tracker) (levels : List Bool) :
    t.clocked levels = t.follow (levels.map (⟨·, false⟩)) := by
  rw [follow, List.foldl_map]
  rfl

theorem state_clocked_ofState {s : State} (hs : s ≠ .unknown) (levels : List Bool) :
    ((ofState s).clocked levels).state = s.after levels := by
  rw [clocked_eq_follow, (consistent_ofState s).state_follow hs, List.foldl_map]
  rfl

/-- What is counted are the high clocks at the end. -/
theorem replicate_suffix_clocked (levels : List Bool) (count : Nat) :
    List.replicate count true <:+ levels ↔ count ≤ (fresh.clocked levels).high := by
  induction levels using List.reverseRecOn generalizing count with
  | nil => rw [List.suffix_nil, List.replicate_eq_nil_iff]; exact Nat.le_zero.symm
  | append_singleton levels tms ih =>
    rw [clocked_concat]
    cases count with
    | zero => simp
    | succ count =>
      rw [List.replicate_succ', List.suffix_concat_iff]
      cases tms with
      | false => simp [clock]
      | true => simp [clock, ih]

/-- A tracker that knew nothing knows the state behind five high clocks in a row, and only then. -/
theorem state_clocked_fresh (levels : List Bool) :
    (fresh.clocked levels).state = if HighRun levels then State.testLogicReset.after levels else .unknown := by
  induction levels using List.reverseRecOn with
  | nil => rfl
  | append_singleton levels tms ih =>
    have hcount := replicate_suffix_clocked (levels ++ [tms]) resetClocks
    have hstate : (fresh.clocked (levels ++ [tms])).state =
        if resetClocks ≤ (fresh.clocked (levels ++ [tms])).high then .testLogicReset
        else (fresh.clocked levels).state.next tms := by
      rw [clocked_concat]
      rfl
    rw [hstate]
    -- The last clock completes a run, or what came before decides.
    by_cases hlast : List.replicate resetClocks true <:+ levels ++ [tms]
    · rw [if_pos (hcount.mp hlast), if_pos ((highRun_concat levels tms).mpr (.inl hlast)),
        State.after_of_suffix (by decide) hlast]
    · have hsame : HighRun (levels ++ [tms]) ↔ HighRun levels := (highRun_concat levels tms).trans (or_iff_right hlast)
      rw [if_neg (mt hcount.mpr hlast), ih]
      simp only [hsame, State.after_append]
      split <;> rfl

/-! ### Events -/

inductive Event where
  | clock (tms : Bool)
  | reset
  | forget
  /-- The reset line went from one level to another, high being released. -/
  | trst (old new : Bool)
deriving DecidableEq, Repr

def see (t : Tracker) : Event → Tracker
  | .clock tms => t.clock tms
  | .reset => t.reset
  | .forget => t.forget
  | .trst old new => t.setTrst old new

end Tracker

/-- The clocks since the state was told, as Test-Logic-Reset, or lost. -/
structure Stretch where
  told : Bool
  levels : List Bool
deriving DecidableEq, Repr

namespace Stretch

def lost : Stretch := ⟨false, []⟩

def see (s : Stretch) : Tracker.Event → Stretch
  | .clock tms => { s with levels := s.levels ++ [tms] }
  | .reset => ⟨true, []⟩
  | .forget => lost
  | .trst old new => if old = new then s else ⟨new, []⟩

def tracker (s : Stretch) : Tracker :=
  (if s.told then Tracker.ofState .testLogicReset else Tracker.fresh).clocked s.levels

def state (s : Stretch) : State :=
  if s.told = true ∨ HighRun s.levels then State.testLogicReset.after s.levels else .unknown

theorem state_tracker (s : Stretch) : s.tracker.state = s.state := by
  obtain ⟨told, levels⟩ := s
  cases told with
  | true => exact (Tracker.state_clocked_ofState (by decide) levels).trans (if_pos (Or.inl rfl)).symm
  | false =>
    refine (Tracker.state_clocked_fresh levels).trans ?_
    simp [state]

theorem tracker_see (s : Stretch) (e : Tracker.Event) : (s.see e).tracker = s.tracker.see e := by
  cases e with
  | clock tms => exact Tracker.clocked_concat ..
  | reset => rfl
  | forget => rfl
  | trst old new =>
    by_cases hsame : old = new
    · rw [see, if_pos hsame, Tracker.see, Tracker.setTrst, if_pos hsame]
    · rw [see, if_neg hsame, Tracker.see, Tracker.setTrst, if_neg hsame]
      cases new <;> rfl

/-- A tracker makes of all it is told what it makes of the last stretch. -/
theorem tracker_foldl (s : Stretch) (events : List Tracker.Event) :
    (events.foldl see s).tracker = events.foldl Tracker.see s.tracker := by
  induction events generalizing s with
  | nil => rfl
  | cons e events ih => rw [List.foldl_cons, List.foldl_cons, ih, tracker_see]

end Stretch
end Jtag.Tap
