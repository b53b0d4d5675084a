import Jtag.Proofs.Chain.ShiftItems
import Jtag.Proofs.Chain.Tape

/-! The clocks of a shift, and where they find the controller. From the capture and the shift state of a column
    just the bits of the register are clocked in the shift state. From its second exit state it takes the clock of
    the first bit to get there, and that bit is lost. -/

namespace Jtag
namespace Chain

/-! ### The clocks of its items -/

section Items

variable {exit : Exit} {bits : List Bool}

theorem ticks_enterItems (s : Tap.State) : (enterItems s).flatMap Item.ticks = enterTicks s := by
  rw [enterItems, enterTicks]
  split <;> rfl

theorem ticks_singleItems (n : Nat) (leave : Bool) (index : Nat) (bits : List Bool) :
    (singleItems n leave index bits).flatMap Item.ticks = shiftTicks leave bits := by
  induction bits generalizing index with
  | nil => rfl
  | cons bit bits ih =>
    rw [singleItems, List.flatMap_append, List.flatMap_cons, ih, shiftTicks]
    split <;> rfl

theorem ticks_bitItems (hbits : bits ≠ []) (outputLength? : Option Nat) :
    (bitItems bits outputLength? exit).flatMap Item.ticks = shiftTicks exit.leavesShift bits ++ exitTicks exit := by
  have hbulk : outputLength?.elim (exit.bulk bits.length) (min (exit.bulk bits.length)) ≤ exit.bulk bits.length := by
    cases outputLength? with
    | none => exact Nat.le_refl _
    | some n => exact Nat.min_le_left ..
  have htrailer : (levelItems exit.trailer).flatMap Item.ticks = exitTicks exit := by cases exit <;> rfl
  rw [bitItems, List.flatMap_cons, List.flatMap_append, ticks_singleItems, htrailer, shiftTicks_eq_bulk hbits hbulk,
    List.append_assoc]
  rfl

theorem Follows.deferShift_ticks {σ : Type} [Driver σ] {c c' : Chain σ} {start : Tap.Tracker} {mark : σ}
    {items : List Item} {left : List Outcome} {outputLength? : Option Nat} (hframed : Framed σ)
    (h : c.Follows start mark items left) {input : Register}
    (hrun : (Chain.deferShift input outputLength? exit).runOn c = (.ok (), c')) :
    ∃ new, new.flatMap Item.ticks = passTicks c.state input.bits exit ∧ c'.Follows start mark (items ++ new) left := by
  refine ⟨_, ?_, h.deferShift_items hframed hrun⟩
  rw [List.flatMap_append, ticks_enterItems, ticks_bitItems input.bits_ne_nil, passTicks, List.append_assoc]

end Items

/-! ### Where they find the controller -/

/-- The state that clocks lead a controller to. -/
def reached (s : Tap.State) (ticks : List Tick) : Tap.State := ticks.foldl (fun s k => s.next k.tms) s

/-- The levels of TDI at the clocks that find a controller in the shift state of a column. -/
def shiftedIn (column : Tap.Column) : Tap.State → List Tick → List Bool
  | _, [] => []
  | s, k :: ticks => (if s = .scan column .shift then [k.tdi] else []) ++ shiftedIn column (s.next k.tms) ticks

/-- Where a shift of one bit ends that starts in the second exit state, from where its clock leads past the shift
    state. -/
def missedState (column : Tap.Column) : Exit → Tap.State
  | .shift => .scan column .shift
  | .exit1 => .scan column .update
  | .update => .scan .data .select
  | .idle => .scan .data .capture

variable {column : Tap.Column} {stage : Tap.Stage} {bits : List Bool}

theorem reached_append (s : Tap.State) (ticks more : List Tick) :
    reached s (ticks ++ more) = reached (reached s ticks) more := List.foldl_append

theorem shiftedIn_append (column : Tap.Column) (s : Tap.State) (ticks more : List Tick) :
    shiftedIn column s (ticks ++ more) = shiftedIn column s ticks ++ shiftedIn column (reached s ticks) more := by
  induction ticks generalizing s with
  | nil => rfl
  | cons k ticks ih =>
    rw [List.cons_append, shiftedIn, ih, shiftedIn, List.append_assoc]
    rfl

/-- In the shift state every clock shifts its bit in, also the one that leaves it. -/
theorem shiftTicks_in_shift (column : Tap.Column) (leave : Bool) {bits : List Bool} (hbits : bits ≠ []) :
    shiftedIn column (.scan column .shift) (shiftTicks leave bits) = bits ∧
      reached (.scan column .shift) (shiftTicks leave bits) = .scan column (if leave then .exit1 else .shift) := by
  induction bits with
  | nil => exact absurd rfl hbits
  | cons bit bits ih =>
    cases bits with
    | nil => cases column <;> cases leave <;> exact ⟨rfl, rfl⟩
    | cons next bits =>
      obtain ⟨hshifted, hreached⟩ := ih (List.cons_ne_nil next bits)
      have hstay : (Tap.State.scan column .shift).next (leave && (next :: bits).isEmpty) = .scan column .shift := by
        rw [List.isEmpty_cons, Bool.and_false]
        cases column <;> rfl
      constructor
      · rw [shiftTicks, shiftedIn, if_pos rfl, hstay, hshifted]
        rfl
      · show reached ((Tap.State.scan column .shift).next _) (shiftTicks leave (next :: bits)) = _
        rw [hstay, hreached]

theorem exitTicks_behind_shift (column : Tap.Column) (exit : Exit) :
    shiftedIn column (.scan column (if exit.leavesShift then .exit1 else .shift)) (exitTicks exit) = [] ∧
      reached (.scan column (if exit.leavesShift then .exit1 else .shift)) (exitTicks exit) =
        Sim.restState column exit := by
  cases column <;> cases exit <;> exact ⟨rfl, rfl⟩

/-- The bits and the clocks behind them, from the shift state on. -/
theorem bits_in_shift (column : Tap.Column) (exit : Exit) {bits : List Bool} (hbits : bits ≠ []) :
    let ticks := shiftTicks exit.leavesShift bits ++ exitTicks exit
    shiftedIn column (.scan column .shift) ticks = bits ∧
      reached (.scan column .shift) ticks = Sim.restState column exit := by
  intro ticks
  obtain ⟨hshifted, hreached⟩ := shiftTicks_in_shift column exit.leavesShift hbits
  obtain ⟨hnone, hrest⟩ := exitTicks_behind_shift column exit
  rw [shiftedIn_append, reached_append, hshifted, hreached, hnone, hrest, List.append_nil]
  exact ⟨rfl, rfl⟩

/-- From the second exit state the clock of the first bit leads into the shift state, or past it if there are no
    more bits to stay for. -/
theorem bits_in_exit2 (column : Tap.Column) (exit : Exit) {bits : List Bool} (hbits : bits ≠ []) :
    let ticks := shiftTicks exit.leavesShift bits ++ exitTicks exit
    shiftedIn column (.scan column .exit2) ticks = bits.tail ∧
      reached (.scan column .exit2) ticks =
        if bits.length = 1 then missedState column exit else Sim.restState column exit := by
  obtain ⟨bit, bits, rfl⟩ := List.exists_cons_of_ne_nil hbits
  cases bits with
  | nil => cases column <;> cases exit <;> exact ⟨rfl, rfl⟩
  | cons next bits =>
    have henter : (Tap.State.scan column .exit2).next (exit.leavesShift && (next :: bits).isEmpty) =
        .scan column .shift := by
      rw [List.isEmpty_cons, Bool.and_false]
      cases column <;> rfl
    obtain ⟨hshifted, hreached⟩ := bits_in_shift column exit (List.cons_ne_nil next bits)
    constructor
    · rw [shiftTicks, List.cons_append, shiftedIn, henter, hshifted, if_neg (by cases column <;> decide)]
      rfl
    · show reached ((Tap.State.scan column .exit2).next _) (shiftTicks _ (next :: bits) ++ exitTicks exit) = _
      rw [henter, hreached, if_neg (by simp)]

theorem passTicks_from (hshift : (Tap.State.scan column stage).isShift = true) (exit : Exit) (hbits : bits ≠ []) :
    let ticks := passTicks (.scan column stage) bits exit
    shiftedIn column (.scan column stage) ticks = (if stage = .exit2 then bits.tail else bits) ∧
      reached (.scan column stage) ticks =
        if stage = .exit2 ∧ bits.length = 1 then missedState column exit else Sim.restState column exit := by
  intro ticks
  obtain ⟨hshifted, hreached⟩ := bits_in_shift column exit hbits
  cases stage <;> try exact absurd hshift Bool.false_ne_true
  case capture =>
    have henter : (Tap.State.scan column .capture).next false = .scan column .shift := by cases column <;> rfl
    have hticks : ticks = ⟨false, false⟩ :: (shiftTicks exit.leavesShift bits ++ exitTicks exit) := rfl
    rw [hticks]
    constructor
    · rw [shiftedIn, henter, hshifted, if_neg (by cases column <;> decide)]
      rfl
    · show reached ((Tap.State.scan column .capture).next false) _ = _
      rw [henter, hreached, if_neg (by simp)]
  case shift =>
    exact ⟨hshifted, hreached.trans (if_neg (by simp)).symm⟩
  case exit2 =>
    obtain ⟨hmissed, hlanded⟩ := bits_in_exit2 column exit hbits
    refine ⟨hmissed, hlanded.trans ?_⟩
    simp only [true_and]

/-! ### The whole shift -/

section Shift

variable {σ : Type} [Driver σ] {c : Chain σ} {start : Tap.Tracker} {mark : σ} {items : List Item} {left : List Outcome}

/-- What a shift asks for from a state in which holding TMS low shifts: from the capture and the shift state just
    its bits are shifted in, in their order, and it ends as asked, but from the second exit state the first bit is
    missed, and a single one leads elsewhere if the shift state is to be left. This is so for all drivers whenever
    the shift succeeds, and it does for drivers that never fail. -/
theorem deferShift_clocks (h : c.Follows start mark items left) (hconsistent : c.tracker.Consistent)
    (hstate : c.state = .scan column stage) (hshift : c.state.isShift = true) (input : Register)
    (outputLength? : Option Nat) (exit : Exit) :
    let landed := if stage = .exit2 ∧ input.length = 1 then missedState column exit else Sim.restState column exit
    (∀ c', Framed σ → (deferShift input outputLength? exit).runOn c = (.ok (), c') →
      ∃ new, c'.Follows start mark (items ++ new) left ∧
        shiftedIn column c.state (new.flatMap Item.ticks) = (if stage = .exit2 then input.bits.tail else input.bits) ∧
        reached c.state (new.flatMap Item.ticks) = landed ∧ c'.state = landed) ∧
    ∀ (d : Steady σ) m, c.Drives d c.tracker c.parts m →
      ∃ c', (deferShift input outputLength? exit).runOn c = (.ok (), c') := by
  intro landed
  constructor
  · intro c' hframed hrun
    obtain ⟨new, hticks, k⟩ := h.deferShift_ticks hframed hrun
    rw [hstate] at hshift hticks
    obtain ⟨hshifted, hreached⟩ := passTicks_from hshift exit input.bits_ne_nil
    have hknown : c.tracker.state ≠ .unknown := fun hunknown => by
      rw [show c.tracker.state = _ from hstate] at hunknown
      cases hunknown
    have htracker : c'.tracker = c.tracker.follow (new.flatMap Item.ticks) := by
      rw [k.tracker, List.flatMap_append, Tap.Tracker.follow_append, ← h.tracker]
    refine ⟨new, k, ?_, ?_, ?_⟩
    · rw [hticks, hstate, hshifted]
    · rw [hticks, hstate, hreached]
      rfl
    · rw [Chain.state, htracker, hconsistent.state_follow hknown, hticks]
      exact (congrArg (reached · _) hstate).trans hreached
  · intro d m hdrives
    obtain ⟨c', hrun, -⟩ := hdrives.deferShift input outputLength? exit
    exact ⟨c', hrun⟩

end Shift

/-- Two bits from the capture state, leaving for Exit1. -/
theorem deferShift_clocks_two :
    let sim : Sim.Chain := ⟨[Sim.Device.new 4], .scan .data .capture, .resetLines, 0⟩
    let input : Register := ⟨[true, false], by decide⟩
    ∃ (c c' : Chain Sim.Pod) (new : List Item), c.Faces sim ∧
      (deferShift input (some 1) .exit1).runOn c = (.ok (), c') ∧ c'.Follows c.tracker ⟨sim, .oneByOne⟩ new [] ∧
      shiftedIn .data sim.state (new.flatMap Item.ticks) = [true, false] ∧ c'.state = .scan .data .exit1 := by
  intro sim input
  let c : Chain Sim.Pod :=
    { Chain.new Config.default with
      cable? := some (Cable.new ⟨sim, .oneByOne⟩ QueueConfig.default .ample)
      tracker := .ofState sim.state }
  have hfaces : c.Faces sim := faces_new Config.default sim .oneByOne
  have hfollows : c.Follows c.tracker ⟨sim, .oneByOne⟩ [] [] :=
    ⟨⟨_, rfl, Cable.asked_start (Queue.holds_withCapacity ..) (Queue.holds_withCapacity ..) nofun⟩, rfl⟩
  obtain ⟨hasked, hsteady⟩ := deferShift_clocks hfollows hfaces.consistent rfl rfl input (some 1) .exit1
  obtain ⟨strategy, hdrives⟩ := hfaces.drives
  obtain ⟨c', hrun⟩ := hsteady Sim.Pod.steady _ hdrives
  obtain ⟨new, hnew, hshifted, -, hstate⟩ := hasked c' Sim.Pod.steady.framed hrun
  exact ⟨c, c', new, hfaces, hrun, hnew, hshifted, hstate⟩

/-- One bit from the second exit state, on the way to Run-Test/Idle: the controller ends in a capture state, and
    has shifted nothing. -/
theorem deferShift_misses_one :
    let sim : Sim.Chain := ⟨[Sim.Device.new 4], .scan .data .exit2, .resetLines, 0⟩
    let input : Register := ⟨[true], by decide⟩
    let ticks : List Tick := [⟨true, true⟩, ⟨true, false⟩, ⟨false, false⟩]
    ∃ c c' : Chain Sim.Pod, c.Faces sim ∧ c.state.isShift = true ∧
      (deferShift input none .idle).runOn c = (.ok (), c') ∧
      c'.Faces ⟨sim.devices, .scan .data .capture, sim.signals, ticks.length⟩ ∧
      c'.tracker = c.tracker.follow ticks ∧ shiftedIn .data sim.state ticks = [] := by
  intro sim input ticks
  let c : Chain Sim.Pod :=
    { Chain.new Config.default with
      cable? := some (Cable.new ⟨sim, .oneByOne⟩ QueueConfig.default .ample)
      tracker := .ofState sim.state }
  have hfaces : c.Faces sim := faces_new Config.default sim .oneByOne
  have hdrives : c.Drives Sim.Pod.steady c.tracker c.parts ⟨⟨sim, .oneByOne⟩, []⟩ :=
    ⟨⟨_, rfl, Cable.stands_new Sim.Pod.steady _ .oneByOne (Memory.grants_ample _)⟩, rfl, rfl⟩
  have hwalk : Sim.Pod.steady.walk ticks ⟨sim, .oneByOne⟩ =
      ⟨⟨sim.devices, .scan .data .capture, sim.signals, ticks.length⟩, .oneByOne⟩ :=
    congrArg (Sim.Pod.mk · .oneByOne) (by decide)
  obtain ⟨c', hrun, hdrives'⟩ := hdrives.deferShift input none .idle
  have hticks : passTicks c.tracker.state input.bits .idle = ticks := rfl
  rw [hticks, hwalk] at hdrives'
  exact ⟨c, c', hfaces, rfl, hrun, hfaces.follow nofun (by decide) hwalk hdrives', hdrives'.tracker, rfl⟩

end Chain
end Jtag
