import Jtag.Proofs.Cable.Noted
import Jtag.Proofs.Chain.Linked
import Jtag.Proofs.Tap.Stretch

/-! The tracked state while the test reset line is driven. As long as the line is released the tracker tells the
    state of the controllers. While it is held they stay in Test-Logic-Reset, but the tracker goes on counting: five
    high clocks in a row tell it a state, which from then on moves with clocks that the controllers do not see. -/

namespace Jtag

open Tap (HighRun State Stretch Tracker)

/-- The clocks since the test reset line changed tell what the tracker knows, and if the line is released also where
    the controllers are. -/
structure Explains (t : Tracker) (sim : Sim.Chain) (levels : List Bool) : Prop where
  tracker : t = Stretch.tracker ⟨sim.signals.trst, levels⟩
  state : sim.state = if sim.signals.trst then State.testLogicReset.after levels else .testLogicReset

namespace Explains

variable {t : Tracker} {sim : Sim.Chain} {levels : List Bool}

theorem clock (h : Explains t sim levels) (tms tdi : Bool) :
    Explains (t.clock tms) (sim.clock tms tdi) (levels ++ [tms]) := by
  have htracker : t.clock tms = Stretch.tracker ⟨sim.signals.trst, levels ++ [tms]⟩ :=
    h.tracker ▸ (Stretch.tracker_see ⟨sim.signals.trst, levels⟩ (.clock tms)).symm
  cases htrst : sim.signals.trst with
  | true =>
    have hclock : (sim.clock tms tdi).signals = sim.signals ∧ (sim.clock tms tdi).state = sim.state.next tms := by
      rw [Sim.Chain.clock, if_pos htrst]
      exact ⟨rfl, rfl⟩
    refine ⟨hclock.1 ▸ htracker, ?_⟩
    rw [hclock.1, hclock.2, h.state, htrst, if_pos rfl, if_pos rfl, State.after_append]
    rfl
  | false =>
    have hclock : (sim.clock tms tdi).signals = sim.signals ∧ (sim.clock tms tdi).state = sim.state := by
      rw [Sim.Chain.clock, if_neg (Bool.eq_false_iff.mp htrst)]
      exact ⟨rfl, rfl⟩
    refine ⟨hclock.1 ▸ htracker, ?_⟩
    rw [hclock.1, hclock.2, h.state, htrst, if_neg Bool.false_ne_true, if_neg Bool.false_ne_true]

theorem signals_drive (sim : Sim.Chain) (mask value : Signals) :
    (sim.drive mask value).signals = sim.signals.drive mask value := by
  unfold Sim.Chain.drive
  dsimp only
  split <;> rfl

theorem state_drive (sim : Sim.Chain) (mask value : Signals) :
    (sim.drive mask value).state = if (sim.signals.drive mask value).trst then sim.state else .testLogicReset := by
  unfold Sim.Chain.drive
  dsimp only
  split <;> rfl

theorem drive (h : Explains t sim levels) (mask value : Signals) :
    let new := sim.signals.drive mask value
    Explains (t.setTrst sim.signals.trst new.trst) (sim.drive mask value) (Noted.afterDrive sim.signals new levels) := by
  intro new
  have hsignals : (sim.drive mask value).signals = new := signals_drive sim mask value
  constructor
  case tracker =>
    have hsee := Stretch.tracker_see ⟨sim.signals.trst, levels⟩ (.trst sim.signals.trst new.trst)
    rw [hsignals, h.tracker]
    refine hsee.symm.trans (congrArg Stretch.tracker ?_)
    rw [Stretch.see, Noted.afterDrive]
    split
    · rename_i hsame
      rw [hsame]
    · rfl
  case state =>
    rw [hsignals, state_drive, h.state, Noted.afterDrive]
    change (if new.trst then _ else _) = _
    cases hnew : new.trst with
    | false => rfl
    | true =>
      cases hold : sim.signals.trst with
      | false => rfl
      | true => rfl

/-- A pulse of the line tells the state, whatever it was before. -/
theorem pulse (sim : Sim.Chain) :
    (sim.drive .trstLine .none).signals.trst = false ∧
      Explains (.ofState .testLogicReset) ((sim.drive .trstLine .none).drive .trstLine .trstLine) [] := by
  obtain ⟨hheld, hreset⟩ := sim.drive_trstLine false
  obtain ⟨hreleased, hstays⟩ := (sim.drive .trstLine .none).drive_trstLine true
  refine ⟨hheld, ?_, ?_⟩
  · exact (congrArg (fun level => Stretch.tracker ⟨level, []⟩) hreleased).symm
  · exact (hstays.trans hreset).trans (if_pos hreleased).symm

/-- As long as the line is released the tracker tells the state of the controllers. -/
theorem released (h : Explains t sim levels) (htrst : sim.signals.trst = true) :
    t.state = sim.state ∧ t.state ≠ .unknown := by
  have hstate : t.state = State.testLogicReset.after levels := by
    rw [h.tracker, Stretch.state_tracker, Stretch.state, if_pos (Or.inl htrst)]
  rw [hstate, h.state, if_pos htrst]
  exact ⟨rfl, State.after_ne_unknown (by decide) levels⟩

/-- While the line is held the tracker counts on. -/
theorem held (h : Explains t sim levels) (htrst : sim.signals.trst = false) :
    sim.state = .testLogicReset ∧
      t.state = if HighRun levels then State.testLogicReset.after levels else .unknown := by
  refine ⟨by rw [h.state, htrst]; rfl, ?_⟩
  rw [h.tracker, Stretch.state_tracker, Stretch.state, htrst]
  simp

end Explains

/-! ### Simulated cables -/

theorem linking_noted : Linking Sim.Pod.steady.noted fun t w => Explains t w.driver.chain w.levels where
  step k h := h.clock k.tms k.tdi
  drive mask value h := h.drive mask value
  sense _ h := h
  settle h := h
  frequency hz _ := ⟨hz, rfl⟩
  pulse w := by
    obtain ⟨hheld, hexplains⟩ := Explains.pulse w.driver.chain
    have hlevel : ((w.driver.chain.drive .trstLine .none).signals.drive .trstLine .trstLine).trst = true :=
      Signals.trst_drive _ true
    -- The rising edge leaves no notes, whatever they were.
    have hrises : ∀ levels, Noted.afterDrive (w.driver.chain.drive .trstLine .none).signals
        ((w.driver.chain.drive .trstLine .none).signals.drive .trstLine .trstLine) levels = [] :=
      fun levels => if_neg (by rw [hheld, hlevel]; decide)
    refine ⟨hheld, ?_⟩
    rw [← hrises (Noted.afterDrive w.driver.chain.signals (w.driver.chain.signals.drive .trstLine .none) w.levels)]
      at hexplains
    exact hexplains

theorem linking_pod : Linking Sim.Pod.steady fun t p => ∃ levels, Explains t p.chain levels where
  step k := fun ⟨_, h⟩ => ⟨_, h.clock k.tms k.tdi⟩
  drive mask value := fun ⟨_, h⟩ => ⟨_, h.drive mask value⟩
  sense _ h := h
  settle h := h
  frequency hz _ := ⟨hz, rfl⟩
  pulse p := ⟨(Explains.pulse p.chain).1, [], (Explains.pulse p.chain).2⟩

namespace Chain

/-- What is known of the controllers behind any run and a flush. With the reset line released it is their state. With
    the line held they are in Test-Logic-Reset, and nothing is known as it should be, unless TMS was high for five
    clocks in a row since the line fell: then a tracker, of whatever sequence of events, takes Test-Logic-Reset for
    known and follows the clocks, which the controllers do not. -/
theorem state_while_held (t : Tracker) (events : List Tracker.Event) (requests : List Request) :
    (let stretch := events.foldl Stretch.see Stretch.lost
     (events.foldl Tracker.see (t.setTrst true false)).state =
        if stretch.told = true ∨ HighRun stretch.levels then State.testLogicReset.after stretch.levels else .unknown) ∧
    (∀ (before c : Chain Sim.Pod) (pod : Sim.Pod) (memory : Memory),
      memory.Grants (max before.config.queue.growth 1) → (Chain.connect pod memory).runOn before = (.ok (), c) →
      ∃ c₁ cable, Chain.flush.runOn ((requestAll requests).runOn c).2 = (.ok (), c₁) ∧ c₁.cable? = some cable ∧
        cable.todo.toList = [] ∧
        let sim := cable.driver.chain
        if sim.signals.trst then c₁.state = sim.state ∧ c₁.state ≠ .unknown else sim.state = .testLogicReset) ∧
    (∀ (before c : Chain (Noted Sim.Pod)) (pod : Noted Sim.Pod) (memory : Memory),
      memory.Grants (max before.config.queue.growth 1) → (Chain.connect pod memory).runOn before = (.ok (), c) →
      ∃ c₁ cable, Chain.flush.runOn ((requestAll requests).runOn c).2 = (.ok (), c₁) ∧ c₁.cable? = some cable ∧
        cable.todo.toList = [] ∧
        let sim := cable.driver.driver.chain
        let levels := cable.driver.levels
        if sim.signals.trst then c₁.state = sim.state ∧ c₁.state ≠ .unknown
        else sim.state = .testLogicReset ∧
          c₁.state = if HighRun levels then State.testLogicReset.after levels else .unknown) := by
  refine ⟨?_, fun before c pod memory hgrowth hconnect => ?_, fun before c pod memory hgrowth hconnect => ?_⟩
  · intro stretch
    have hlast := Stretch.tracker_foldl Stretch.lost events
    exact (congrArg Tracker.state hlast.symm).trans stretch.state_tracker
  · obtain ⟨c₁, cable, hflush, hcable, hnothing, levels, h⟩ := flush_linked linking_pod hgrowth hconnect requests
    refine ⟨c₁, cable, hflush, hcable, hnothing, ?_⟩
    intro sim
    split
    · exact h.released ‹_›
    · exact (h.held (Bool.eq_false_iff.mpr ‹_›)).1
  · obtain ⟨c₁, cable, hflush, hcable, hnothing, h⟩ := flush_linked linking_noted hgrowth hconnect requests
    refine ⟨c₁, cable, hflush, hcable, hnothing, ?_⟩
    intro sim levels
    split
    · exact h.released ‹_›
    · exact h.held (Bool.eq_false_iff.mpr ‹_›)

/-- Five high clocks and a low one while the line is held: Run-Test/Idle is told, and the controllers never left
    Test-Logic-Reset. -/
theorem known_while_held :
    let queue : QueueConfig := { QueueConfig.default with initialCapacity := 4, growth := 4 }
    let pod := Sim.Pod.new [(Sim.Device.new 4).withIdCode ⟨1268778103⟩] .oneByOne
    let connected := (Chain.connect pod .ample).runOn (Chain.new { Config.default with queue })
    let requests : List Request := [.setTrst false, .operation (.clock true false 5), .operation .flush,
      .operation (.clock false false 1)]
    let flushed := Chain.flush.runOn ((requestAll requests).runOn connected.2).2
    connected.1 = .ok () ∧ flushed.1 = .ok () ∧ flushed.2.state = .runTestIdle ∧
      flushed.2.cable?.map (fun cable => (cable.driver.chain.signals.trst, cable.driver.chain.state)) =
        some (false, .testLogicReset) := by
  decide +kernel

end Chain
end Jtag
