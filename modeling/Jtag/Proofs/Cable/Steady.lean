import Mathlib.Logic.Function.Iterate
import Jtag.Cable.Driver

/-! Drivers that never fail, and the machine that a cable in front of such a driver stands for. The
    driver moves by single clocks, a sample of TDO only observes, and a transfer is made of both. The
    machine has no queue of deferred work: it executes an item at once and appends what the item
    yields to a plain list. -/

namespace Jtag

/-- The levels of TMS and TDI during one clock. -/
structure Tick where
  tms : Bool
  tdi : Bool
deriving DecidableEq, Repr

namespace Tick

/-- The clocks of a transfer: TMS stays low, and TDI has one bit after the other. -/
def lows (bits : List Bool) : List Tick := bits.map (Tick.mk false)

@[simp] theorem length_lows (bits : List Bool) : (lows bits).length = bits.length := List.length_map ..

theorem lows_append (bits more : List Bool) : lows (bits ++ more) = lows bits ++ lows more := List.map_append ..

theorem lows_replicate (count : Nat) (tdi : Bool) :
    lows (List.replicate count tdi) = List.replicate count ⟨false, tdi⟩ :=
  List.map_replicate ..

end Tick

/-- What the calls of a driver that never fails do to its state. -/
structure Steady (σ : Type) [Driver σ] where
  /-- One clock. -/
  step : Tick → σ → σ
  /-- The level of TDO. -/
  tdo : σ → Bool
  drive : Signals → Signals → σ → Signals × σ
  sense : Signals → σ → Bool × σ
  /-- Sending what the driver holds back. -/
  settle : σ → σ
  clock_eq : ∀ tms tdi count s, (Driver.clock tms tdi count).runOn s = (.ok (), (step ⟨tms, tdi⟩)^[count] s)
  sampleTdo_eq : ∀ s, Driver.sampleTdo.runOn s = (.ok (tdo s), s)
  transfer_eq : ∀ input capture, (Driver.transfer input capture : DriverAction σ (List Bool)) =
    Driver.transferByBits Driver.sampleTdo Driver.clock capture input
  setSignals_eq : ∀ mask value s,
    (Driver.setSignals mask value).runOn s = (.ok (drive mask value s).1, (drive mask value s).2)
  sampleSignal_eq : ∀ lines s, (Driver.sampleSignal lines).runOn s = (.ok (sense lines s).1, (sense lines s).2)
  flush_eq : ∀ s, Driver.flush.runOn s = (.ok (), settle s)

/-- A driver together with the results nobody picked up yet, oldest first. -/
structure Machine (σ : Type) where
  driver : σ
  results : List Outcome

namespace Steady

variable {σ : Type} [Driver σ] (d : Steady σ)

/-- One clock after the other. -/
def walk : List Tick → σ → σ
  | [], s => s
  | k :: ticks, s => walk ticks (d.step k s)

/-- The level of TDO before each clock. -/
def listen : List Tick → σ → List Bool
  | [], _ => []
  | k :: ticks, s => d.tdo s :: listen ticks (d.step k s)

theorem walk_append (ticks more : List Tick) (s : σ) : d.walk (ticks ++ more) s = d.walk more (d.walk ticks s) := by
  induction ticks generalizing s with
  | nil => rfl
  | cons k ticks ih => exact ih (d.step k s)

theorem listen_append (ticks more : List Tick) (s : σ) :
    d.listen (ticks ++ more) s = d.listen ticks s ++ d.listen more (d.walk ticks s) := by
  induction ticks generalizing s with
  | nil => rfl
  | cons k ticks ih => exact congrArg (d.tdo s :: ·) (ih (d.step k s))

@[simp] theorem length_listen (ticks : List Tick) (s : σ) : (d.listen ticks s).length = ticks.length := by
  induction ticks generalizing s with
  | nil => rfl
  | cons k ticks ih => exact congrArg (· + 1) (ih (d.step k s))

theorem walk_replicate (count : Nat) (k : Tick) (s : σ) : d.walk (List.replicate count k) s = (d.step k)^[count] s := by
  induction count generalizing s with
  | zero => rfl
  | succ count ih => exact ih (d.step k s)

theorem runOn_clock (tms tdi : Bool) (count : Nat) (s : σ) :
    (Driver.clock tms tdi count).runOn s = (.ok (), d.walk (List.replicate count ⟨tms, tdi⟩) s) := by
  rw [d.clock_eq, walk_replicate]

/-- A transfer clocks its bits with TMS low, and its samples are the levels of TDO before the clocks. -/
theorem runOn_transfer (input : List Bool) (capture : Bool) (s : σ) :
    (Driver.transfer input capture).runOn s =
      (.ok (if capture then d.listen (Tick.lows input) s else []), d.walk (Tick.lows input) s) := by
  rw [d.transfer_eq]
  induction input generalizing s with
  | nil => cases capture <;> rfl
  | cons tdi input ih =>
    cases capture with
    | false =>
      simp only [Driver.transferByBits, Bool.false_eq_true, ↓reduceIte, pure_bind, List.nil_append]
      rw [Action.runOn_bind_ok (d.runOn_clock false tdi 1 s), Action.runOn_bind_ok (ih _)]
      rfl
    | true =>
      have hs : (do return [← Driver.sampleTdo] : DriverAction σ (List Bool)).runOn s = (.ok [d.tdo s], s) := by
        rw [Action.runOn_bind_ok (d.sampleTdo_eq s)]
        rfl
      simp only [Driver.transferByBits, ↓reduceIte]
      rw [Action.runOn_bind_ok hs, Action.runOn_bind_ok (d.runOn_clock false tdi 1 s), Action.runOn_bind_ok (ih _)]
      rfl

/-! ### The machine -/

/-- Execute an item at once. -/
def perform : Item → Machine σ → Machine σ
  | .clock tms tdi count, m => { m with driver := d.walk (List.replicate count ⟨tms, tdi⟩) m.driver }
  | .sampleTdo, m => { m with results := m.results ++ [.tdo (d.tdo m.driver)] }
  | .transfer input capture, m =>
    { driver := d.walk (Tick.lows input) m.driver
      results := m.results ++ if capture then [.transfer (d.listen (Tick.lows input) m.driver)] else [] }
  | .setSignals mask value, m => { m with driver := (d.drive mask value m.driver).2 }
  | .sampleSignal lines, m =>
    let (value, driver) := d.sense lines m.driver
    { driver, results := m.results ++ [.signal lines value] }

/-- Execute one item after the other. -/
def performAll : List Item → Machine σ → Machine σ
  | [], m => m
  | item :: items, m => performAll items (d.perform item m)

theorem performAll_append (items more : List Item) (m : Machine σ) :
    d.performAll (items ++ more) m = d.performAll more (d.performAll items m) := by
  induction items generalizing m with
  | nil => rfl
  | cons item items ih => exact ih (d.perform item m)

/-- Items only add results behind those that are there. -/
theorem results_performAll (items : List Item) (m : Machine σ) :
    ∃ more, (d.performAll items m).results = m.results ++ more := by
  induction items generalizing m with
  | nil => exact ⟨[], (List.append_nil _).symm⟩
  | cons item items ih =>
    obtain ⟨own, hown⟩ : ∃ own, (d.perform item m).results = m.results ++ own := by
      cases item with
      | clock | setSignals => exact ⟨[], (List.append_nil _).symm⟩
      | sampleTdo | transfer | sampleSignal => exact ⟨_, rfl⟩
    obtain ⟨more, hmore⟩ := ih (d.perform item m)
    exact ⟨own ++ more, by rw [performAll, hmore, hown, List.append_assoc]⟩

end Steady
end Jtag
