import Jtag.Cable.Signals
import Jtag.Sim.Device
import Jtag.Tap.State

/-!
A simulated chain: devices in a row, the first one closest to TDO, whose controllers see the same
clocks and so are all in the same state.
-/

namespace Jtag.Sim

open Tap (State)

/-- Devices between TDI and TDO. -/
structure Chain where
  devices : List Device
  /-- The state all controllers are in. -/
  state : State
  /-- The levels of the lines. -/
  signals : Signals
  /-- Clocks seen, counting also those that a held reset line makes void. -/
  clocks : Nat
deriving DecidableEq, Repr

namespace Chain

/-- Devices after power-up, with both reset lines released. -/
def new (devices : List Device) : Chain := ⟨devices, .testLogicReset, .resetLines, 0⟩

def reset (c : Chain) : Chain :=
  { c with state := .testLogicReset, devices := c.devices.map Device.reset }

/-- Shift one bit through devices, the last one first; the answer has the bit that leaves the first
one. -/
def shiftThrough (shift : Device → Bool → Device × Bool) : List Device → Bool → List Device × Bool
  | [], tdi => ([], tdi)
  | d :: rest, tdi =>
    let (rest, between) := shiftThrough shift rest tdi
    let (d, tdo) := shift d between
    (d :: rest, tdo)

/-- What the devices do on a clock that finds their controllers in `state`. -/
def beforeClock (state : State) (tdi : Bool) (devices : List Device) : List Device :=
  match state with
  | .scan .data .capture => devices.map Device.captureDr
  | .scan .instruction .capture => devices.map Device.captureIr
  | .scan .data .shift => (shiftThrough Device.shiftDr devices tdi).1
  | .scan .instruction .shift => (shiftThrough Device.shiftIr devices tdi).1
  | _ => devices

/-- What the devices do when a clock takes their controllers to `state`. -/
def afterClock (state : State) (devices : List Device) : List Device :=
  match state with
  | .scan .data .update => devices.map Device.updateDr
  | .scan .instruction .update => devices.map Device.updateIr
  | .testLogicReset => devices.map Device.reset
  | _ => devices

/-- One clock. While the test reset line is held nothing but the count changes. -/
def clock (c : Chain) (tms tdi : Bool) : Chain :=
  if c.signals.trst then
    let state := c.state.next tms
    { c with
      clocks := c.clocks + 1
      state
      devices := afterClock state (beforeClock c.state tdi c.devices) }
  else { c with clocks := c.clocks + 1 }

/-- Clock `count` times with the same levels. -/
def clockTimes (c : Chain) (tms tdi : Bool) : Nat → Chain
  | 0 => c
  | count + 1 => (c.clock tms tdi).clockTimes tms tdi count

/-- The level of TDO: the next bit of the first device while a register is shifted, else low. -/
def tdo (c : Chain) : Bool :=
  match c.state, c.devices with
  | .scan .data .shift, d :: _ => d.drShift.head?.getD false
  | .scan .instruction .shift, d :: _ => d.irShift.head?.getD false
  | _, _ => false

/-- Drive lines. A held test reset line resets the devices. -/
def drive (c : Chain) (mask value : Signals) : Chain :=
  let driven := { c with signals := c.signals.drive mask value }
  if driven.signals.trst then driven else driven.reset

end Chain
end Jtag.Sim
