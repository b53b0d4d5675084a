import Jtag.Proofs.Chain.Lanes
import Jtag.Proofs.Sim.Path
import Jtag.Proofs.Sim.Pod

/-! A scan of all simulated devices: they capture, their path moves by as many bits as it holds, and they
    latch. The capture comes out as a whole, and every device ends up with its own slice of the bits. -/

namespace Jtag.Sim

open Tap (Column State)
open Jtag.Chain (captureTicks passTicks scanTicks shiftTicks exitTicks enterTicks samples)

variable {column : Column} {devices : List Device} {state : State} {signals : Signals} {exit : Exit}

/-- The devices shift a row of bits, the last one with TMS high if they leave the shift state. The bits that
    leave the path are its first ones, and then the ones shifted in. -/
theorem walk_shiftTicks (htrst : signals.trst = true) (hshows : Shows column devices) (leave : Bool)
    {bits before after : List Bool} (hbits : bits ≠ []) (hsplit : path column devices ++ bits = before ++ after)
    (hlength : before.length = bits.length) (clocks : Nat) (strategy : FlushStrategy) :
    Pod.steady.walk (shiftTicks leave bits) ⟨⟨devices, .scan column .shift, signals, clocks⟩, strategy⟩ =
        ⟨⟨load column devices after, .scan column (if leave then .exit1 else .shift), signals,
          clocks + bits.length⟩, strategy⟩ ∧
      Pod.steady.listen (shiftTicks leave bits) ⟨⟨devices, .scan column .shift, signals, clocks⟩, strategy⟩ =
        before := by
  induction bits generalizing devices before clocks with
  | nil => exact absurd rfl hbits
  | cons bit bits ih =>
    obtain ⟨out, before, rfl⟩ : ∃ out before', before = out :: before' := by
      cases before with
      | nil => exact absurd hlength (Nat.succ_ne_zero _).symm
      | cons out before => exact ⟨out, before, rfl⟩
    obtain ⟨out', shifted, hshifted⟩ := List.exists_cons_of_ne_nil
      (List.append_ne_nil_of_right_ne_nil (path column devices) (List.cons_ne_nil bit []))
    have hall : out' :: (shifted ++ bits) = out :: (before ++ after) := by
      rw [← List.cons_append, ← hshifted, ← List.append_cons, hsplit, List.cons_append]
    obtain ⟨rfl, hrest⟩ := List.cons.inj hall
    have hkept : shifted.length = (path column devices).length := by
      have := congrArg List.length hshifted
      rw [List.length_append] at this
      exact (Nat.succ.inj this).symm
    have htdo := Chain.tdo_shift hshows hshifted signals clocks
    cases bits with
    | nil =>
      obtain rfl : before = [] := List.eq_nil_of_length_eq_zero (Nat.succ.inj hlength)
      obtain rfl : shifted = after := (List.append_nil shifted).symm.trans hrest
      refine ⟨?_, congrArg (· :: []) htdo⟩
      show (⟨Chain.clock _ (leave && true) bit, strategy⟩ : Pod) = _
      rw [Bool.and_true, Chain.clock_shift htrst leave hshifted]
      rfl
    | cons next bits =>
      have hstep : Pod.steady.step ⟨leave && (next :: bits).isEmpty, bit⟩
          ⟨⟨devices, .scan column .shift, signals, clocks⟩, strategy⟩ =
            ⟨⟨load column devices shifted, .scan column .shift, signals, clocks + 1⟩, strategy⟩ := by
        rw [List.isEmpty_cons, Bool.and_false]
        exact congrArg (Pod.mk · strategy) (Chain.clock_shift htrst false hshifted clocks)
      have hpath : path column (load column devices shifted) ++ (next :: bits) = before ++ after := by
        rw [path_load hkept, hrest]
      obtain ⟨hwalk, hlisten⟩ := ih (hshows.load hkept) (List.cons_ne_nil next bits) hpath (Nat.succ.inj hlength)
        (clocks + 1)
      constructor
      · rw [shiftTicks, Steady.walk, hstep, hwalk, load_load hkept, List.length_cons (a := bit), Nat.add_assoc,
          Nat.add_comm 1]
      · rw [shiftTicks, Steady.listen, hstep, hlisten]
        exact congrArg (· :: before) htdo

/-! ### On the way to a scan and from it -/

theorem step_rest (htrst : signals.trst = true) {tms : Bool}
    (hbefore : ∀ devices, Chain.beforeClock state false devices = devices)
    (hafter : ∀ devices, Chain.afterClock (state.next tms) devices = devices) (devices : List Device) (clocks : Nat)
    (strategy : FlushStrategy) :
    Pod.steady.step ⟨tms, false⟩ ⟨⟨devices, state, signals, clocks⟩, strategy⟩ =
      ⟨⟨devices, state.next tms, signals, clocks + 1⟩, strategy⟩ :=
  congrArg (Pod.mk · strategy) (Chain.clock_rest htrst hbefore hafter devices clocks)

/-- From the states in which a capture may start, all ways lead over the first select state. -/
theorem step_select (htrst : signals.trst = true) (hstart : state.canStartCapture = true) (devices : List Device)
    (clocks : Nat) (strategy : FlushStrategy) :
    Pod.steady.step ⟨true, false⟩ ⟨⟨devices, state, signals, clocks⟩, strategy⟩ =
      ⟨⟨devices, .scan .data .select, signals, clocks + 1⟩, strategy⟩ := by
  rcases state with _ | _ | _ | ⟨column, stage⟩ <;> try exact absurd hstart Bool.false_ne_true
  · exact step_rest htrst (fun _ => rfl) (fun _ => rfl) devices clocks strategy
  · cases stage <;> try exact absurd hstart Bool.false_ne_true
    cases column <;> exact step_rest htrst (fun _ => rfl) (fun _ => rfl) devices clocks strategy

/-- The clocks that lead to the capture state of a column change no device. -/
theorem walk_captureTicks (htrst : signals.trst = true) (hstart : state.canStartCapture = true) (column : Column)
    (devices : List Device) (clocks : Nat) (strategy : FlushStrategy) :
    Pod.steady.walk (captureTicks column) ⟨⟨devices, state, signals, clocks⟩, strategy⟩ =
      ⟨⟨devices, .scan column .capture, signals, clocks + (captureTicks column).length⟩, strategy⟩ := by
  have hselect := step_select htrst hstart devices clocks strategy
  cases column with
  | data =>
    show Pod.steady.step ⟨false, false⟩ (Pod.steady.step ⟨true, false⟩ _) = _
    rw [hselect, step_rest htrst (fun _ => rfl) fun _ => rfl]
    rfl
  | instruction =>
    show Pod.steady.step ⟨false, false⟩ (Pod.steady.step ⟨true, false⟩ (Pod.steady.step ⟨true, false⟩ _)) = _
    rw [hselect, step_rest htrst (fun _ => rfl) fun _ => rfl]
    exact step_rest htrst (fun _ => rfl) (fun _ => rfl) devices (clocks + 2) strategy

/-- Where the controllers are after a shift. -/
def restState (column : Column) : Exit → State
  | .shift => .scan column .shift
  | .idle => .runTestIdle
  | .exit1 => .scan column .exit1
  | .update => .scan column .update

/-- The shift ends with the devices latching what they hold. -/
def Latches (exit : Exit) : Prop := exit = .idle ∨ exit = .update

theorem walk_exitTicks (htrst : signals.trst = true) (hexit : Latches exit) (devices : List Device) (clocks : Nat)
    (strategy : FlushStrategy) :
    Pod.steady.walk (exitTicks exit) ⟨⟨devices, .scan column .exit1, signals, clocks⟩, strategy⟩ =
      ⟨⟨devices.map fun d => d.update column, restState column exit, signals, clocks + (exitTicks exit).length⟩,
        strategy⟩ := by
  have hupdate : Pod.steady.step ⟨true, false⟩ ⟨⟨devices, .scan column .exit1, signals, clocks⟩, strategy⟩ =
      ⟨⟨devices.map fun d => d.update column, .scan column .update, signals, clocks + 1⟩, strategy⟩ :=
    congrArg (Pod.mk · strategy) (Chain.clock_update htrst devices false clocks)
  rcases hexit with rfl | rfl
  · show Pod.steady.step ⟨false, false⟩ (Pod.steady.step ⟨true, false⟩ _) = _
    rw [hupdate]
    cases column <;> exact step_rest htrst (fun _ => rfl) (fun _ => rfl) _ (clocks + 1) strategy
  · exact hupdate

/-! ### A whole scan -/

/-- The devices and their controllers behind a scan that shifts `rows` in, one for every device. -/
def Chain.scanned (column : Column) (exit : Exit) (rows : List (List Bool)) (sim : Chain) : Chain :=
  { sim with
    devices := List.zipWith (fun d bits => (d.withRow column bits).update column) sim.devices rows
    state := restState column exit
    clocks := sim.clocks + (scanTicks column (.scan column .capture) rows.flatten exit).length }

/-- What the devices capture, in a row. -/
def capturedPath (column : Column) (devices : List Device) : List Bool := (devices.map (·.captured column)).flatten

variable {rows : List (List Bool)}

theorem path_captured (column : Column) (devices : List Device) :
    path column (devices.map fun d => d.withRow column (d.captured column)) = capturedPath column devices := by
  rw [path, List.map_map, capturedPath]
  exact congrArg List.flatten (List.map_congr_left fun d _ => d.row_withRow column _)

theorem shows_captured (hrows : rows.map List.length = devices.map fun d => (d.captured column).length) (hne : rows ≠ [])
    (hpos : ∀ bits ∈ rows, bits ≠ []) : Shows column (devices.map fun d => d.withRow column (d.captured column)) := by
  obtain ⟨bits, rest, rfl⟩ := List.exists_cons_of_ne_nil hne
  cases devices with
  | nil => exact absurd hrows (List.cons_ne_nil _ _)
  | cons d devices =>
    refine ⟨_, _, rfl, ?_⟩
    rw [Device.row_withRow]
    intro hnil
    have hlength : bits.length = (d.captured column).length := (List.cons.inj hrows).1
    rw [hnil] at hlength
    exact hpos bits List.mem_cons_self (List.eq_nil_of_length_eq_zero hlength)

theorem length_capturedPath (hrows : rows.map List.length = devices.map fun d => (d.captured column).length) :
    (capturedPath column devices).length = rows.flatten.length := by
  rw [capturedPath, List.length_flatten, List.length_flatten, hrows, List.map_map]
  rfl

theorem load_captured (hrows : rows.map List.length = devices.map fun d => (d.captured column).length) :
    load column (devices.map fun d => d.withRow column (d.captured column)) rows.flatten =
      List.zipWith (fun d bits => d.withRow column bits) devices rows := by
  rw [load_flatten, List.zipWith_map_left]
  · simp only [Device.withRow_withRow]
  · rw [hrows, List.map_map]
    exact List.map_congr_left fun d _ => (congrArg List.length (d.row_withRow column _)).symm

/-- The devices behind a scan that pushed `bits` into the path they captured. -/
def pushed (column : Column) (bits : List Bool) (devices : List Device) : List Device :=
  (load column (devices.map fun d => d.withRow column (d.captured column))
    ((capturedPath column devices ++ bits).drop bits.length)).map fun d => d.update column

/-- Bits as many as were captured go to the devices as they are. -/
theorem pushed_flatten (hrows : rows.map List.length = devices.map fun d => (d.captured column).length) :
    pushed column rows.flatten devices =
      List.zipWith (fun d bits => (d.withRow column bits).update column) devices rows := by
  rw [pushed, List.drop_left' (length_capturedPath hrows), load_captured hrows, List.map_zipWith]

/-- The devices capture, and as many bits as are shifted in leave the path: what was captured first, and then
    the bits shifted in. The devices latch the rest. -/
theorem walk_push {sim : Chain} (htrst : sim.signals.trst = true) (hstart : sim.state.canStartCapture = true)
    (hshows : Shows column (sim.devices.map fun d => d.withRow column (d.captured column))) {bits : List Bool}
    (hbits : bits ≠ []) (hexit : Latches exit) (strategy : FlushStrategy) :
    Pod.steady.walk (scanTicks column (.scan column .capture) bits exit) ⟨sim, strategy⟩ =
        ⟨⟨pushed column bits sim.devices, restState column exit, sim.signals,
          sim.clocks + (scanTicks column (.scan column .capture) bits exit).length⟩, strategy⟩ ∧
      samples Pod.steady (.scan column .capture) bits exit (Pod.steady.walk (captureTicks column) ⟨sim, strategy⟩) =
        (capturedPath column sim.devices ++ bits).take bits.length := by
  obtain ⟨devices, state, signals, clocks⟩ := sim
  have hleave : exit.leavesShift = true := by rcases hexit with rfl | rfl <;> rfl
  have hcapture := walk_captureTicks htrst hstart column devices clocks strategy
  have henter : Pod.steady.walk (enterTicks (.scan column .capture))
      ⟨⟨devices, .scan column .capture, signals, clocks + (captureTicks column).length⟩, strategy⟩ =
        ⟨⟨devices.map fun d => d.withRow column (d.captured column), .scan column .shift, signals,
          clocks + (captureTicks column).length + 1⟩, strategy⟩ :=
    congrArg (Pod.mk · strategy) (Chain.clock_capture htrst devices false _)
  have hsplit : path column (devices.map fun d => d.withRow column (d.captured column)) ++ bits =
      (capturedPath column devices ++ bits).take bits.length ++
        (capturedPath column devices ++ bits).drop bits.length := by
    rw [path_captured, List.take_append_drop]
  have hlength : ((capturedPath column devices ++ bits).take bits.length).length = bits.length :=
    List.length_take_of_le (by rw [List.length_append]; omega)
  obtain ⟨hshift, hlisten⟩ := walk_shiftTicks htrst hshows exit.leavesShift hbits hsplit hlength
    (clocks + (captureTicks column).length + 1) strategy
  have hclocks : clocks + (scanTicks column (.scan column .capture) bits exit).length =
      clocks + (captureTicks column).length + 1 + bits.length + (exitTicks exit).length := by
    rw [scanTicks, passTicks, List.length_append, List.length_append, List.length_append,
      Jtag.Chain.length_shiftTicks, show (enterTicks (.scan column .capture)).length = 1 from rfl]
    omega
  constructor
  · rw [hclocks, scanTicks, passTicks, Steady.walk_append, Steady.walk_append, Steady.walk_append, hcapture, henter,
      hshift, hleave, if_pos rfl, walk_exitTicks htrst hexit, pushed]
  · rw [samples, hcapture, henter]
    exact hlisten

/-- The devices capture, hand the capture out as a whole, and latch the row that belongs to each of them. -/
theorem walk_scan {sim : Chain} (htrst : sim.signals.trst = true) (hstart : sim.state.canStartCapture = true)
    (hrows : rows.map List.length = sim.devices.map fun d => (d.captured column).length) (hne : rows ≠ [])
    (hpos : ∀ bits ∈ rows, bits ≠ []) (hexit : Latches exit) (strategy : FlushStrategy) :
    Pod.steady.walk (scanTicks column (.scan column .capture) rows.flatten exit) ⟨sim, strategy⟩ =
        ⟨sim.scanned column exit rows, strategy⟩ ∧
      samples Pod.steady (.scan column .capture) rows.flatten exit
          (Pod.steady.walk (captureTicks column) ⟨sim, strategy⟩) = capturedPath column sim.devices := by
  have hflat : rows.flatten ≠ [] := by
    obtain ⟨bits, rest, rfl⟩ := List.exists_cons_of_ne_nil hne
    exact List.append_ne_nil_of_left_ne_nil (hpos bits List.mem_cons_self) _
  obtain ⟨hwalk, hsamples⟩ := walk_push htrst hstart (shows_captured hrows hne hpos) hflat hexit strategy
  constructor
  · rw [hwalk, pushed_flatten hrows]
    rfl
  · rw [hsamples, List.take_left' (length_capturedPath hrows)]

end Jtag.Sim
