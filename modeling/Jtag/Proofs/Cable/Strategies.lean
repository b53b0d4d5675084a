import Jtag.Proofs.Cable.Stands
import Jtag.Proofs.Sim.Pod

/-! The two flush strategies cannot be told apart from outside. Whatever calls a cable gets, it answers
    each of them as the machine does that has no queue of deferred work. -/

namespace Jtag

/-- A call on a cable. -/
inductive Request where
  | deferClock (tms tdi : Bool) (count : Nat)
  | deferSampleTdo
  | deferTransfer (input : List Bool) (capture : Bool)
  | deferSetSignals (mask value : Signals)
  | deferSampleSignal (lines : Signals)
  | flush (amount : FlushAmount)
  | clock (tms tdi : Bool) (count : Nat)
  | sampleTdo
  | transfer (input : List Bool) (capture : Bool)
  | setSignals (mask value : Signals)
  | sampleSignal (lines : Signals)
  | sampleTdoLate
  | transferLate
  | sampleSignalLate (lines : Signals)
deriving DecidableEq, Repr

/-- What a call answers. -/
inductive Reply where
  | done
  | bit (value : Bool)
  | bits (bits : List Bool)
  | levels (levels : Signals)
deriving DecidableEq, Repr

variable {σ : Type} [Driver σ]

namespace Cable

/-- Serve one call. -/
def serve : Request → CableAction σ Reply
  | .deferClock tms tdi count => do deferClock tms tdi count; return .done
  | .deferSampleTdo => do deferSampleTdo; return .done
  | .deferTransfer input capture => do deferTransfer input capture; return .done
  | .deferSetSignals mask value => do deferSetSignals mask value; return .done
  | .deferSampleSignal lines => do deferSampleSignal lines; return .done
  | .flush amount => do flush amount; return .done
  | .clock tms tdi count => do clock tms tdi count; return .done
  | .sampleTdo => do return .bit (← sampleTdo)
  | .transfer input capture => do return .bits (← transfer input capture)
  | .setSignals mask value => do return .levels (← setSignals mask value)
  | .sampleSignal lines => do return .bit (← sampleSignal lines)
  | .sampleTdoLate => do return .bit (← sampleTdoLate)
  | .transferLate => do return .bits (← transferLate)
  | .sampleSignalLate lines => do return .bit (← sampleSignalLate lines)

/-- Serve one call after the other, whether they fail or not. -/
def serveAll : List Request → Cable σ → List (Except CableError Reply) × Cable σ
  | [], c => ([], c)
  | request :: requests, c =>
    let (answer, c) := (serve request).runOn c
    let (answers, c) := serveAll requests c
    (answer :: answers, c)

end Cable

namespace Steady

variable (d : Steady σ)

/-- Serve one call on the machine: deferred items are executed at once, and the driver sends what it
holds back wherever the call promises that. -/
def serve : Request → Machine σ → Except CableError Reply × Machine σ
  | .deferClock tms tdi count, m => (.ok .done, d.perform (.clock tms tdi count) m)
  | .deferSampleTdo, m => (.ok .done, d.perform .sampleTdo m)
  | .deferTransfer input capture, m => (.ok .done, d.perform (.transfer input capture) m)
  | .deferSetSignals mask value, m => (.ok .done, d.perform (.setSignals mask value) m)
  | .deferSampleSignal lines, m => (.ok .done, d.perform (.sampleSignal lines) m)
  | .flush amount, m => (.ok .done, if amount = .optionally then m else d.send m)
  | .clock tms tdi count, m => (.ok .done, d.send (d.perform (.clock tms tdi count) (d.send m)))
  | .sampleTdo, m => (.ok (.bit (d.tdo (d.send m).driver)), d.send m)
  | .transfer input capture, m =>
    (.ok (.bits (if capture then d.listen (Tick.lows input) (d.send m).driver else [])),
      d.send (d.perform (.transfer input false) (d.send m)))
  | .setSignals mask value, m =>
    let (levels, driver) := d.drive mask value (d.send m).driver
    (.ok (.levels levels), { m with driver })
  | .sampleSignal lines, m =>
    let (value, driver) := d.sense lines (d.send m).driver
    (.ok (.bit value), { m with driver })
  | .sampleTdoLate, m =>
    match m.results with
    | .tdo value :: results => (.ok (.bit value), { d.send m with results })
    | _ :: _ => (.error .queueOutOfSync, { d.send m with results := [] })
    | [] => (.ok (.bit (d.tdo (d.send m).driver)), d.send m)
  | .transferLate, m =>
    match m.results with
    | .transfer bits :: results => (.ok (.bits bits), { d.send m with results })
    | _ :: _ => (.error .queueOutOfSync, { d.send m with results := [] })
    | [] => (.error .queueOutOfSync, d.send m)
  | .sampleSignalLate lines, m =>
    match m.results with
    | .signal sampled value :: results =>
      if sampled = lines then (.ok (.bit value), { d.send m with results })
      else (.error .queueOutOfSync, { d.send m with results := [] })
    | _ :: _ => (.error .queueOutOfSync, { d.send m with results := [] })
    | [] =>
      let (value, driver) := d.sense lines (d.send m).driver
      (.ok (.bit value), { m with driver })

/-- Serve one call after the other. -/
def serveAll : List Request → Machine σ → List (Except CableError Reply) × Machine σ
  | [], m => ([], m)
  | request :: requests, m =>
    let (answer, m) := d.serve request m
    let (answers, m) := serveAll requests m
    (answer :: answers, m)

end Steady

namespace Cable

variable {d : Steady σ} {c : Cable σ} {m : Machine σ}

/-! ### One call -/

omit [Driver σ] in
theorem runOn_reply {α : Type} {act : CableAction σ α} {answer : Except CableError α} {c' : Cable σ}
    (h : act.runOn c = (answer, c')) (reply : α → Reply) :
    (do return reply (← act) : CableAction σ Reply).runOn c = (answer.map reply, c') := by
  rw [Action.runOn_bind, h]
  cases answer <;> rfl

theorem Stands.serve_defer (h : c.Stands d m) (item : Item) :
    ∃ c', (do Cable.defer item; return Reply.done : CableAction σ Reply).runOn c = (.ok .done, c') ∧
      c'.Stands d (d.perform item m) := by
  obtain ⟨c', h', k'⟩ := h.defer item
  exact ⟨c', Action.runOn_bind_ok h' _, k'⟩

theorem Stands.serve_sampleTdoLate (h : c.Stands d m) :
    ∃ c', (Cable.serve .sampleTdoLate).runOn c = ((d.serve .sampleTdoLate m).1, c') ∧
      c'.Stands d (d.serve .sampleTdoLate m).2 := by
  obtain ⟨s, results⟩ := m
  cases results with
  | nil =>
    obtain ⟨c', h', k'⟩ := h.sampleTdoLate_nil
    exact ⟨c', runOn_reply h' .bit, k'.stands⟩
  | cons outcome results =>
    cases outcome with
    | tdo value =>
      obtain ⟨c', h', k'⟩ := h.sampleTdoLate
      exact ⟨c', runOn_reply h' .bit, k'.stands⟩
    | transfer bits =>
      obtain ⟨c', h', k'⟩ := h.sampleTdoLate_of_ne nofun
      exact ⟨c', runOn_reply h' .bit, k'.stands⟩
    | signal lines value =>
      obtain ⟨c', h', k'⟩ := h.sampleTdoLate_of_ne nofun
      exact ⟨c', runOn_reply h' .bit, k'.stands⟩

theorem Stands.serve_transferLate (h : c.Stands d m) :
    ∃ c', (Cable.serve .transferLate).runOn c = ((d.serve .transferLate m).1, c') ∧
      c'.Stands d (d.serve .transferLate m).2 := by
  obtain ⟨s, results⟩ := m
  cases results with
  | nil =>
    obtain ⟨c', h', k'⟩ := h.transferLate_nil
    exact ⟨c', runOn_reply h' .bits, k'.stands⟩
  | cons outcome results =>
    cases outcome with
    | tdo value =>
      obtain ⟨c', h', k'⟩ := h.transferLate_of_ne nofun
      exact ⟨c', runOn_reply h' .bits, k'.stands⟩
    | transfer bits =>
      obtain ⟨c', h', k'⟩ := h.transferLate
      exact ⟨c', runOn_reply h' .bits, k'.stands⟩
    | signal lines value =>
      obtain ⟨c', h', k'⟩ := h.transferLate_of_ne nofun
      exact ⟨c', runOn_reply h' .bits, k'.stands⟩

theorem Stands.serve_sampleSignalLate (h : c.Stands d m) (lines : Signals) :
    ∃ c', (Cable.serve (.sampleSignalLate lines)).runOn c = ((d.serve (.sampleSignalLate lines) m).1, c') ∧
      c'.Stands d (d.serve (.sampleSignalLate lines) m).2 := by
  obtain ⟨s, results⟩ := m
  cases results with
  | nil =>
    obtain ⟨c', h', k'⟩ := h.sampleSignalLate_nil lines
    exact ⟨c', runOn_reply h' .bit, k'.stands⟩
  | cons outcome results =>
    cases outcome with
    | tdo value =>
      obtain ⟨c', h', k'⟩ := h.sampleSignalLate_of_ne nofun
      exact ⟨c', runOn_reply h' .bit, k'.stands⟩
    | transfer bits =>
      obtain ⟨c', h', k'⟩ := h.sampleSignalLate_of_ne nofun
      exact ⟨c', runOn_reply h' .bit, k'.stands⟩
    | signal sampled value =>
      by_cases hlines : sampled = lines
      · subst hlines
        obtain ⟨c', h', k'⟩ := h.sampleSignalLate
        refine ⟨c', (runOn_reply h' .bit).trans ?_, ?_⟩
        · simp only [Steady.serve, ↓reduceIte]
          rfl
        · simp only [Steady.serve, ↓reduceIte]
          exact k'.stands
      · obtain ⟨c', h', k'⟩ := h.sampleSignalLate_of_ne fun _ heq => hlines (Outcome.signal.inj heq).1
        refine ⟨c', (runOn_reply h' .bit).trans ?_, ?_⟩
        · simp only [Steady.serve, if_neg hlines]
          rfl
        · simp only [Steady.serve, if_neg hlines]
          exact k'.stands

theorem Stands.serve (h : c.Stands d m) (request : Request) :
    ∃ c', (Cable.serve request).runOn c = ((d.serve request m).1, c') ∧ c'.Stands d (d.serve request m).2 := by
  cases request with
  | deferClock tms tdi count => exact h.serve_defer (.clock tms tdi count)
  | deferSampleTdo => exact h.serve_defer .sampleTdo
  | deferTransfer input capture => exact h.serve_defer (.transfer input capture)
  | deferSetSignals mask value => exact h.serve_defer (.setSignals mask value)
  | deferSampleSignal lines => exact h.serve_defer (.sampleSignal lines)
  | flush amount =>
    by_cases hamount : amount = .optionally
    · subst hamount
      obtain ⟨c', h', k'⟩ := h.flush_optionally
      exact ⟨c', Action.runOn_bind_ok h' _, k'⟩
    · obtain ⟨c', h', k'⟩ := h.flush amount hamount
      refine ⟨c', Action.runOn_bind_ok h' _, ?_⟩
      rw [Steady.serve, if_neg hamount]
      exact k'.stands
  | clock tms tdi count =>
    obtain ⟨c', h', k'⟩ := h.clock tms tdi count
    exact ⟨c', Action.runOn_bind_ok h' _, k'.stands⟩
  | sampleTdo =>
    obtain ⟨c', h', k'⟩ := h.flushed (d.sampleTdo_eq _)
    exact ⟨c', runOn_reply h' .bit, k'.stands⟩
  | transfer input capture =>
    obtain ⟨c', h', k'⟩ := h.transfer input capture
    exact ⟨c', runOn_reply h' .bits, k'.stands⟩
  | setSignals mask value =>
    obtain ⟨c', h', k'⟩ := h.flushed (d.setSignals_eq mask value _)
    exact ⟨c', runOn_reply h' .levels, k'.stands⟩
  | sampleSignal lines =>
    obtain ⟨c', h', k'⟩ := h.flushed (d.sampleSignal_eq lines _)
    exact ⟨c', runOn_reply h' .bit, k'.stands⟩
  | sampleTdoLate => exact h.serve_sampleTdoLate
  | transferLate => exact h.serve_transferLate
  | sampleSignalLate lines => exact h.serve_sampleSignalLate lines

/-! ### All calls -/

theorem Stands.serveAll (h : c.Stands d m) (requests : List Request) :
    (Cable.serveAll requests c).1 = (d.serveAll requests m).1 ∧
      (Cable.serveAll requests c).2.Stands d (d.serveAll requests m).2 := by
  induction requests generalizing c m with
  | nil => exact ⟨rfl, h⟩
  | cons request requests ih =>
    obtain ⟨c', h', k'⟩ := h.serve request
    obtain ⟨hanswers, hstands⟩ := ih k'
    simp only [Cable.serveAll, Steady.serveAll, h']
    exact ⟨congrArg (_ :: ·) hanswers, hstands⟩

/-- A flush that is not optional leaves the cable empty-handed: nothing to do, and the driver and the
results of the machine. -/
theorem Stands.settled (h : c.Stands d m) {amount : FlushAmount} (hamount : amount ≠ .optionally) :
    ((Cable.flush amount).runOn c).1 = .ok () ∧ ((Cable.flush amount).runOn c).2.todo.toList = [] ∧
      ((Cable.flush amount).runOn c).2.driver = d.settle m.driver ∧
      ((Cable.flush amount).runOn c).2.finished.toList = m.results := by
  obtain ⟨c', h', k'⟩ := h.flush amount hamount
  rw [h']
  exact ⟨rfl, k'.todo.toList, k'.driver, k'.finished.toList⟩

/-- Both strategies answer every call as the machine without a queue does, and a flush that is not
optional leaves both with nothing to do and with the driver and the results of that machine. -/
theorem strategies_agree (d : Steady σ) (driver : σ) (first second : QueueConfig) (memory memory' : Memory)
    (hfirst : memory.Grants (max first.growth 1)) (hsecond : memory'.Grants (max second.growth 1))
    (requests : List Request) :
    let combining := Cable.serveAll requests { Cable.new driver first memory with strategy := .combineTransfers }
    let single := Cable.serveAll requests { Cable.new driver second memory' with strategy := .oneByOne }
    let reference := d.serveAll requests ⟨driver, []⟩
    combining.1 = reference.1 ∧ single.1 = reference.1 ∧
      ∀ amount, amount ≠ .optionally → ∀ cable ∈ [combining.2, single.2],
        ((Cable.flush amount).runOn cable).1 = .ok () ∧
        ((Cable.flush amount).runOn cable).2.todo.toList = [] ∧
        ((Cable.flush amount).runOn cable).2.driver = d.settle reference.2.driver ∧
        ((Cable.flush amount).runOn cable).2.finished.toList = reference.2.results := by
  have hcombining := (stands_new d driver .combineTransfers hfirst).serveAll requests
  have hsingle := (stands_new d driver .oneByOne hsecond).serveAll requests
  refine ⟨hcombining.1, hsingle.1, fun amount hamount cable hcable => ?_⟩
  rcases List.mem_pair.mp hcable with rfl | rfl
  · exact hcombining.2.settled hamount
  · exact hsingle.2.settled hamount

/-- A capture of a two bit instruction register, deferred: the calls that pick its bits up get the
captured value and the first bit that was shifted in behind it. -/
theorem strategies_agree_on_capture :
    let requests := [.deferClock false false 1, .deferClock true false 2, .deferClock false false 2,
      .deferTransfer [true, true] true, .deferSampleTdo, .transferLate, .sampleTdoLate]
    let pod := Sim.Pod.new [Sim.Device.new 2] .oneByOne
    let answers := [.ok .done, .ok .done, .ok .done, .ok .done, .ok .done, .ok (.bits [true, false]),
      .ok (.bit true)]
    (Memory.ample.Grants 1 ∧ Memory.ample.Grants 3) ∧
      (Cable.serveAll requests { Cable.new pod ⟨2, 1, none⟩ .ample with strategy := .combineTransfers }).1 = answers ∧
      (Cable.serveAll requests { Cable.new pod ⟨1, 3, some 2⟩ .ample with strategy := .oneByOne }).1 = answers := by
  intro requests pod answers
  have hfirst : Memory.ample.Grants 1 := Memory.grants_ample 1
  have hsecond : Memory.ample.Grants 3 := Memory.grants_ample 3
  have h := strategies_agree Sim.Pod.steady pod ⟨2, 1, none⟩ ⟨1, 3, some 2⟩ .ample .ample hfirst hsecond requests
  have hreference : (Sim.Pod.steady.serveAll requests ⟨pod, []⟩).1 = answers := by decide
  exact ⟨⟨hfirst, hsecond⟩, h.1.trans hreference, h.2.1.trans hreference⟩

end Cable
end Jtag
