import Jtag.Cable.Recorder
import Jtag.Proofs.Action.Keeps
import Jtag.Proofs.Cable.Trace

/-! A driver whose calls are written down beside it. It answers and fails like the driver itself, and what led it from
    one state to another can be read off. -/

namespace Jtag

/-- A driver, and the calls it got. -/
structure Watched (σ : Type) where
  driver : σ
  log : List Entry

namespace Watched

variable {σ α : Type}

/-- Pass a call on, and write down what came of it. -/
def note (entry : α → Entry) (act : DriverAction σ α) : DriverAction (Watched σ) α :=
  ExceptT.mk fun w =>
    match act.runOn w.driver with
    | (.ok a, driver) => (.ok a, ⟨driver, w.log ++ [entry a]⟩)
    | (.error e, driver) => (.error e, ⟨driver, w.log ++ [.other]⟩)

instance [Driver σ] : Driver (Watched σ) where
  name w := Driver.name w.driver
  strategy w := Driver.strategy w.driver
  init := note (fun _ => .other) Driver.init
  done := note (fun _ => .other) Driver.done
  setFrequency hz := note (fun _ => .other) (Driver.setFrequency hz)
  clock tms tdi count := note (fun _ => .clock tms tdi count) (Driver.clock tms tdi count)
  sampleTdo := note .sample Driver.sampleTdo
  transfer input capture :=
    note (fun sampled => .transfer input (if capture then sampled else [])) (Driver.transfer input capture)
  setSignals mask value := note (fun _ => .other) (Driver.setSignals mask value)
  sampleSignal lines := note (fun _ => .other) (Driver.sampleSignal lines)
  flush := note (fun _ => .flush) Driver.flush

theorem note_ok_inv {entry : α → Entry} {act : DriverAction σ α} {a : α} {w w' : Watched σ}
    (h : (note entry act).runOn w = (.ok a, w')) :
    act.runOn w.driver = (.ok a, w'.driver) ∧ w'.log = w.log ++ [entry a] := by
  rw [note, Action.runOn_mk] at h
  rcases hact : act.runOn w.driver with ⟨e | a', driver⟩
  · rw [hact] at h
    cases h
  · rw [hact] at h
    cases h
    exact ⟨rfl, rfl⟩

variable [Driver σ]

theorem framed (h : Framed σ) : Framed (Watched σ) :=
  fun input sampled _ _ hrun => h input sampled _ _ (note_ok_inv hrun).1

/-- What leads a watched driver from one state to another is what was written down on the way. -/
theorem log_of_leads {entries : List Entry} {w w' : Watched σ} (h : Leads entries w w') :
    w'.log = w.log ++ entries := by
  induction entries generalizing w with
  | nil =>
    obtain rfl : w = w' := h
    exact (List.append_nil _).symm
  | cons entry entries ih =>
    obtain ⟨v, hdoes, hrest⟩ := h
    have hstep : v.log = w.log ++ [entry] := by
      cases entry with
      | clock tms tdi count => exact (note_ok_inv hdoes).2
      | sample level => exact (note_ok_inv hdoes).2
      | transfer input sampled =>
        rcases hdoes with hwanted | ⟨rfl, answer, hunwanted⟩
        · exact (note_ok_inv hwanted).2
        · exact (note_ok_inv hunwanted).2
      | flush => exact (note_ok_inv hdoes).2
      | other => exact hdoes.elim
    rw [ih hrest, hstep, List.append_assoc, List.singleton_append]

end Watched

/-! ### Transfers of single samples -/

theorem length_transferByBits {σ : Type} {sampleTdo : DriverAction σ Bool} {clock : Bool → Bool → Nat → DriverAction σ Unit}
    {input sampled : List Bool} {s t : σ}
    (h : (Driver.transferByBits sampleTdo clock true input).runOn s = (.ok sampled, t)) :
    sampled.length = input.length := by
  induction input generalizing s sampled with
  | nil =>
    cases h
    rfl
  | cons tdi input ih =>
    obtain ⟨first, s₁, h₁, hrest⟩ := Action.bind_ok_inv h
    obtain ⟨level, s₂, -, hfirst⟩ := Action.bind_ok_inv h₁
    obtain ⟨_, s₃, -, hrest⟩ := Action.bind_ok_inv hrest
    obtain ⟨others, s₄, h₄, hall⟩ := Action.bind_ok_inv hrest
    cases hfirst
    cases hall
    exact congrArg (· + 1) (ih h₄)

theorem Recorder.framed : Framed Recorder := by
  intro input sampled s t hrun
  have hrun : (Recorder.transfer input true).runOn s = (.ok sampled, t) := hrun
  obtain ⟨_, s₁, hget, hrest⟩ := Action.bind_ok_inv hrun
  cases hget
  cases hbitwise : s.bitwise with
  | true =>
    rw [hbitwise] at hrest
    exact length_transferByBits hrest
  | false =>
    rw [hbitwise] at hrest
    obtain ⟨_, s₂, -, hshift⟩ := Action.bind_ok_inv hrest
    exact length_transferByBits hshift

end Jtag
