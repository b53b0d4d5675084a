import Jtag.Proofs.Cable.Sound
import Jtag.Proofs.Chain.Drives
import Jtag.Proofs.Chain.Operation

/-! A chain that took over a driver. Whatever its operations do from then on, and however they fail, it stays
    connected and its cable stays sound. -/

namespace Jtag
namespace Chain

open Jtag.Action

section Inversion
variable {σ α β : Type} {c c' : Chain σ} {cable : Cable σ}

theorem onCable_ok_inv {act : CableAction σ α} {a : α} (hcable : c.cable? = some cable)
    (hrun : (Chain.onCable act).runOn c = (.ok a, c')) :
    ∃ cable', act.runOn cable = (.ok a, cable') ∧ c' = { c with cable? := some cable' } := by
  rcases hact : act.runOn cable with ⟨e | a', cable'⟩
  · rw [runOn_onCable hcable hact] at hrun
    cases hrun
  · rw [runOn_onCable hcable hact] at hrun
    cases hrun
    exact ⟨cable', rfl, rfl⟩

/-- With a cable, what fails is a call on it, if what follows the call cannot fail. -/
theorem onCable_error_inv {act : CableAction σ α} {next : α → ChainAction σ β} {e : Error}
    (hnext : ∀ a c, ((next a).runOn c).1.isOk = true) (hcable : c.cable? = some cable)
    (hrun : (Chain.onCable act >>= next).runOn c = (.error e, c')) : ∃ e', e = .cable e' := by
  rcases hact : act.runOn cable with ⟨e' | a, cable'⟩
  · rw [runOn_bind_error (runOn_onCable hcable hact)] at hrun
    cases hrun
    exact ⟨e', rfl⟩
  · rw [runOn_bind_ok (runOn_onCable hcable hact)] at hrun
    have hok := hnext a { c with cable? := some cable' }
    rw [hrun] at hok
    cases hok

theorem requireCable_ok_inv (hrun : Chain.requireCable.runOn c = (.ok (), c')) : c' = c := by
  rw [Chain.requireCable, runOn_bind_ok (runOn_inspect isConnected c)] at hrun
  cases hconnected : c.isConnected with
  | true =>
    rw [hconnected] at hrun
    cases hrun
    rfl
  | false =>
    rw [hconnected] at hrun
    cases hrun

theorem runOn_flush [Driver σ] (hcable : c.cable? = some cable) :
    Chain.flush.runOn c = (Chain.onCable (Cable.flush .completely)).runOn c := by
  have hconnected : c.isConnected = true := by rw [isConnected, hcable]; rfl
  rw [Chain.flush, runOn_bind_ok (runOn_inspect isConnected c), hconnected, if_pos rfl]

theorem disconnect_config [Driver σ] (h : Chain.disconnect.runOn c = (.ok (), c')) : c'.config = c.config := by
  unfold Chain.disconnect at h
  obtain ⟨c₀, c₁, hget, hrest⟩ := bind_ok_inv h
  cases hget
  cases hcable : c.cable? with
  | none =>
    rw [hcable] at hrest
    cases hrest
    rfl
  | some cable =>
    rw [hcable] at hrest
    obtain ⟨_, c₂, hset, hdone⟩ := bind_ok_inv hrest
    cases hset
    obtain ⟨-, rfl⟩ := Prod.mk.inj hdone
    rfl

/-- A connection that succeeded is the reset of a chain with a new cable, of which nothing is known. -/
theorem connect_ok_inv [Driver σ] {driver : σ} {memory : Memory}
    (h : (Chain.connect driver memory).runOn c = (.ok (), c')) :
    ∃ c₁ s, c₁.cable? = some { Cable.new driver c.config.queue memory with driver := s } ∧ c₁.tracker = .fresh ∧
      Chain.trstReset.runOn c₁ = (.ok (), c') := by
  obtain ⟨_, c₀, hdisconnect, hrest⟩ := bind_ok_inv h
  obtain ⟨_, _, hget, hrest⟩ := bind_ok_inv hrest
  cases hget
  rw [disconnect_config hdisconnect] at hrest
  rcases hinit : (Cable.init : CableAction σ Unit).runOn (Cable.new driver c.config.queue memory) with ⟨e | _, cable⟩
  · rw [hinit] at hrest
    obtain ⟨_, _, hset, hthrow⟩ := bind_ok_inv hrest
    cases hthrow
  · rw [hinit] at hrest
    obtain ⟨_, c₁, hset, hreset⟩ := bind_ok_inv hrest
    cases hset
    obtain ⟨s, -, rfl⟩ := Cable.onDriver_ok_inv hinit
    exact ⟨_, s, rfl, rfl, hreset⟩

end Inversion

variable {σ α : Type} {memory : Memory} {growth : Nat} {c : Chain σ}

/-- The chain has a cable, and the cable is sound. -/
def Connected (memory : Memory) (growth : Nat) (c : Chain σ) : Prop := ∃ cable, c.cable? = some cable ∧ cable.Sound memory growth

theorem connected_onCable {act : CableAction σ α} (hact : Always (Cable.Sound memory growth) act) :
    Always (Connected memory growth) (Chain.onCable act) := by
  intro c hc _
  obtain ⟨cable, hcable, hsound⟩ := hc
  rcases hrun : act.runOn cable with ⟨answer, cable'⟩
  have hsound' := hact.holds hsound
  rw [hrun] at hsound'
  rw [runOn_onCable hcable hrun]
  exact ⟨cable', rfl, hsound'⟩

theorem connected_track (f : Tap.Tracker → Tap.Tracker) : Always (Connected memory growth) (Chain.track f : ChainAction σ Unit) :=
  keeps_change fun _ hc => hc

variable [Driver σ]

theorem sound_collectSingles (index n : Nat) :
    Always (fun s : Cable σ × Register => s.1.Sound memory growth) (Chain.collectSingles index n) := by
  induction n generalizing index with
  | zero => exact keeps_pure _
  | succ n ih =>
    refine Keeps.bind (fun s hs _ => Cable.sound_sampleTdoLate.holds hs) fun value => ?_
    exact Keeps.bind (keeps_change fun _ hs => hs) fun _ => ih (index + 1)

theorem sound_collect (inputLength : Nat) (exit : Exit) :
    Always (fun s : Cable σ × Register => s.1.Sound memory growth) (Chain.collect inputLength exit) := by
  refine Keeps.bind (fun s hs _ => Cable.sound_transferLate.holds hs) fun bits => ?_
  exact Keeps.bind (keeps_change fun _ hs => hs) fun _ => keeps_bind_inspect fun _ => sound_collectSingles _ _

theorem connected_setTrst (level : Bool) : Always (Connected memory growth) (Chain.setTrst level : ChainAction σ Bool) :=
  Keeps.bind (connected_onCable (Cable.sound_setSignals _ _)) fun _ =>
    Keeps.bind (connected_track _) fun _ => keeps_pure _

/-- No operation of a connected chain breaks its cable, however the driver fails. -/
theorem preserved_connected : Preserved (fun _ => False) (Connected memory growth : Chain σ → Prop) := by
  have hclock : ∀ tms tdi count, Always (Connected memory growth) (Chain.clock tms tdi count : ChainAction σ Unit) :=
    fun tms tdi count => Keeps.bind (connected_onCable (Cable.sound_clock tms tdi count)) fun _ => connected_track _
  constructor
  case same =>
    rintro c c' ⟨cable, hcable, hsound⟩ hsame _
    exact ⟨cable, hsame.trans hcable, hsound⟩
  case clock => exact hclock
  case deferClock => exact fun _ _ _ => Keeps.bind (connected_onCable (Cable.sound_defer rfl)) fun _ => connected_track _
  case sample => exact connected_onCable (Cable.sound_defer rfl)
  case transfer => exact fun _ _ => Keeps.bind (connected_onCable (Cable.sound_defer rfl)) fun _ => connected_track _
  case flush => exact fun amount => connected_onCable (Cable.sound_flush amount)
  case collect =>
    intro inputLength exit c cable output hc hcable _
    obtain ⟨_, hcable', hsound⟩ := hc
    obtain rfl := Option.some.inj (hcable.symm.trans hcable')
    exact ⟨_, rfl, (sound_collect inputLength exit).holds (s := (cable, output)) hsound⟩
  case trstReset =>
    refine Keeps.bind (connected_setTrst false) fun _ => Keeps.bind (connected_setTrst true) fun _ => ?_
    exact Keeps.bind (hclock _ _ _) fun _ => hclock _ _ _

theorem connect_connected {driver : σ} {before : Chain σ}
    (h : (Chain.connect driver memory).runOn before = (.ok (), c)) :
    c.Connected memory (max before.config.queue.growth 1) := by
  obtain ⟨c₁, s, hcable, -, hreset⟩ := connect_ok_inv h
  have hnew := Cable.sound_new driver before.config.queue memory
  have hsound : c₁.Connected memory (max before.config.queue.growth 1) :=
    ⟨_, hcable, hnew.todo, hnew.finished, hnew.todoGrowth, hnew.finishedGrowth, hnew.memory⟩
  have hconnected := Always.holds preserved_connected.trstReset hsound
  rw [hreset] at hconnected
  exact hconnected

end Chain
end Jtag
