import Jtag.Proofs.Cable.Ran

/-! What no operation of a cable breaks, however its driver fails: both rings hold lists, and what waits to be done
    are plain items. -/

namespace Jtag
namespace Cable

open Jtag.Action

section Rings
variable {σ α : Type} {memory : Memory} {growth : Nat}

/-- Both rings hold lists and grow by `growth`, if they get the memory that is granted as `memory` tells; the items
    that wait are plain ones. -/
structure Sound (memory : Memory) (growth : Nat) (c : Cable σ) : Prop where
  todo : ∃ items, c.todo.Holds items ∧ ∀ i ∈ items, i.plain = true
  finished : ∃ results, c.finished.Holds results
  todoGrowth : c.todo.growth = growth
  finishedGrowth : c.finished.growth = growth
  memory : c.memory.grants = memory.grants

theorem sound_new [Driver σ] (driver : σ) (config : QueueConfig) (memory : Memory) :
    (Cable.new driver config memory).Sound memory (max config.growth 1) :=
  ⟨⟨[], Queue.holds_withCapacity .., nofun⟩, ⟨[], Queue.holds_withCapacity ..⟩, rfl, rfl, rfl⟩

theorem sound_onDriver (act : DriverAction σ α) : Always (Sound memory growth) (Cable.onDriver act) :=
  fun _ hc _ => ⟨hc.todo, hc.finished, hc.todoGrowth, hc.finishedGrowth, hc.memory⟩

theorem sound_popItem : Always (Sound memory growth) (Cable.popItem : CableAction σ Item) := by
  intro c hc _
  obtain ⟨items, hholds, hplain⟩ := hc.todo
  rw [runOn_popItem]
  cases items with
  | nil =>
    rw [hholds.pop_nil]
    exact hc
  | cons item items =>
    obtain ⟨todo, hpop, hholds, -, hgrowth⟩ := hholds.pop_cons
    rw [hpop]
    exact ⟨⟨items, hholds, fun i hi => hplain i (List.mem_cons_of_mem _ hi)⟩, hc.finished, hgrowth.trans hc.todoGrowth,
      hc.finishedGrowth, hc.memory⟩

theorem sound_pushItem {item : Item} (hitem : item.plain = true) :
    Always (Sound memory growth) (Cable.pushItem item : CableAction σ Unit) := by
  intro c hc _
  obtain ⟨items, hholds, hplain⟩ := hc.todo
  rw [runOn_pushItem]
  have hmemory := (c.memory.grants_ask c.todo.isFull c.todo.growth).trans hc.memory
  rcases hholds.push (c.memory.ask c.todo.isFull c.todo.growth).1 item with ⟨todo, hpush, hholds, hgrowth⟩ | ⟨hpush, -, -⟩
  · simp only [hpush]
    refine ⟨⟨_, hholds, fun i hi => ?_⟩, hc.finished, hgrowth.trans hc.todoGrowth, hc.finishedGrowth, hmemory⟩
    rcases List.mem_append.mp hi with hi | hi
    · exact hplain i hi
    · exact List.mem_singleton.mp hi ▸ hitem
  · simp only [hpush]
    exact ⟨hc.todo, hc.finished, hc.todoGrowth, hc.finishedGrowth, hmemory⟩

theorem sound_popOutcome : Always (Sound memory growth) (Cable.popOutcome : CableAction σ Outcome) := by
  intro c hc _
  obtain ⟨results, hholds⟩ := hc.finished
  rw [runOn_popOutcome]
  cases results with
  | nil =>
    rw [hholds.pop_nil]
    exact hc
  | cons outcome results =>
    obtain ⟨finished, hpop, hholds, -, hgrowth⟩ := hholds.pop_cons
    rw [hpop]
    exact ⟨hc.todo, ⟨results, hholds⟩, hc.todoGrowth, hgrowth.trans hc.finishedGrowth, hc.memory⟩

theorem sound_pushOutcome (outcome : Outcome) : Always (Sound memory growth) (Cable.pushOutcome outcome : CableAction σ Unit) := by
  intro c hc _
  obtain ⟨results, hholds⟩ := hc.finished
  rw [runOn_pushOutcome]
  have hmemory := (c.memory.grants_ask c.finished.isFull c.finished.growth).trans hc.memory
  rcases hholds.push (c.memory.ask c.finished.isFull c.finished.growth).1 outcome with
    ⟨finished, hpush, hholds, hgrowth⟩ | ⟨hpush, -, -⟩
  · simp only [hpush]
    exact ⟨hc.todo, ⟨_, hholds⟩, hc.todoGrowth, hgrowth.trans hc.finishedGrowth, hmemory⟩
  · simp only [hpush]
    exact ⟨hc.todo, hc.finished, hc.todoGrowth, hc.finishedGrowth, hmemory⟩

theorem sound_outOfSync : Always (Sound memory growth) (Cable.outOfSync : CableAction σ α) :=
  Keeps.bind
    (keeps_change fun c hc => ⟨hc.todo, ⟨[], c.finished.holds_purge⟩, hc.todoGrowth, hc.finishedGrowth, hc.memory⟩)
    fun _ => keeps_throw _

end Rings

variable {σ : Type} [Driver σ] {memory : Memory} {growth : Nat}

/-! ### Executing -/

theorem sound_execute (item : Item) : Always (Sound memory growth) (Cable.execute item : CableAction σ Unit) := by
  cases item with
  | clock tms tdi count => exact sound_onDriver _
  | setSignals mask value => exact Keeps.bind (sound_onDriver _) fun _ => keeps_pure _
  | transfer input capture =>
    exact Keeps.bind (sound_onDriver _) fun sampled => Keeps.ite (sound_pushOutcome _) (keeps_pure _)
  | sampleTdo => exact Keeps.bind (sound_onDriver _) fun level => sound_pushOutcome _
  | sampleSignal lines => exact Keeps.bind (sound_onDriver _) fun level => sound_pushOutcome _

theorem sound_executeOldest : Always (Sound memory growth) (Cable.executeOldest : CableAction σ Unit) :=
  Keeps.bind sound_popItem sound_execute

theorem sound_executeTimes (count : Nat) : Always (Sound memory growth) (Cable.executeTimes count : CableAction σ Unit) := by
  induction count with
  | zero => exact keeps_pure _
  | succ count ih => exact Keeps.bind sound_executeOldest fun _ => ih

theorem sound_deal (sampled : List Bool) (item : Item) :
    Always (Sound memory growth) (Cable.deal sampled item : CableAction σ Unit) := by
  cases item with
  | clock tms tdi count => exact keeps_pure _
  | transfer input capture => exact Keeps.ite (sound_pushOutcome _) (keeps_pure _)
  | sampleTdo =>
    cases sampled with
    | nil => exact sound_execute .sampleTdo
    | cons level sampled => exact sound_pushOutcome _
  | setSignals mask value => exact keeps_throw _
  | sampleSignal lines => exact keeps_throw _

theorem sound_dealOut (group : List Item) (sampled : List Bool) :
    Always (Sound memory growth) (Cable.dealOut group sampled : CableAction σ Unit) := by
  induction group generalizing sampled with
  | nil => exact keeps_pure _
  | cons item group ih =>
    exact Keeps.bind sound_popItem fun item => Keeps.bind (sound_deal sampled item) fun _ => ih _

theorem sound_combineRound : Always (Sound memory growth) (Cable.combineRound : CableAction σ Unit) := by
  refine keeps_bind_inspect fun group => Keeps.ite sound_executeOldest ?_
  exact Keeps.bind (sound_onDriver _) fun sampled => sound_dealOut group sampled

theorem sound_combineRounds (fuel : Nat) : Always (Sound memory growth) (Cable.combineRounds fuel : CableAction σ Unit) := by
  induction fuel with
  | zero => exact keeps_pure _
  | succ fuel ih =>
    exact keeps_bind_inspect fun isEmpty =>
      Keeps.ite (keeps_pure _) (Keeps.bind sound_combineRound fun _ => ih)

theorem sound_drain (amount : FlushAmount) : Always (Sound memory growth) (Cable.drain amount : CableAction σ Unit) := by
  refine keeps_bind_get fun c => ?_
  cases c.strategy with
  | oneByOne => exact sound_executeTimes _
  | combineTransfers => exact Keeps.ite (sound_combineRounds _) (keeps_pure _)

theorem sound_flush (amount : FlushAmount) : Always (Sound memory growth) (Cable.flush amount : CableAction σ Unit) := by
  have hsend : Always (Sound memory growth) (if amount = .optionally then pure () else Cable.onDriver Driver.flush :
      CableAction σ Unit) := Keeps.ite (keeps_pure _) (sound_onDriver _)
  exact keeps_bind_inspect fun isEmpty => Keeps.ite hsend (Keeps.bind (sound_drain amount) fun _ => hsend)

/-! ### Operations -/

theorem sound_defer {item : Item} (hitem : item.plain = true) :
    Always (Sound memory growth) (Cable.defer item : CableAction σ Unit) :=
  Keeps.bind (sound_pushItem hitem) fun _ => sound_flush _

theorem sound_clock (tms tdi : Bool) (count : Nat) :
    Always (Sound memory growth) (Cable.clock tms tdi count : CableAction σ Unit) :=
  Keeps.bind (sound_flush _) fun _ => Keeps.bind (sound_onDriver _) fun _ => sound_onDriver _

theorem sound_setSignals (mask value : Signals) :
    Always (Sound memory growth) (Cable.setSignals mask value : CableAction σ Signals) :=
  Keeps.bind (sound_flush _) fun _ => sound_onDriver _

theorem sound_oldestOutcome? : Always (Sound memory growth) (Cable.oldestOutcome? : CableAction σ (Option Outcome)) := by
  refine Keeps.bind (sound_flush _) fun _ => Keeps.bind (Always.outcome sound_popOutcome) fun answer => ?_
  rcases answer with e | outcome
  · cases e <;> first | exact keeps_pure _ | exact keeps_throw _
  · exact keeps_pure _

theorem sound_sampleTdoLate : Always (Sound memory growth) (Cable.sampleTdoLate : CableAction σ Bool) := by
  refine Keeps.bind sound_oldestOutcome? fun answer => ?_
  match answer with
  | none => exact sound_onDriver _
  | some (.tdo level) => exact keeps_pure _
  | some (.transfer bits) => exact sound_outOfSync
  | some (.signal lines level) => exact sound_outOfSync

theorem sound_transferLate : Always (Sound memory growth) (Cable.transferLate : CableAction σ (List Bool)) := by
  refine Keeps.bind sound_oldestOutcome? fun answer => ?_
  match answer with
  | none => exact keeps_throw _
  | some (.tdo level) => exact sound_outOfSync
  | some (.transfer bits) => exact keeps_pure _
  | some (.signal lines level) => exact sound_outOfSync

end Cable
end Jtag
