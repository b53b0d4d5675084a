import Jtag.Cable.Operations
import Jtag.Proofs.Cable.Steady
import Jtag.Proofs.Queue.Fifo

/-! A cable in front of a steady driver carries deferred items and a machine: the items wait in the
    ring of deferred work, and the machine is the driver with the results that wait to be picked up.
    Executing deferred work takes items off the front and lets the machine perform them, in the same
    order under both strategies. -/

namespace Jtag
namespace Cable

section Rings
variable {σ α : Type} {c : Cable σ} {item : Item} {items : List Item} {m : Machine σ}

/-- The deferred items and the machine of a cable whose rings are granted the memory to grow. -/
structure Carries (c : Cable σ) (items : List Item) (m : Machine σ) : Prop where
  todo : c.todo.Holds items
  finished : c.finished.Holds m.results
  driver : c.driver = m.driver
  todoGrowth : c.memory.Grants c.todo.growth
  finishedGrowth : c.memory.Grants c.finished.growth

theorem Carries.popItem (h : c.Carries (item :: items) m) :
    ∃ c', Cable.popItem.runOn c = (.ok item, c') ∧ c'.Carries items m := by
  obtain ⟨todo, hpop, hholds, -, hgrowth⟩ := h.todo.pop_cons
  refine ⟨{ c with todo }, ?_, hholds, h.finished, h.driver, hgrowth ▸ h.todoGrowth, h.finishedGrowth⟩
  rw [runOn_popItem, hpop]

theorem Carries.pushItem (h : c.Carries items m) (item : Item) :
    ∃ c', (Cable.pushItem item).runOn c = (.ok (), c') ∧ c'.Carries (items ++ [item]) m := by
  obtain ⟨todo, hpush, hholds, hgrowth⟩ := h.todo.push_granted item
  have hgrants : (c.memory.ask c.todo.isFull c.todo.growth).2.Grants todo.growth := by
    rw [hgrowth]
    exact h.todoGrowth.later _ _
  refine ⟨{ c with todo, memory := (c.memory.ask c.todo.isFull c.todo.growth).2 }, ?_, hholds, h.finished, h.driver,
    hgrants, h.finishedGrowth.later _ _⟩
  simp only [runOn_pushItem, h.todoGrowth.ask, hpush]

theorem Carries.popOutcome_cons {outcome : Outcome} {results : List Outcome} {s : σ}
    (h : c.Carries items ⟨s, outcome :: results⟩) :
    ∃ c', Cable.popOutcome.runOn c = (.ok outcome, c') ∧ c'.Carries items ⟨s, results⟩ := by
  obtain ⟨finished, hpop, hholds, -, hgrowth⟩ := h.finished.pop_cons
  refine ⟨{ c with finished }, ?_, h.todo, hholds, h.driver, h.todoGrowth, hgrowth ▸ h.finishedGrowth⟩
  rw [runOn_popOutcome, hpop]

theorem Carries.popOutcome_nil {s : σ} (h : c.Carries items ⟨s, []⟩) :
    Cable.popOutcome.runOn c = (.error .queueEmpty, c) := by
  rw [runOn_popOutcome, h.finished.pop_nil]

theorem Carries.pushOutcome (h : c.Carries items m) (outcome : Outcome) :
    ∃ c', (Cable.pushOutcome outcome).runOn c = (.ok (), c') ∧
      c'.Carries items ⟨m.driver, m.results ++ [outcome]⟩ := by
  obtain ⟨finished, hpush, hholds, hgrowth⟩ := h.finished.push_granted outcome
  have hgrants : (c.memory.ask c.finished.isFull c.finished.growth).2.Grants finished.growth := by
    rw [hgrowth]
    exact h.finishedGrowth.later _ _
  refine ⟨{ c with finished, memory := (c.memory.ask c.finished.isFull c.finished.growth).2 }, ?_, h.todo, hholds,
    h.driver, h.todoGrowth.later _ _, hgrants⟩
  simp only [runOn_pushOutcome, h.finishedGrowth.ask, hpush]

theorem Carries.onDriver {act : DriverAction σ α} {a : α} {s : σ} (h : c.Carries items m)
    (hact : act.runOn m.driver = (.ok a, s)) :
    ∃ c', (Cable.onDriver act).runOn c = (.ok a, c') ∧ c'.Carries items ⟨s, m.results⟩ := by
  refine ⟨{ c with driver := s }, ?_, h.todo, h.finished, rfl, h.todoGrowth, h.finishedGrowth⟩
  rw [runOn_onDriver, h.driver, hact]

theorem Carries.purgeResults (h : c.Carries items m) :
    ∃ c', Cable.purgeResults.runOn c = (.ok (), c') ∧ c'.Carries items ⟨m.driver, []⟩ :=
  ⟨{ c with finished := c.finished.purge }, rfl, h.todo, c.finished.holds_purge, h.driver, h.todoGrowth,
    h.finishedGrowth⟩

theorem Carries.outOfSync {α : Type} (h : c.Carries items m) :
    ∃ c', (Cable.outOfSync : CableAction σ α).runOn c = (.error .queueOutOfSync, c') ∧
      c'.Carries items ⟨m.driver, []⟩ := by
  obtain ⟨c', h', k'⟩ := h.purgeResults
  exact ⟨c', Action.runOn_bind_ok h' _, k'⟩

end Rings

variable {σ : Type} [Driver σ] {c : Cable σ} {item : Item} {items group rest : List Item} {m : Machine σ}

/-! ### One item -/

theorem Carries.execute (d : Steady σ) (h : c.Carries items m) (item : Item) :
    ∃ c', (Cable.execute item).runOn c = (.ok (), c') ∧ c'.Carries items (d.perform item m) := by
  cases item with
  | clock tms tdi count => exact h.onDriver (d.runOn_clock tms tdi count m.driver)
  | sampleTdo =>
    obtain ⟨c₁, h₁, k₁⟩ := h.onDriver (d.sampleTdo_eq m.driver)
    obtain ⟨c₂, h₂, k₂⟩ := k₁.pushOutcome (.tdo (d.tdo m.driver))
    exact ⟨c₂, (Action.runOn_bind_ok h₁ _).trans h₂, k₂⟩
  | transfer input capture =>
    obtain ⟨c₁, h₁, k₁⟩ := h.onDriver (d.runOn_transfer input capture m.driver)
    cases capture with
    | false => exact ⟨c₁, Action.runOn_bind_ok h₁ _, by simpa [Steady.perform] using k₁⟩
    | true =>
      obtain ⟨c₂, h₂, k₂⟩ := k₁.pushOutcome (.transfer (d.listen (Tick.lows input) m.driver))
      exact ⟨c₂, (Action.runOn_bind_ok h₁ _).trans h₂, k₂⟩
  | setSignals mask value =>
    obtain ⟨c₁, h₁, k₁⟩ := h.onDriver (d.setSignals_eq mask value m.driver)
    exact ⟨c₁, Action.runOn_bind_ok h₁ _, k₁⟩
  | sampleSignal lines =>
    obtain ⟨c₁, h₁, k₁⟩ := h.onDriver (d.sampleSignal_eq lines m.driver)
    obtain ⟨c₂, h₂, k₂⟩ := k₁.pushOutcome (.signal lines (d.sense lines m.driver).1)
    exact ⟨c₂, (Action.runOn_bind_ok h₁ _).trans h₂, k₂⟩

theorem Carries.executeOldest (d : Steady σ) (h : c.Carries (item :: items) m) :
    ∃ c', Cable.executeOldest.runOn c = (.ok (), c') ∧ c'.Carries items (d.perform item m) := by
  obtain ⟨c₁, h₁, k₁⟩ := h.popItem
  obtain ⟨c₂, h₂, k₂⟩ := k₁.execute d item
  exact ⟨c₂, (Action.runOn_bind_ok h₁ _).trans h₂, k₂⟩

theorem Carries.executeTimes (d : Steady σ) (h : c.Carries items m) :
    ∃ c', (Cable.executeTimes items.length).runOn c = (.ok (), c') ∧ c'.Carries [] (d.performAll items m) := by
  induction items generalizing c m with
  | nil => exact ⟨c, rfl, h⟩
  | cons item items ih =>
    obtain ⟨c₁, h₁, k₁⟩ := h.executeOldest d
    obtain ⟨c₂, h₂, k₂⟩ := ih k₁
    exact ⟨c₂, (Action.runOn_bind_ok h₁ _).trans h₂, k₂⟩

end Cable
end Jtag
