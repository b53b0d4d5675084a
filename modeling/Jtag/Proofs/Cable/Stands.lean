import Jtag.Proofs.Cable.Combine

/-! A cable in front of a steady driver stands for the machine that it becomes when its deferred
    items are performed. Every operation of the cable is one of that machine, whatever part of the
    deferred work it executes on the way. -/

namespace Jtag

/-- Let the driver send what it holds back. -/
def Steady.send {σ : Type} [Driver σ] (d : Steady σ) (m : Machine σ) : Machine σ :=
  { m with driver := d.settle m.driver }

namespace Cable

variable {σ : Type} [Driver σ] {d : Steady σ} {c : Cable σ} {items : List Item} {m : Machine σ} {s : σ}
  {results : List Outcome}

/-- Performing what the cable carries leads to the machine `m`. -/
def Stands (d : Steady σ) (c : Cable σ) (m : Machine σ) : Prop :=
  ∃ items m₀, c.Carries items m₀ ∧ d.performAll items m₀ = m

theorem Carries.stands (h : c.Carries [] m) : c.Stands d m := ⟨[], m, h, rfl⟩

/-- No result is there before it is due. -/
theorem Stands.finished_nil (h : c.Stands d ⟨s, []⟩) : c.finished.toList = [] := by
  obtain ⟨items, m₀, hc, hperform⟩ := h
  obtain ⟨more, hmore⟩ := d.results_performAll items m₀
  rw [hperform] at hmore
  rw [hc.finished.toList, (List.append_eq_nil_iff.mp hmore.symm).1]

/-- A cable that just took its driver over stands for the driver without results. -/
theorem stands_new (d : Steady σ) (driver : σ) {config : QueueConfig} (strategy : FlushStrategy)
    {memory : Memory} (hgrowth : memory.Grants (max config.growth 1)) :
    ({ Cable.new driver config memory with strategy } : Cable σ).Stands d ⟨driver, []⟩ :=
  Carries.stands ⟨Queue.holds_withCapacity .., Queue.holds_withCapacity .., rfl, hgrowth, hgrowth⟩

/-! ### Flushing and deferring -/

/-- A flush that is not optional leaves nothing to do. -/
theorem Stands.flush (h : c.Stands d m) (amount : FlushAmount) (hamount : amount ≠ .optionally) :
    ∃ c', (Cable.flush amount).runOn c = (.ok (), c') ∧ c'.Carries [] (d.send m) := by
  obtain ⟨items, m₀, hc, rfl⟩ := h
  have hdrained : ∃ c₁, (if c.todo.isEmpty then pure () else Cable.drain amount).runOn c = (.ok (), c₁) ∧
      c₁.Carries [] (d.performAll items m₀) := by
    rw [hc.todo.isEmpty]
    cases items with
    | nil => exact ⟨c, rfl, hc⟩
    | cons item items =>
      obtain ⟨c₁, done, rest, hsplit, hrest, h₁, k₁⟩ := hc.drain d amount
      obtain rfl := hrest hamount
      rw [List.append_nil] at hsplit
      subst hsplit
      exact ⟨c₁, h₁, k₁⟩
  obtain ⟨c₁, h₁, k₁⟩ := hdrained
  obtain ⟨c₂, h₂, k₂⟩ := k₁.onDriver (d.flush_eq (d.performAll items m₀).driver)
  refine ⟨c₂, ?_, k₂⟩
  unfold Cable.flush
  rw [Action.runOn_bind_ok (Action.runOn_inspect _ c)]
  by_cases hempty : c.todo.isEmpty = true
  · rw [if_pos hempty] at h₁
    cases h₁
    rw [if_pos hempty]
    dsimp only
    rw [if_neg hamount, h₂]
  · rw [if_neg hempty] at h₁
    rw [if_neg hempty, Action.runOn_bind_ok h₁]
    dsimp only
    rw [if_neg hamount, h₂]

/-- An optional flush performs part of the deferred work or none, which leads to the same machine. -/
theorem Stands.flush_optionally (h : c.Stands d m) :
    ∃ c', (Cable.flush .optionally).runOn c = (.ok (), c') ∧ c'.Stands d m := by
  obtain ⟨items, m₀, hc, rfl⟩ := h
  unfold Cable.flush
  rw [Action.runOn_bind_ok (Action.runOn_inspect _ c)]
  by_cases hempty : c.todo.isEmpty = true
  · rw [if_pos hempty]
    exact ⟨c, rfl, items, m₀, hc, rfl⟩
  · obtain ⟨c₁, done, rest, hsplit, -, h₁, k₁⟩ := hc.drain d .optionally
    rw [if_neg hempty]
    refine ⟨c₁, Action.runOn_bind_ok h₁ _, rest, _, k₁, ?_⟩
    rw [hsplit, d.performAll_append]

theorem Stands.defer (h : c.Stands d m) (item : Item) :
    ∃ c', (Cable.defer item).runOn c = (.ok (), c') ∧ c'.Stands d (d.perform item m) := by
  obtain ⟨items, m₀, hc, rfl⟩ := h
  obtain ⟨c₁, h₁, k₁⟩ := hc.pushItem item
  have hstands : c₁.Stands d (d.perform item (d.performAll items m₀)) :=
    ⟨items ++ [item], m₀, k₁, d.performAll_append items [item] m₀⟩
  obtain ⟨c₂, h₂, k₂⟩ := hstands.flush_optionally
  exact ⟨c₂, (Action.runOn_bind_ok h₁ _).trans h₂, k₂⟩

/-! ### Talking to the driver -/

/-- A call on the driver behind a flush of everything. -/
theorem Stands.flushed {α : Type} {act : DriverAction σ α} {a : α} {s : σ} (h : c.Stands d m)
    (hact : act.runOn (d.settle m.driver) = (.ok a, s)) :
    ∃ c', (do Cable.flush .completely; Cable.onDriver act : CableAction σ α).runOn c = (.ok a, c') ∧
      c'.Carries [] ⟨s, m.results⟩ := by
  obtain ⟨c₁, h₁, k₁⟩ := h.flush .completely (by decide)
  obtain ⟨c₂, h₂, k₂⟩ := k₁.onDriver hact
  exact ⟨c₂, (Action.runOn_bind_ok h₁ _).trans h₂, k₂⟩

theorem Stands.clock (h : c.Stands d m) (tms tdi : Bool) (count : Nat) :
    ∃ c', (Cable.clock tms tdi count).runOn c = (.ok (), c') ∧
      c'.Carries [] (d.send (d.perform (.clock tms tdi count) (d.send m))) := by
  obtain ⟨c₁, h₁, k₁⟩ := h.flush .completely (by decide)
  obtain ⟨c₂, h₂, k₂⟩ := k₁.onDriver (d.runOn_clock tms tdi count _)
  obtain ⟨c₃, h₃, k₃⟩ := k₂.onDriver (d.flush_eq _)
  refine ⟨c₃, ?_, k₃⟩
  rw [Cable.clock, Action.runOn_bind_ok h₁, Action.runOn_bind_ok h₂, h₃]

theorem Stands.transfer (h : c.Stands d m) (input : List Bool) (capture : Bool) :
    ∃ c', (Cable.transfer input capture).runOn c =
        (.ok (if capture then d.listen (Tick.lows input) (d.settle m.driver) else []), c') ∧
      c'.Carries [] (d.send (d.perform (.transfer input false) (d.send m))) := by
  obtain ⟨c₁, h₁, k₁⟩ := h.flush .completely (by decide)
  obtain ⟨c₂, h₂, k₂⟩ := k₁.onDriver (d.runOn_transfer input capture _)
  obtain ⟨c₃, h₃, k₃⟩ := k₂.onDriver (d.flush_eq _)
  refine ⟨c₃, ?_, by simpa [Steady.send, Steady.perform] using k₃⟩
  rw [Cable.transfer, Action.runOn_bind_ok h₁, Action.runOn_bind_ok h₂, Action.runOn_bind_ok h₃]
  rfl

/-! ### Picking up results -/

theorem Stands.oldestOutcome?_cons {outcome : Outcome} (h : c.Stands d ⟨s, outcome :: results⟩) :
    ∃ c', Cable.oldestOutcome?.runOn c = (.ok (some outcome), c') ∧ c'.Carries [] ⟨d.settle s, results⟩ := by
  obtain ⟨c₁, h₁, k₁⟩ := h.flush .toOutput (by decide)
  obtain ⟨c₂, h₂, k₂⟩ := k₁.popOutcome_cons
  refine ⟨c₂, ?_, k₂⟩
  have h₃ : (Cable.popOutcome.outcome : CableAction σ _).runOn c₁ = (.ok (.ok outcome), c₂) := by
    rw [Action.runOn_outcome, h₂]
  rw [Cable.oldestOutcome?, Action.runOn_bind_ok h₁, Action.runOn_bind_ok h₃]
  rfl

theorem Stands.oldestOutcome?_nil (h : c.Stands d ⟨s, []⟩) :
    ∃ c', Cable.oldestOutcome?.runOn c = (.ok none, c') ∧ c'.Carries [] ⟨d.settle s, []⟩ := by
  obtain ⟨c₁, h₁, k₁⟩ := h.flush .toOutput (by decide)
  refine ⟨c₁, ?_, k₁⟩
  have h₂ : (Cable.popOutcome.outcome : CableAction σ _).runOn c₁ = (.ok (.error .queueEmpty), c₁) := by
    rw [Action.runOn_outcome, k₁.popOutcome_nil]
  rw [Cable.oldestOutcome?, Action.runOn_bind_ok h₁, Action.runOn_bind_ok h₂]
  rfl

/-- A result of another kind than the one asked for takes all others with it. -/
theorem Stands.late_outOfSync {α : Type} {outcome : Outcome} {next : Option Outcome → CableAction σ α}
    (h : c.Stands d ⟨s, outcome :: results⟩) (hnext : next (some outcome) = outOfSync) :
    ∃ c', (Cable.oldestOutcome? >>= next).runOn c = (.error .queueOutOfSync, c') ∧ c'.Carries [] ⟨d.settle s, []⟩ := by
  obtain ⟨c₁, h₁, k₁⟩ := h.oldestOutcome?_cons
  obtain ⟨c₂, h₂, k₂⟩ := k₁.outOfSync (α := α)
  refine ⟨c₂, ?_, k₂⟩
  rw [Action.runOn_bind_ok h₁, hnext, h₂]

theorem Stands.sampleTdoLate {value : Bool} (h : c.Stands d ⟨s, .tdo value :: results⟩) :
    ∃ c', Cable.sampleTdoLate.runOn c = (.ok value, c') ∧ c'.Carries [] ⟨d.settle s, results⟩ := by
  obtain ⟨c', h', k'⟩ := h.oldestOutcome?_cons
  exact ⟨c', Action.runOn_bind_ok h' _, k'⟩

theorem Stands.sampleTdoLate_nil (h : c.Stands d ⟨s, []⟩) :
    ∃ c', Cable.sampleTdoLate.runOn c = (.ok (d.tdo (d.settle s)), c') ∧ c'.Carries [] ⟨d.settle s, []⟩ := by
  obtain ⟨c₁, h₁, k₁⟩ := h.oldestOutcome?_nil
  obtain ⟨c₂, h₂, k₂⟩ := k₁.onDriver (d.sampleTdo_eq _)
  exact ⟨c₂, (Action.runOn_bind_ok h₁ _).trans h₂, k₂⟩

theorem Stands.sampleTdoLate_of_ne {outcome : Outcome} (h : c.Stands d ⟨s, outcome :: results⟩)
    (hkind : ∀ value, outcome ≠ .tdo value) :
    ∃ c', Cable.sampleTdoLate.runOn c = (.error .queueOutOfSync, c') ∧ c'.Carries [] ⟨d.settle s, []⟩ := by
  cases outcome with
  | tdo value => exact absurd rfl (hkind value)
  | transfer bits => exact h.late_outOfSync rfl
  | signal lines value => exact h.late_outOfSync rfl

theorem Stands.transferLate {bits : List Bool} (h : c.Stands d ⟨s, .transfer bits :: results⟩) :
    ∃ c', Cable.transferLate.runOn c = (.ok bits, c') ∧ c'.Carries [] ⟨d.settle s, results⟩ := by
  obtain ⟨c', h', k'⟩ := h.oldestOutcome?_cons
  exact ⟨c', Action.runOn_bind_ok h' _, k'⟩

theorem Stands.transferLate_nil (h : c.Stands d ⟨s, []⟩) :
    ∃ c', Cable.transferLate.runOn c = (.error .queueOutOfSync, c') ∧ c'.Carries [] ⟨d.settle s, []⟩ := by
  obtain ⟨c', h', k'⟩ := h.oldestOutcome?_nil
  exact ⟨c', Action.runOn_bind_ok h' _, k'⟩

theorem Stands.transferLate_of_ne {outcome : Outcome} (h : c.Stands d ⟨s, outcome :: results⟩)
    (hkind : ∀ bits, outcome ≠ .transfer bits) :
    ∃ c', Cable.transferLate.runOn c = (.error .queueOutOfSync, c') ∧ c'.Carries [] ⟨d.settle s, []⟩ := by
  cases outcome with
  | tdo value => exact h.late_outOfSync rfl
  | transfer bits => exact absurd rfl (hkind bits)
  | signal lines value => exact h.late_outOfSync rfl

theorem Stands.sampleSignalLate {lines : Signals} {value : Bool}
    (h : c.Stands d ⟨s, .signal lines value :: results⟩) :
    ∃ c', (Cable.sampleSignalLate lines).runOn c = (.ok value, c') ∧ c'.Carries [] ⟨d.settle s, results⟩ := by
  obtain ⟨c', h', k'⟩ := h.oldestOutcome?_cons
  refine ⟨c', (Action.runOn_bind_ok h' _).trans ?_, k'⟩
  dsimp only
  rw [if_pos rfl]
  rfl

theorem Stands.sampleSignalLate_nil (h : c.Stands d ⟨s, []⟩) (lines : Signals) :
    ∃ c', (Cable.sampleSignalLate lines).runOn c = (.ok (d.sense lines (d.settle s)).1, c') ∧
      c'.Carries [] ⟨(d.sense lines (d.settle s)).2, []⟩ := by
  obtain ⟨c₁, h₁, k₁⟩ := h.oldestOutcome?_nil
  obtain ⟨c₂, h₂, k₂⟩ := k₁.onDriver (d.sampleSignal_eq lines _)
  exact ⟨c₂, (Action.runOn_bind_ok h₁ _).trans h₂, k₂⟩

theorem Stands.sampleSignalLate_of_ne {outcome : Outcome} {lines : Signals}
    (h : c.Stands d ⟨s, outcome :: results⟩) (hkind : ∀ value, outcome ≠ .signal lines value) :
    ∃ c', (Cable.sampleSignalLate lines).runOn c = (.error .queueOutOfSync, c') ∧
      c'.Carries [] ⟨d.settle s, []⟩ := by
  cases outcome with
  | tdo value => exact h.late_outOfSync rfl
  | transfer bits => exact h.late_outOfSync rfl
  | signal sampled value =>
    have hlines : sampled ≠ lines := fun hlines => hkind value (hlines ▸ rfl)
    exact h.late_outOfSync (if_neg hlines)

end Cable
end Jtag
