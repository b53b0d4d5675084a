import Jtag.Proofs.Cable.Ran

/-! What a cable was asked for. Whatever part of the deferred work was executed on the way, the items that were
    asked for are the ones that are done and the ones that wait, in this order. A flush that is not optional leaves
    none of them to wait, and picking up a result starts with one. -/

namespace Jtag
namespace Cable

variable {σ : Type} [Driver σ] {c c' : Cable σ} {mark : σ} {items rest : List Item} {item : Item}
  {left outcomes held : List Outcome} {amount : FlushAmount}

/-- Behind `mark` the cable was asked for `items`, and some of them are done. -/
def Asked (c : Cable σ) (mark : σ) (items : List Item) (left : List Outcome) : Prop :=
  ∃ done rest outcomes, items = done ++ rest ∧ c.Ran mark done rest left outcomes

theorem asked_start (htodo : c.todo.Holds rest) (hfinished : c.finished.Holds left)
    (hplain : ∀ i ∈ rest, i.plain = true) : c.Asked c.driver rest left :=
  ⟨[], rest, [], rfl, ran_start htodo hfinished hplain⟩

theorem Ran.onDriver {α : Type} {act : DriverAction σ α} {a : α} {done : List Item}
    (h : c.Ran mark done rest left outcomes) (entry : Entry) (hrun : (Cable.onDriver act).runOn c = (.ok a, c'))
    (hdoes : ∀ s t, act.runOn s = (.ok a, t) → entry.Does s t) (hticks : entry.ticks = []) :
    c'.Ran mark done rest left outcomes := by
  obtain ⟨s, hact, rfl⟩ := onDriver_ok_inv hrun
  exact ⟨h.todo, h.finished, h.plain, h.led.idle (hdoes _ _ hact) hticks⟩

/-! ### Flushing and deferring -/

theorem Asked.flush_inv (hframed : Framed σ) (h : c.Asked mark items left)
    (hrun : (Cable.flush amount).runOn c = (.ok (), c')) :
    ∃ done rest outcomes, items = done ++ rest ∧ (amount ≠ .optionally → rest = []) ∧
      c'.Ran mark done rest left outcomes := by
  obtain ⟨done, rest, outcomes, rfl, hran⟩ := h
  unfold Cable.flush at hrun
  rw [Action.runOn_bind_ok (Action.runOn_inspect _ c)] at hrun
  have hdrained : ∃ c₁ group rest' new, rest = group ++ rest' ∧ (amount ≠ .optionally → rest' = []) ∧
      c₁.Ran mark (done ++ group) rest' left (outcomes ++ new) ∧
      (if amount = .optionally then pure () else Cable.onDriver Driver.flush : CableAction σ Unit).runOn c₁ =
        (.ok (), c') := by
    rw [hran.todo.isEmpty] at hrun
    cases rest with
    | nil => exact ⟨c, [], [], [], rfl, fun _ => rfl, hran.append_nil, hrun⟩
    | cons item rest =>
      obtain ⟨_, c₁, h₁, h₂⟩ := Action.bind_ok_inv hrun
      obtain ⟨group, rest', new, hsplit, hrest, k₁⟩ := hran.drain hframed h₁
      exact ⟨c₁, group, rest', new, hsplit, hrest, k₁, h₂⟩
  obtain ⟨c₁, group, rest', new, rfl, hrest, k₁, h₂⟩ := hdrained
  refine ⟨done ++ group, rest', outcomes ++ new, (List.append_assoc ..).symm, hrest, ?_⟩
  by_cases hamount : amount = .optionally
  · rw [if_pos hamount] at h₂
    cases h₂
    exact k₁
  · rw [if_neg hamount] at h₂
    exact k₁.onDriver .flush h₂ (fun _ _ hact => hact) rfl

theorem Asked.flush (hframed : Framed σ) (h : c.Asked mark items left)
    (hrun : (Cable.flush amount).runOn c = (.ok (), c')) : c'.Asked mark items left := by
  obtain ⟨done, rest, outcomes, hitems, -, k⟩ := h.flush_inv hframed hrun
  exact ⟨done, rest, outcomes, hitems, k⟩

theorem Asked.flushed (hframed : Framed σ) (h : c.Asked mark items left) (hamount : amount ≠ .optionally)
    (hrun : (Cable.flush amount).runOn c = (.ok (), c')) : ∃ outcomes, c'.Ran mark items [] left outcomes := by
  obtain ⟨done, rest, outcomes, rfl, hrest, k⟩ := h.flush_inv hframed hrun
  obtain rfl := hrest hamount
  rw [List.append_nil]
  exact ⟨outcomes, k⟩

theorem Asked.defer (hframed : Framed σ) (h : c.Asked mark items left) (hitem : item.plain = true)
    (hrun : (Cable.defer item).runOn c = (.ok (), c')) : c'.Asked mark (items ++ [item]) left := by
  obtain ⟨_, c₁, h₁, h₂⟩ := Action.bind_ok_inv hrun
  obtain ⟨done, rest, outcomes, rfl, hran⟩ := h
  have hasked : c₁.Asked mark ((done ++ rest) ++ [item]) left :=
    ⟨done, rest ++ [item], outcomes, List.append_assoc .., hran.pushItem hitem h₁⟩
  exact hasked.flush hframed h₂

theorem Asked.clock (hframed : Framed σ) (h : c.Asked mark items left) {tms tdi : Bool} {count : Nat}
    (hrun : (Cable.clock tms tdi count).runOn c = (.ok (), c')) :
    ∃ outcomes, c'.Ran mark (items ++ [.clock tms tdi count]) [] left outcomes := by
  obtain ⟨_, c₁, h₁, hrun⟩ := Action.bind_ok_inv hrun
  obtain ⟨_, c₂, h₂, h₃⟩ := Action.bind_ok_inv hrun
  obtain ⟨outcomes, k₁⟩ := h.flushed hframed (by decide) h₁
  have h₂ : (Cable.execute (.clock tms tdi count)).runOn c₁ = (.ok (), c₂) := h₂
  obtain ⟨new, k₂⟩ := k₁.execute hframed rfl h₂
  exact ⟨outcomes ++ new, k₂.onDriver .flush h₃ (fun _ _ hact => hact) rfl⟩

theorem Asked.setSignals (hframed : Framed σ) (h : c.Asked mark items left) {mask value old : Signals}
    (hrun : (Cable.setSignals mask value).runOn c = (.ok old, c')) :
    ∃ outcomes s, Led mark items outcomes s ∧ (Driver.setSignals mask value).runOn s = (.ok old, c'.driver) ∧
      c'.Asked c'.driver [] (left ++ outcomes) := by
  obtain ⟨_, c₁, h₁, h₂⟩ := Action.bind_ok_inv hrun
  obtain ⟨outcomes, k₁⟩ := h.flushed hframed (by decide) h₁
  obtain ⟨s, hact, rfl⟩ := onDriver_ok_inv h₂
  exact ⟨outcomes, c₁.driver, k₁.led, hact, asked_start k₁.todo k₁.finished nofun⟩

/-! ### Picking up results -/

/-- Everything that was asked for is done and yielded `outcomes`, and `held` waits to be picked up. -/
structure Drained (c : Cable σ) (mark : σ) (items : List Item) (outcomes held : List Outcome) : Prop where
  todo : c.todo.Holds []
  finished : c.finished.Holds held
  led : Led mark items outcomes c.driver

theorem Drained.asked (h : c.Drained mark items outcomes held) : c.Asked c.driver [] held :=
  asked_start h.todo h.finished (by simp)

theorem Asked.oldestOutcome?_ok (hframed : Framed σ) (h : c.Asked mark items left) {answer : Option Outcome}
    (hrun : Cable.oldestOutcome?.runOn c = (.ok answer, c')) :
    ∃ outcomes held, left ++ outcomes = answer.toList ++ held ∧ (answer = none → held = []) ∧
      c'.Drained mark items outcomes held := by
  obtain ⟨_, c₁, h₁, hrun⟩ := Action.bind_ok_inv hrun
  obtain ⟨outcomes, k₁⟩ := h.flushed hframed (by decide) h₁
  obtain ⟨popped, c₂, h₂, hrun⟩ := Action.bind_ok_inv hrun
  rw [Action.runOn_outcome, runOn_popOutcome] at h₂
  have hfinished := k₁.finished
  cases hresults : left ++ outcomes with
  | nil =>
    rw [hresults] at hfinished
    rw [hfinished.pop_nil] at h₂
    cases h₂
    cases hrun
    exact ⟨outcomes, [], hresults, fun _ => rfl, k₁.todo, hfinished, k₁.led⟩
  | cons outcome held =>
    rw [hresults] at hfinished
    obtain ⟨finished, hpop, hholds, -, -⟩ := hfinished.pop_cons
    rw [hpop] at h₂
    cases h₂
    cases hrun
    exact ⟨outcomes, held, hresults, nofun, k₁.todo, hholds, k₁.led⟩

/-- The bits that are picked up are the oldest ones kept: those of a transfer that was left over, if there is one. -/
theorem Asked.transferLate_ok (hframed : Framed σ) (h : c.Asked mark items left) {bits : List Bool}
    (hrun : Cable.transferLate.runOn c = (.ok bits, c')) :
    ∃ outcomes held, left ++ outcomes = .transfer bits :: held ∧ c'.Drained mark items outcomes held := by
  obtain ⟨answer, c₁, h₁, hrun⟩ := Action.bind_ok_inv hrun
  obtain ⟨outcomes, held, hresults, -, k₁⟩ := h.oldestOutcome?_ok hframed h₁
  match answer, hrun with
  | some (.transfer _), rfl => exact ⟨outcomes, held, hresults, k₁⟩

/-- The sample that is picked up is the oldest result; TDO is sampled now if there is none. -/
theorem Asked.sampleTdoLate_ok (hframed : Framed σ) (h : c.Asked mark items left) {level : Bool}
    (hrun : Cable.sampleTdoLate.runOn c = (.ok level, c')) :
    ∃ outcomes held, (left ++ outcomes = .tdo level :: held ∨ left ++ outcomes = [] ∧ held = []) ∧
      c'.Drained mark items outcomes held := by
  obtain ⟨answer, c₁, h₁, hrun⟩ := Action.bind_ok_inv hrun
  obtain ⟨outcomes, held, hresults, hnone, k₁⟩ := h.oldestOutcome?_ok hframed h₁
  match answer, hrun with
  | some (.tdo _), rfl => exact ⟨outcomes, held, .inl hresults, k₁⟩
  | none, hrun =>
    obtain rfl := hnone rfl
    obtain ⟨s, hact, rfl⟩ := onDriver_ok_inv hrun
    have hdoes : (Entry.sample level).Does c₁.driver s := hact
    exact ⟨outcomes, [], .inr ⟨hresults, rfl⟩, k₁.todo, k₁.finished, k₁.led.idle hdoes rfl⟩

theorem Drained.sampleTdoLate_ok (hframed : Framed σ) (h : c.Drained mark items outcomes held) {level : Bool}
    (hrun : Cable.sampleTdoLate.runOn c = (.ok level, c')) :
    ∃ held', (held = .tdo level :: held' ∨ held = [] ∧ held' = []) ∧ c'.Drained mark items outcomes held' := by
  obtain ⟨new, held', hresults, k⟩ := h.asked.sampleTdoLate_ok hframed hrun
  obtain rfl : new = [] := by
    obtain ⟨entries, -, -, hyields⟩ := k.led
    exact hyields
  rw [List.append_nil] at hresults
  exact ⟨held', hresults, k.todo, k.finished, h.led.wait k.led⟩

end Cable
end Jtag
