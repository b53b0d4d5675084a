import Jtag.Proofs.Cable.Carries

/-! A round of the combining flush performs the items that it takes off. One transfer sends the bits
    of a whole run of items, and its samples, dealt out to the items, are what each item would have
    sampled on its own: TDO before the first bit of the item, or after the last bit of the run. -/

namespace Jtag

/-! ### The bits of a run -/

namespace Item
variable {item : Item}

theorem size_eq_length_bits (item : Item) : item.size = item.bits.length := by
  cases item <;> simp [size, bits]

/-- A piece of a combined transfer moves the driver by clocks with TMS low alone. -/
theorem driver_perform {σ : Type} [Driver σ] (d : Steady σ) (h : item.combinable = true) (m : Machine σ) :
    (d.perform item m).driver = d.walk (Tick.lows item.bits) m.driver := by
  cases item with
  | clock tms tdi count =>
    cases tms with
    | false => exact congrArg (fun ticks => d.walk ticks m.driver) (Tick.lows_replicate count tdi).symm
    | true => cases h
  | sampleTdo => rfl
  | transfer input capture => rfl
  | setSignals mask value => cases h
  | sampleSignal lines => cases h

end Item

namespace Cable

variable {σ : Type} [Driver σ] {c : Cable σ} {items group rest : List Item} {m : Machine σ} {d : Steady σ}

theorem take_listen (d : Steady σ) (input more : List Bool) (s : σ) :
    (d.listen (Tick.lows (input ++ more)) s).take input.length = d.listen (Tick.lows input) s := by
  rw [Tick.lows_append, d.listen_append]
  exact List.take_left' (by simp)

theorem drop_listen (d : Steady σ) (input more : List Bool) (s : σ) :
    (d.listen (Tick.lows (input ++ more)) s).drop input.length =
      d.listen (Tick.lows more) (d.walk (Tick.lows input) s) := by
  rw [Tick.lows_append, d.listen_append]
  exact List.drop_left' (by simp)

/-- The samples of a common transfer from the first bit of `item` on give the item its own. -/
theorem Carries.deal {s : σ} {results : List Outcome} {sampled more : List Bool} {item : Item}
    (hitem : item.combinable = true) (h : c.Carries items ⟨d.walk (Tick.lows (item.bits ++ more)) s, results⟩)
    (hs : item.hasOutcome = false ∨ sampled = d.listen (Tick.lows (item.bits ++ more)) s) :
    ∃ c', (Cable.deal sampled item).runOn c = (.ok (), c') ∧
      c'.Carries items ⟨d.walk (Tick.lows (item.bits ++ more)) s, (d.perform item ⟨s, results⟩).results⟩ := by
  cases item with
  | clock tms tdi count => exact ⟨c, rfl, h⟩
  | transfer input capture =>
    cases capture with
    | false => exact ⟨c, rfl, by simpa [Steady.perform] using h⟩
    | true =>
      rcases hs with hs | hs
      · cases hs
      · obtain ⟨c', h', k'⟩ := h.pushOutcome (.transfer (sampled.take input.length))
        refine ⟨c', h', ?_⟩
        rwa [hs, Item.bits, take_listen] at k'
  | sampleTdo =>
    rcases hs with hs | hs
    · cases hs
    · cases more with
      | nil =>
        subst hs
        exact h.execute d .sampleTdo
      | cons bit more =>
        subst hs
        exact h.pushOutcome (.tdo (d.tdo s))
  | setSignals mask value => cases hitem
  | sampleSignal lines => cases hitem

theorem Carries.dealOut {s : σ} {results : List Outcome} {sampled : List Bool}
    (hgroup : ∀ i ∈ group, i.combinable = true)
    (h : c.Carries (group ++ rest) ⟨d.walk (Tick.lows (group.flatMap Item.bits)) s, results⟩)
    (hs : (∀ i ∈ group, i.hasOutcome = false) ∨ sampled = d.listen (Tick.lows (group.flatMap Item.bits)) s) :
    ∃ c', (Cable.dealOut group sampled).runOn c = (.ok (), c') ∧
      c'.Carries rest (d.performAll group ⟨s, results⟩) := by
  induction group generalizing c s results sampled with
  | nil => exact ⟨c, rfl, h⟩
  | cons item group ih =>
    have hitem := hgroup item List.mem_cons_self
    rw [List.flatMap_cons] at h hs
    obtain ⟨c₁, h₁, k₁⟩ := h.popItem
    obtain ⟨c₂, h₂, k₂⟩ := k₁.deal hitem (hs.imp (fun hs => hs item List.mem_cons_self) id)
    have hdriver : d.walk (Tick.lows item.bits) s = (d.perform item ⟨s, results⟩).driver :=
      (Item.driver_perform d hitem ⟨s, results⟩).symm
    rw [Tick.lows_append, d.walk_append, hdriver] at k₂
    have hrest : (∀ i ∈ group, i.hasOutcome = false) ∨ sampled.drop item.size =
        d.listen (Tick.lows (group.flatMap Item.bits)) (d.perform item ⟨s, results⟩).driver := by
      rcases hs with hs | hs
      · exact Or.inl fun i hi => hs i (List.mem_cons_of_mem _ hi)
      · rw [hs, Item.size_eq_length_bits, drop_listen, hdriver]
        exact Or.inr rfl
    obtain ⟨c₃, h₃, k₃⟩ := ih (fun i hi => hgroup i (List.mem_cons_of_mem _ hi)) k₂ hrest
    refine ⟨c₃, ?_, k₃⟩
    rw [Cable.dealOut, Action.runOn_bind_ok h₁, Action.runOn_bind_ok h₂, h₃]

/-! ### Rounds -/

omit [Driver σ] in
theorem run_append (h : c.todo.Holds items) : c.run ++ items.dropWhile Item.combinable = items := by
  rw [Cable.run, h.toList, List.takeWhile_append_dropWhile]

omit [Driver σ] in
theorem combinable_of_mem_run : ∀ i ∈ c.run, i.combinable = true := List.all_eq_true.mp List.all_takeWhile

omit [Driver σ] in
theorem run_ne_nil (h : ¬(c.run.length ≤ 1 || c.run.all (·.size == 0)) = true) : c.run ≠ [] := by
  rintro hnil
  simp [hnil] at h

theorem Carries.transferRun (d : Steady σ) (hgroup : ∀ i ∈ group, i.combinable = true)
    (h : c.Carries (group ++ rest) m) :
    ∃ c', (Cable.transferRun group).runOn c = (.ok (), c') ∧ c'.Carries rest (d.performAll group m) := by
  have hs : (∀ i ∈ group, i.hasOutcome = false) ∨
      (if group.any Item.hasOutcome then d.listen (Tick.lows (group.flatMap Item.bits)) m.driver else []) =
        d.listen (Tick.lows (group.flatMap Item.bits)) m.driver := by
    by_cases hany : group.any Item.hasOutcome = true
    · exact Or.inr (if_pos hany)
    · exact Or.inl fun i hi => Bool.eq_false_iff.mpr fun hi' => hany (List.any_eq_true.mpr ⟨i, hi, hi'⟩)
  obtain ⟨c₁, h₁, k₁⟩ := h.onDriver (d.runOn_transfer (group.flatMap Item.bits) (group.any Item.hasOutcome) m.driver)
  obtain ⟨c₂, h₂, k₂⟩ := k₁.dealOut hgroup hs
  exact ⟨c₂, (Action.runOn_bind_ok h₁ _).trans h₂, k₂⟩

/-- A round takes at least one item off and performs what it takes off. -/
theorem Carries.combineRound (d : Steady σ) (h : c.Carries items m) (hne : items ≠ []) :
    ∃ c' done rest, items = done ++ rest ∧ done ≠ [] ∧ Cable.combineRound.runOn c = (.ok (), c') ∧
      c'.Carries rest (d.performAll done m) := by
  obtain ⟨item, items, rfl⟩ := List.exists_cons_of_ne_nil hne
  unfold Cable.combineRound
  rw [Action.runOn_bind_ok (Action.runOn_inspect run c)]
  by_cases hone : (c.run.length ≤ 1 || c.run.all (·.size == 0)) = true
  · rw [if_pos hone]
    obtain ⟨c', h', k'⟩ := h.executeOldest d
    exact ⟨c', [item], items, rfl, List.cons_ne_nil _ _, h', k'⟩
  · have hsplit := run_append h.todo
    rw [if_neg hone]
    rw [← hsplit] at h
    obtain ⟨c', h', k'⟩ := h.transferRun d combinable_of_mem_run
    exact ⟨c', c.run, _, hsplit.symm, run_ne_nil hone, h', k'⟩

theorem Carries.combineRounds (d : Steady σ) {fuel : Nat} (h : c.Carries items m) (hfuel : items.length ≤ fuel) :
    ∃ c', (Cable.combineRounds fuel).runOn c = (.ok (), c') ∧ c'.Carries [] (d.performAll items m) := by
  -- Every round takes at least one item off, so there is fuel left for the items behind it.
  induction fuel generalizing c items m with
  | zero =>
    obtain rfl := List.eq_nil_of_length_eq_zero (Nat.le_zero.mp hfuel)
    exact ⟨c, rfl, h⟩
  | succ fuel ih =>
    have hempty := h.todo.isEmpty
    rw [Cable.combineRounds, Action.runOn_bind_ok (Action.runOn_inspect _ c), hempty]
    cases items with
    | nil => exact ⟨c, rfl, h⟩
    | cons item items =>
      obtain ⟨c₁, done, rest, hsplit, hdone, h₁, k₁⟩ := h.combineRound d (List.cons_ne_nil _ _)
      have hlen := congrArg List.length hsplit
      have hpos := List.length_pos_iff.mpr hdone
      rw [List.length_append] at hlen
      obtain ⟨c₂, h₂, k₂⟩ := ih k₁ (by omega)
      refine ⟨c₂, ?_, ?_⟩
      · exact (Action.runOn_bind_ok h₁ _).trans h₂
      · rw [hsplit, d.performAll_append]
        exact k₂

/-! ### Flushing -/

omit [Driver σ] in
theorem worthwhile_of_ne {amount : FlushAmount} (hamount : amount ≠ .optionally) : c.worthwhile amount = true := by
  cases amount with
  | optionally => exact absurd rfl hamount
  | toOutput => rfl
  | completely => rfl

/-- Executing deferred work performs items from the front; unless it was optional, all of them. -/
theorem Carries.drain (d : Steady σ) (h : c.Carries items m) (amount : FlushAmount) :
    ∃ c' done rest, items = done ++ rest ∧ (amount ≠ .optionally → rest = []) ∧
      (Cable.drain amount).runOn c = (.ok (), c') ∧ c'.Carries rest (d.performAll done m) := by
  have hpending : c.pending = items.length := h.todo.count
  unfold Cable.drain
  rw [Action.runOn_bind_ok (Action.runOn_get c), hpending]
  cases c.strategy with
  | oneByOne =>
    obtain ⟨c', h', k'⟩ := h.executeTimes d
    exact ⟨c', items, [], (List.append_nil _).symm, fun _ => rfl, h', k'⟩
  | combineTransfers =>
    dsimp only
    by_cases hworth : c.worthwhile amount = true
    · obtain ⟨c', h', k'⟩ := h.combineRounds d (Nat.le_refl _)
      exact ⟨c', items, [], (List.append_nil _).symm, fun _ => rfl, by rw [if_pos hworth, h'], k'⟩
    · exact ⟨c, [], items, rfl, fun hamount => absurd (worthwhile_of_ne hamount) hworth, by rw [if_neg hworth]; rfl, h⟩

end Cable
end Jtag
