import Jtag.Proofs.Action.Keeps
import Jtag.Proofs.Cable.Trace

/-! A cable in front of any driver, each call of which may fail. If executing deferred work succeeds, it does items
    from the front on, in the same way under both strategies: the driver is led by just their clocks, and what is
    kept of each item was sampled where it stands. -/

namespace Jtag
namespace Cable

section Inversion
variable {σ α : Type} {c c' : Cable σ}

theorem onDriver_ok_inv {act : DriverAction σ α} {a : α} (hrun : (Cable.onDriver act).runOn c = (.ok a, c')) :
    ∃ s, act.runOn c.driver = (.ok a, s) ∧ c' = { c with driver := s } := by
  rw [runOn_onDriver] at hrun
  rcases hact : act.runOn c.driver with ⟨answer, s⟩
  rw [hact] at hrun
  cases hrun
  exact ⟨s, rfl, rfl⟩

theorem popItem_ok_inv {item item' : Item} {items : List Item} (hrun : Cable.popItem.runOn c = (.ok item', c'))
    (h : c.todo.Holds (item :: items)) :
    item' = item ∧ ∃ todo, c' = { c with todo } ∧ todo.Holds items := by
  obtain ⟨todo, hpop, hholds, -, -⟩ := h.pop_cons
  rw [runOn_popItem, hpop] at hrun
  cases hrun
  exact ⟨rfl, todo, rfl, hholds⟩

theorem pushItem_ok_inv {items : List Item} {item : Item} (hrun : (Cable.pushItem item).runOn c = (.ok (), c'))
    (h : c.todo.Holds items) :
    ∃ todo memory, c' = { c with todo, memory } ∧ todo.Holds (items ++ [item]) := by
  rw [runOn_pushItem] at hrun
  rcases h.push (c.memory.ask c.todo.isFull c.todo.growth).1 item with ⟨todo, hpush, hholds, -⟩ | ⟨hpush, -, -⟩
  · simp only [hpush] at hrun
    cases hrun
    exact ⟨todo, _, rfl, hholds⟩
  · simp only [hpush] at hrun
    cases hrun

theorem pushOutcome_ok_inv {results : List Outcome} {outcome : Outcome}
    (hrun : (Cable.pushOutcome outcome).runOn c = (.ok (), c')) (h : c.finished.Holds results) :
    ∃ finished memory, c' = { c with finished, memory } ∧ finished.Holds (results ++ [outcome]) := by
  rw [runOn_pushOutcome] at hrun
  rcases h.push (c.memory.ask c.finished.isFull c.finished.growth).1 outcome with
    ⟨finished, hpush, hholds, -⟩ | ⟨hpush, -, -⟩
  · simp only [hpush] at hrun
    cases hrun
    exact ⟨finished, _, rfl, hholds⟩
  · simp only [hpush] at hrun
    cases hrun

end Inversion

variable {σ : Type} [Driver σ] {c c' : Cable σ} {mark : σ} {done rest group : List Item} {item : Item}
  {left outcomes : List Outcome} {sampled : List Bool}

/-- Behind `mark` the items `done` were done, and what they yielded is kept behind the results that were left
    before; the items `rest` wait. -/
structure Ran (c : Cable σ) (mark : σ) (done rest : List Item) (left outcomes : List Outcome) : Prop where
  todo : c.todo.Holds rest
  finished : c.finished.Holds (left ++ outcomes)
  plain : ∀ i ∈ rest, i.plain = true
  led : Led mark done outcomes c.driver

theorem ran_start (htodo : c.todo.Holds rest) (hfinished : c.finished.Holds left)
    (hplain : ∀ i ∈ rest, i.plain = true) : c.Ran c.driver [] rest left [] :=
  ⟨htodo, by rwa [List.append_nil], hplain, [], rfl, rfl, rfl⟩

theorem Ran.append_nil (h : c.Ran mark done rest left outcomes) : c.Ran mark (done ++ []) rest left (outcomes ++ []) := by
  rwa [List.append_nil, List.append_nil]

theorem Ran.pushItem (h : c.Ran mark done rest left outcomes) (hitem : item.plain = true)
    (hrun : (Cable.pushItem item).runOn c = (.ok (), c')) : c'.Ran mark done (rest ++ [item]) left outcomes := by
  obtain ⟨todo, memory, rfl, hholds⟩ := pushItem_ok_inv hrun h.todo
  refine ⟨hholds, h.finished, fun i hi => ?_, h.led⟩
  rcases List.mem_append.mp hi with hi | hi
  · exact h.plain i hi
  · exact List.mem_singleton.mp hi ▸ hitem

theorem Ran.execute (hframed : Framed σ) (h : c.Ran mark done rest left outcomes) (hitem : item.plain = true)
    (hrun : (Cable.execute item).runOn c = (.ok (), c')) :
    ∃ new, c'.Ran mark (done ++ [item]) rest left (outcomes ++ new) := by
  cases item with
  | clock tms tdi count =>
    obtain ⟨s, hact, rfl⟩ := onDriver_ok_inv hrun
    have hdoes : (Entry.clock tms tdi count).Does c.driver s := hact
    refine ⟨[], h.todo, ?_, h.plain, h.led.does hdoes rfl fun _ => rfl⟩
    rw [List.append_nil]
    exact h.finished
  | sampleTdo =>
    obtain ⟨level, c₁, h₁, h₂⟩ := Action.bind_ok_inv hrun
    obtain ⟨s, hact, rfl⟩ := onDriver_ok_inv h₁
    obtain ⟨finished, memory, rfl, hholds⟩ := pushOutcome_ok_inv h₂ h.finished
    have hdoes : (Entry.sample level).Does c.driver s := hact
    refine ⟨[.tdo level], h.todo, List.append_assoc .. ▸ hholds, h.plain, h.led.does hdoes rfl fun start => ?_⟩
    exact ⟨level, rfl, List.mem_singleton.mpr rfl⟩
  | transfer input capture =>
    obtain ⟨answer, c₁, h₁, h₂⟩ := Action.bind_ok_inv hrun
    obtain ⟨s, hact, rfl⟩ := onDriver_ok_inv h₁
    cases capture with
    | false =>
      -- Samples that nobody wants are not kept, whatever the driver answers.
      cases h₂
      have hdoes : (Entry.transfer input []).Does c.driver s := .inr ⟨rfl, answer, hact⟩
      refine ⟨[], h.todo, ?_, h.plain, h.led.does hdoes rfl fun _ => rfl⟩
      rw [List.append_nil]
      exact h.finished
    | true =>
      obtain ⟨finished, memory, rfl, hholds⟩ := pushOutcome_ok_inv h₂ h.finished
      have hdoes : (Entry.transfer input answer).Does c.driver s := .inl hact
      refine ⟨[.transfer answer], h.todo, List.append_assoc .. ▸ hholds, h.plain,
        h.led.does hdoes rfl fun start => ?_⟩
      exact ⟨answer, rfl, hframed input answer c.driver s hact, fun i b hb => Entry.mem_heard_transfer hb⟩
  | setSignals mask value => cases hitem
  | sampleSignal lines => cases hitem

theorem Ran.executeOldest (hframed : Framed σ) (h : c.Ran mark done (item :: rest) left outcomes)
    (hrun : Cable.executeOldest.runOn c = (.ok (), c')) :
    ∃ new, c'.Ran mark (done ++ [item]) rest left (outcomes ++ new) := by
  obtain ⟨item', c₁, h₁, h₂⟩ := Action.bind_ok_inv hrun
  obtain ⟨rfl, todo, rfl, hholds⟩ := popItem_ok_inv h₁ h.todo
  have hpopped : ({ c with todo } : Cable σ).Ran mark done rest left outcomes :=
    ⟨hholds, h.finished, fun i hi => h.plain i (List.mem_cons_of_mem _ hi), h.led⟩
  exact hpopped.execute hframed (h.plain _ List.mem_cons_self) h₂

theorem Ran.executeTimes (hframed : Framed σ) (h : c.Ran mark done rest left outcomes)
    (hrun : (Cable.executeTimes rest.length).runOn c = (.ok (), c')) :
    ∃ new, c'.Ran mark (done ++ rest) [] left (outcomes ++ new) := by
  induction rest generalizing c done outcomes with
  | nil =>
    cases hrun
    exact ⟨[], h.append_nil⟩
  | cons item rest ih =>
    obtain ⟨_, c₁, h₁, h₂⟩ := Action.bind_ok_inv hrun
    obtain ⟨new, k₁⟩ := h.executeOldest hframed h₁
    obtain ⟨more, k₂⟩ := ih k₁ h₂
    refine ⟨new ++ more, ?_⟩
    rwa [List.append_assoc, List.singleton_append, List.append_assoc] at k₂

/-! ### Common transfers -/

/-- If the items want samples at all, `sampled` are those taken before each of their clocks. -/
def Covers (samples : List (Nat × Bool)) (start : Nat) (group : List Item) (sampled : List Bool) : Prop :=
  (∀ i ∈ group, i.hasOutcome = false) ∨ sampled.length = (group.flatMap Item.ticks).length ∧
    ∀ i b, sampled[i]? = some b → (start + i, b) ∈ samples

theorem Covers.mono {samples more : List (Nat × Bool)} {start : Nat} (h : Covers samples start group sampled)
    (hmore : samples ⊆ more) : Covers more start group sampled :=
  h.imp_right fun ⟨hlength, hmem⟩ => ⟨hlength, fun i b hb => hmore (hmem i b hb)⟩

/-- Behind an item its samples are gone, and the others are counted from its end. -/
theorem Covers.next {samples : List (Nat × Bool)} {start : Nat} (h : Covers samples start (item :: group) sampled)
    (hitem : item.combinable = true) :
    Covers samples (start + item.ticks.length) group (sampled.drop item.size) := by
  have hsize := Item.length_ticks_of_combinable hitem
  rcases h with hnone | ⟨hlength, hmem⟩
  · exact .inl fun i hi => hnone i (List.mem_cons_of_mem _ hi)
  · refine .inr ⟨?_, fun i b hb => ?_⟩
    · rw [List.length_drop, hlength, List.flatMap_cons, List.length_append, hsize, Nat.add_sub_cancel_left]
    · rw [List.getElem?_drop] at hb
      rw [hsize, Nat.add_assoc]
      exact hmem _ b hb

/-- The bits of `group` went out behind `done`, and `sampled` covers it; what the items of `group` yield is not kept
    yet. -/
structure Deals (c : Cable σ) (mark : σ) (done group rest : List Item) (left outcomes : List Outcome)
    (sampled : List Bool) : Prop where
  todo : c.todo.Holds (group ++ rest)
  finished : c.finished.Holds (left ++ outcomes)
  plain : ∀ i ∈ rest, i.plain = true
  led : ∃ entries, Leads entries mark c.driver ∧
    entries.flatMap Entry.ticks = (done ++ group).flatMap Item.ticks ∧
    Item.YieldsAll (Entry.heardAll 0 entries) 0 done outcomes ∧
    Covers (Entry.heardAll 0 entries) (done.flatMap Item.ticks).length group sampled

theorem Deals.ran (h : c.Deals mark done [] rest left outcomes sampled) : c.Ran mark done rest left outcomes := by
  obtain ⟨entries, hleads, hsame, hdone, -⟩ := h.led
  rw [List.append_nil] at hsame
  exact ⟨h.todo, h.finished, h.plain, entries, hleads, hsame, hdone⟩

/-- An item that was taken off and whose outcome is kept. -/
theorem Deals.keep (h : c.Deals mark done (item :: group) rest left outcomes sampled) (hitem : item.combinable = true)
    {new : List Outcome} {todo : Queue Item} {finished : Queue Outcome} {memory : Memory} (htodo : todo.Holds (group ++ rest))
    (hfinished : finished.Holds (left ++ (outcomes ++ new)))
    (hyields : ∀ samples, Covers samples (done.flatMap Item.ticks).length (item :: group) sampled →
      item.Yields samples (done.flatMap Item.ticks).length new) :
    ({ c with todo, finished, memory } : Cable σ).Deals mark (done ++ [item]) group rest left (outcomes ++ new)
      (sampled.drop item.size) := by
  obtain ⟨entries, hleads, hsame, hdone, hcovers⟩ := h.led
  refine ⟨htodo, hfinished, h.plain, entries, hleads, ?_, hdone.concat ?_, ?_⟩
  · rw [hsame, List.append_assoc, List.singleton_append]
  · rw [Nat.zero_add]
    exact hyields _ hcovers
  · rw [List.flatMap_append, List.flatMap_singleton, List.length_append]
    exact hcovers.next hitem

theorem Deals.deal (h : c.Deals mark done (item :: group) rest left outcomes sampled) (hitem : item.combinable = true)
    (hrun : (do Cable.deal sampled (← Cable.popItem) : CableAction σ Unit).runOn c = (.ok (), c')) :
    ∃ new, c'.Deals mark (done ++ [item]) group rest left (outcomes ++ new) (sampled.drop item.size) := by
  obtain ⟨item', c₁, h₁, h₂⟩ := Action.bind_ok_inv hrun
  obtain ⟨rfl, todo, rfl, hholds⟩ := popItem_ok_inv h₁ h.todo
  have hkept : c.finished.Holds (left ++ (outcomes ++ [])) := by
    rw [List.append_nil]
    exact h.finished
  cases item' with
  | clock tms tdi count =>
    cases h₂
    exact ⟨[], h.keep hitem hholds hkept fun _ _ => rfl⟩
  | transfer input capture =>
    cases capture with
    | false =>
      cases h₂
      exact ⟨[], h.keep hitem hholds hkept fun _ _ => rfl⟩
    | true =>
      obtain ⟨finished, memory, rfl, hpushed⟩ := pushOutcome_ok_inv h₂ h.finished
      refine ⟨[.transfer (sampled.take input.length)], h.keep hitem hholds (List.append_assoc .. ▸ hpushed) ?_⟩
      rintro samples (hnone | ⟨hlength, hmem⟩)
      · cases hnone _ List.mem_cons_self
      · refine ⟨_, rfl, List.length_take_of_le ?_, fun i b hb => hmem i b ?_⟩
        · rw [hlength, List.flatMap_cons, List.length_append, Item.ticks, Tick.length_lows]
          exact Nat.le_add_right ..
        · have hlt := (List.getElem?_eq_some_iff.mp hb).1
          rw [List.length_take] at hlt
          rwa [List.getElem?_take_of_lt (by omega)] at hb
  | sampleTdo =>
    cases sampled with
    | cons level sampled =>
      obtain ⟨finished, memory, rfl, hpushed⟩ := pushOutcome_ok_inv h₂ h.finished
      refine ⟨[.tdo level], h.keep hitem hholds (List.append_assoc .. ▸ hpushed) ?_⟩
      rintro samples (hnone | ⟨hlength, hmem⟩)
      · cases hnone _ List.mem_cons_self
      · exact ⟨level, rfl, hmem 0 level rfl⟩
    | nil =>
      -- No clock is left, so that TDO is sampled where the item stands.
      obtain ⟨level, c₂, h₂, h₃⟩ := Action.bind_ok_inv h₂
      obtain ⟨s, hact, rfl⟩ := onDriver_ok_inv h₂
      obtain ⟨finished, memory, rfl, hpushed⟩ := pushOutcome_ok_inv h₃ h.finished
      obtain ⟨entries, hleads, hsame, hdone, hcovers⟩ := h.led
      have hdoes : (Entry.sample level).Does c.driver s := hact
      have hwants : ([] : List Bool).length = ((Item.sampleTdo :: group).flatMap Item.ticks).length := by
        rcases hcovers with hnone | ⟨hlength, -⟩
        · cases hnone _ List.mem_cons_self
        · exact hlength
      have hgroup : group.flatMap Item.ticks = [] := List.eq_nil_of_length_eq_zero hwants.symm
      have hhere : entries.flatMap Entry.ticks = done.flatMap Item.ticks := by
        rw [hsame, List.flatMap_append, List.flatMap_cons, hgroup]
        exact List.append_nil _
      have hyields : ∀ start, Item.sampleTdo.Yields ((Entry.sample level).heard start) start [.tdo level] :=
        fun start => ⟨level, rfl, List.mem_singleton.mpr rfl⟩
      obtain ⟨entries', hleads', hsame', hdone'⟩ := Led.does ⟨entries, hleads, hhere, hdone⟩ hdoes rfl hyields
      refine ⟨[.tdo level], hholds, List.append_assoc .. ▸ hpushed, h.plain, entries', hleads', ?_, hdone', ?_⟩
      · rw [hsame']
        conv_rhs => rw [List.flatMap_append, hgroup, List.append_nil]
      · exact .inr ⟨(congrArg List.length hgroup).symm, nofun⟩
  | setSignals mask value => cases hitem
  | sampleSignal lines => cases hitem

theorem Deals.dealOut (h : c.Deals mark done group rest left outcomes sampled) (hgroup : ∀ i ∈ group, i.combinable = true)
    (hrun : (Cable.dealOut group sampled).runOn c = (.ok (), c')) :
    ∃ new, c'.Ran mark (done ++ group) rest left (outcomes ++ new) := by
  induction group generalizing c done outcomes sampled with
  | nil =>
    cases hrun
    exact ⟨[], h.ran.append_nil⟩
  | cons item group ih =>
    obtain ⟨item', c₁, h₁, hrun⟩ := Action.bind_ok_inv hrun
    obtain ⟨_, c₂, h₂, h₃⟩ := Action.bind_ok_inv hrun
    obtain ⟨rfl, -⟩ := popItem_ok_inv h₁ h.todo
    obtain ⟨new, k₂⟩ := h.deal (hgroup item' List.mem_cons_self) ((Action.runOn_bind_ok h₁ _).trans h₂)
    obtain ⟨more, k₃⟩ := ih k₂ (fun i hi => hgroup i (List.mem_cons_of_mem _ hi)) h₃
    refine ⟨new ++ more, ?_⟩
    rwa [List.append_assoc, List.singleton_append, List.append_assoc] at k₃

theorem flatMap_ticks_of_combinable (hgroup : ∀ i ∈ group, i.combinable = true) :
    group.flatMap Item.ticks = Tick.lows (group.flatMap Item.bits) := by
  rw [Tick.lows, List.map_flatMap]
  exact List.flatMap_congr fun i hi => Item.ticks_of_combinable (hgroup i hi)

theorem Ran.transferRun (hframed : Framed σ) (h : c.Ran mark done (group ++ rest) left outcomes)
    (hgroup : ∀ i ∈ group, i.combinable = true) (hrun : (Cable.transferRun group).runOn c = (.ok (), c')) :
    ∃ new, c'.Ran mark (done ++ group) rest left (outcomes ++ new) := by
  obtain ⟨answer, c₁, h₁, h₂⟩ := Action.bind_ok_inv hrun
  obtain ⟨s, hact, rfl⟩ := onDriver_ok_inv h₁
  obtain ⟨entries, hleads, hsame, hdone⟩ := h.led
  have hticks := flatMap_ticks_of_combinable hgroup
  have hplain : ∀ i ∈ rest, i.plain = true := fun i hi => h.plain i (List.mem_append_right _ hi)
  -- Without an item that wants samples there is nothing to deal out, whatever the driver answers.
  obtain ⟨sampled, hdoes, hcovers⟩ : ∃ sampled, (Entry.transfer (group.flatMap Item.bits) sampled).Does c.driver s ∧
      Covers ((Entry.transfer (group.flatMap Item.bits) sampled).heard (done.flatMap Item.ticks).length)
        (done.flatMap Item.ticks).length group answer := by
    cases hany : group.any Item.hasOutcome with
    | true =>
      rw [hany] at hact
      refine ⟨answer, .inl hact, .inr ⟨?_, fun i b hb => Entry.mem_heard_transfer hb⟩⟩
      rw [hframed _ _ _ _ hact, hticks, Tick.length_lows]
    | false =>
      rw [hany] at hact
      refine ⟨[], .inr ⟨rfl, answer, hact⟩, .inl fun i hi => ?_⟩
      rw [List.any_eq_false] at hany
      exact Bool.eq_false_iff.mpr (hany i hi)
  have hheard := heardAll_concat hsame (.transfer (group.flatMap Item.bits) sampled)
  have hdeals : ({ c with driver := s } : Cable σ).Deals mark done group rest left outcomes answer := by
    refine ⟨h.todo, h.finished, hplain, _, hleads.concat hdoes, ?_, ?_, ?_⟩
    · rw [List.flatMap_append, List.flatMap_append, hsame, List.flatMap_singleton, hticks]
      rfl
    · rw [hheard]
      exact hdone.mono (List.subset_append_left ..)
    · rw [hheard]
      exact hcovers.mono (List.subset_append_right ..)
  exact hdeals.dealOut hgroup h₂

/-! ### Flushing -/

/-- A round does at least one item. -/
theorem Ran.combineRound (hframed : Framed σ) (h : c.Ran mark done rest left outcomes) (hne : rest ≠ [])
    (hrun : Cable.combineRound.runOn c = (.ok (), c')) :
    ∃ group rest' new, rest = group ++ rest' ∧ group ≠ [] ∧ c'.Ran mark (done ++ group) rest' left (outcomes ++ new) := by
  obtain ⟨item, rest, rfl⟩ := List.exists_cons_of_ne_nil hne
  unfold Cable.combineRound at hrun
  rw [Action.runOn_bind_ok (Action.runOn_inspect run c)] at hrun
  by_cases hone : (c.run.length ≤ 1 || c.run.all (·.size == 0)) = true
  · rw [if_pos hone] at hrun
    obtain ⟨new, k⟩ := h.executeOldest hframed hrun
    exact ⟨[item], rest, new, rfl, List.cons_ne_nil _ _, k⟩
  · have hsplit := run_append h.todo
    rw [if_neg hone] at hrun
    rw [← hsplit] at h
    obtain ⟨new, k⟩ := h.transferRun hframed combinable_of_mem_run hrun
    exact ⟨c.run, _, new, hsplit.symm, run_ne_nil hone, k⟩

theorem Ran.combineRounds (hframed : Framed σ) {fuel : Nat} (h : c.Ran mark done rest left outcomes)
    (hfuel : rest.length ≤ fuel) (hrun : (Cable.combineRounds fuel).runOn c = (.ok (), c')) :
    ∃ new, c'.Ran mark (done ++ rest) [] left (outcomes ++ new) := by
  induction fuel generalizing c done rest outcomes with
  | zero =>
    obtain rfl := List.eq_nil_of_length_eq_zero (Nat.le_zero.mp hfuel)
    cases hrun
    exact ⟨[], h.append_nil⟩
  | succ fuel ih =>
    rw [Cable.combineRounds, Action.runOn_bind_ok (Action.runOn_inspect _ c), h.todo.isEmpty] at hrun
    cases rest with
    | nil =>
      cases hrun
      exact ⟨[], h.append_nil⟩
    | cons item rest =>
      obtain ⟨_, c₁, h₁, h₂⟩ := Action.bind_ok_inv hrun
      obtain ⟨group, rest', new, hsplit, hgroup, k₁⟩ := h.combineRound hframed (List.cons_ne_nil _ _) h₁
      have hlength := congrArg List.length hsplit
      have hpos := List.length_pos_iff.mpr hgroup
      rw [List.length_append] at hlength
      obtain ⟨more, k₂⟩ := ih k₁ (by omega) h₂
      refine ⟨new ++ more, ?_⟩
      rw [hsplit]
      rwa [List.append_assoc, List.append_assoc] at k₂

/-- Executing deferred work does items from the front on; unless it was optional, all of them. -/
theorem Ran.drain (hframed : Framed σ) (h : c.Ran mark done rest left outcomes) {amount : FlushAmount}
    (hrun : (Cable.drain amount).runOn c = (.ok (), c')) :
    ∃ group rest' new, rest = group ++ rest' ∧ (amount ≠ .optionally → rest' = []) ∧
      c'.Ran mark (done ++ group) rest' left (outcomes ++ new) := by
  have hpending : c.pending = rest.length := h.todo.count
  unfold Cable.drain at hrun
  rw [Action.runOn_bind_ok (Action.runOn_get c), hpending] at hrun
  cases hstrategy : c.strategy with
  | oneByOne =>
    rw [hstrategy] at hrun
    obtain ⟨new, k⟩ := h.executeTimes hframed hrun
    exact ⟨rest, [], new, (List.append_nil _).symm, fun _ => rfl, k⟩
  | combineTransfers =>
    rw [hstrategy] at hrun
    dsimp only at hrun
    by_cases hworth : c.worthwhile amount = true
    · rw [if_pos hworth] at hrun
      obtain ⟨new, k⟩ := h.combineRounds hframed (Nat.le_refl _) hrun
      exact ⟨rest, [], new, (List.append_nil _).symm, fun _ => rfl, k⟩
    · rw [if_neg hworth] at hrun
      cases hrun
      exact ⟨[], rest, [], rfl, fun hamount => absurd (worthwhile_of_ne hamount) hworth, h.append_nil⟩

end Cable
end Jtag
