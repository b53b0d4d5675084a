import Mathlib.Data.List.DropRight
import Jtag.Proofs.Cable.Combine
import Jtag.Proofs.Cable.Overheard

/-! What a round of a flush takes off the deferred work and which calls the driver gets for it, whichever of them
    fail. An item that goes out alone comes off before it is executed. A run that goes out as one transfer comes off
    item by item behind the transfer, so that a failure leaves the rest of the run pending although the driver had
    it already. -/

namespace Jtag
namespace Cable

/-! ### Calls beside the deferred work -/

section Spares
variable {σ α β : Type} {c c₁ c' : Cable (Overheard σ)} {calls more : List Call}

/-- Both cables have the same deferred work and execute it in the same way. In between the driver got `calls`. -/
structure Made (c : Cable (Overheard σ)) (calls : List Call) (c' : Cable (Overheard σ)) : Prop where
  todo : c'.todo = c.todo
  strategy : c'.strategy = c.strategy
  calls : c'.driver.calls = c.driver.calls ++ calls

theorem made_nil (htodo : c'.todo = c.todo) (hstrategy : c'.strategy = c.strategy) (hdriver : c'.driver = c.driver) :
    c.Made [] c' := ⟨htodo, hstrategy, by rw [hdriver, List.append_nil]⟩

theorem Made.trans (h₁ : c.Made calls c₁) (h₂ : c₁.Made more c') : c.Made (calls ++ more) c' :=
  ⟨h₂.todo.trans h₁.todo, h₂.strategy.trans h₁.strategy, by rw [h₂.calls, h₁.calls, List.append_assoc]⟩

/-- In between the driver got some of `calls`. -/
def MadeSome (c : Cable (Overheard σ)) (calls : List Call) (c' : Cable (Overheard σ)) : Prop :=
  ∃ own, own.Sublist calls ∧ c.Made own c'

theorem Made.some (h : c.Made calls c') : c.MadeSome calls c' := ⟨calls, List.Sublist.refl _, h⟩

theorem MadeSome.trans (h₁ : c.MadeSome calls c₁) (h₂ : c₁.MadeSome more c') : c.MadeSome (calls ++ more) c' := by
  obtain ⟨own₁, hsub₁, hmade₁⟩ := h₁
  obtain ⟨own₂, hsub₂, hmade₂⟩ := h₂
  exact ⟨own₁ ++ own₂, hsub₁.append hsub₂, hmade₁.trans hmade₂⟩

/-- Whatever comes of it, the action makes `calls` and leaves the deferred work alone. -/
def Makes (act : CableAction (Overheard σ) α) (calls : List Call) : Prop :=
  ∀ c : Cable (Overheard σ), c.Made calls (act.runOn c).2

/-- The action makes no calls but `calls`, and leaves the deferred work alone. -/
def Spares (act : CableAction (Overheard σ) α) (calls : List Call) : Prop :=
  ∀ c : Cable (Overheard σ), c.MadeSome calls (act.runOn c).2

variable {act : CableAction (Overheard σ) α} {next : α → CableAction (Overheard σ) β}

theorem Makes.spares (h : Makes act calls) : Spares act calls := fun c => (h c).some

/-- An action that makes no calls spares the driver any. -/
theorem Makes.silent (h : Makes act []) (calls : List Call) : Spares act calls :=
  fun c => ⟨[], List.nil_sublist _, h c⟩

theorem makes_pure (a : α) : Makes (pure a : CableAction (Overheard σ) α) [] := fun _ => made_nil rfl rfl rfl

theorem makes_throw (e : CableError) : Makes (throw e : CableAction (Overheard σ) α) [] := fun _ => made_nil rfl rfl rfl

theorem makes_ofExcept (answer : Except CableError α) :
    Makes (Action.ofExcept answer : CableAction (Overheard σ) α) [] := fun _ => made_nil rfl rfl rfl

theorem makes_hear (call : Call) (act : DriverAction σ α) : Makes (onDriver (Overheard.hear call act)) [call] :=
  fun _ => ⟨rfl, rfl, rfl⟩

theorem makes_pushOutcome (outcome : Outcome) : Makes (pushOutcome outcome : CableAction (Overheard σ) Unit) [] :=
  fun _ => made_nil rfl rfl rfl

theorem makes_popOutcome : Makes (popOutcome : CableAction (Overheard σ) Outcome) [] := fun _ => made_nil rfl rfl rfl

theorem makes_outOfSync : Makes (outOfSync : CableAction (Overheard σ) α) [] := fun _ => made_nil rfl rfl rfl

theorem Makes.outcome (h : Makes act calls) :
    Makes (act.outcome : CableAction (Overheard σ) (Except CableError α)) calls :=
  fun c => h c

/-- What follows a failure is not run, so what makes no calls may follow. -/
theorem Makes.bind_silent (hact : Makes act calls) (hnext : ∀ a, Makes (next a) []) : Makes (act >>= next) calls := by
  intro c
  have hfirst := hact c
  rw [Action.runOn_bind]
  rcases hrun : act.runOn c with ⟨e | a, c₁⟩
  · rwa [hrun] at hfirst
  · rw [hrun] at hfirst
    rw [← List.append_nil calls]
    exact hfirst.trans (hnext a c₁)

/-- What follows an action makes its own calls behind it, if it is run. -/
theorem Spares.behind (hnext : ∀ a, Spares (next a) calls) (c : Cable (Overheard σ)) :
    MadeSome (act.runOn c).2 calls ((act >>= next).runOn c).2 := by
  rw [Action.runOn_bind]
  rcases act.runOn c with ⟨e | a, c₁⟩
  · exact ⟨[], List.nil_sublist _, made_nil rfl rfl rfl⟩
  · exact hnext a c₁

theorem Spares.bind (hact : Spares act calls) (hnext : ∀ a, Spares (next a) more) :
    Spares (act >>= next) (calls ++ more) := fun c => (hact c).trans (Spares.behind hnext c)

end Spares

/-! ### Executing and dealing -/

section Deal
variable {σ : Type} [Driver σ]

theorem makes_execute (item : Item) : Makes (execute item : CableAction (Overheard σ) Unit) [item.call] := by
  cases item with
  | clock tms tdi count => exact makes_hear _ _
  | setSignals mask value => exact (makes_hear _ _).bind_silent fun _ => makes_pure _
  | sampleTdo => exact (makes_hear _ _).bind_silent fun _ => makes_pushOutcome _
  | sampleSignal lines => exact (makes_hear _ _).bind_silent fun _ => makes_pushOutcome _
  | transfer input capture =>
    refine (makes_hear _ _).bind_silent fun sampled => ?_
    cases capture with
    | false => exact makes_pure _
    | true => exact makes_pushOutcome _

/-- The calls for an item whose part of the samples of a transfer is dealt out when none is left. -/
def lateCalls : Item → List Call
  | .sampleTdo => [.sampleTdo]
  | .clock .. | .transfer .. | .setSignals .. | .sampleSignal _ => []

theorem makes_deal (sampled : List Bool) (item : Item) :
    Makes (deal sampled item : CableAction (Overheard σ) Unit) (if sampled.isEmpty then lateCalls item else []) := by
  cases item with
  | clock tms tdi count =>
    rw [lateCalls, ite_self]
    exact makes_pure _
  | setSignals mask value =>
    rw [lateCalls, ite_self]
    exact makes_throw _
  | sampleSignal lines =>
    rw [lateCalls, ite_self]
    exact makes_throw _
  | sampleTdo =>
    cases sampled with
    | nil => exact makes_execute .sampleTdo
    | cons value sampled => exact makes_pushOutcome _
  | transfer input capture =>
    rw [lateCalls, ite_self]
    cases capture with
    | false => exact makes_pure _
    | true => exact makes_pushOutcome _

/-- The calls while the samples of a transfer are dealt out. -/
def dealtCalls : List Item → List Bool → List Call
  | [], _ => []
  | item :: group, sampled =>
    (if sampled.isEmpty then lateCalls item else []) ++ dealtCalls group (sampled.drop item.size)

/-- The items of a run up to the last one that has bits. -/
def sent (group : List Item) : List Item := group.rdropWhile (·.size == 0)

theorem sent_cons (item : Item) (group : List Item) :
    sent (item :: group) = if (item :: group).all (·.size == 0) then [] else item :: sent group := by
  rw [sent, sent, List.rdropWhile, List.rdropWhile, List.reverse_cons, List.dropWhile_append, List.all_cons]
  by_cases hgroup : group.all (·.size == 0) = true
  · have hnil : group.reverse.dropWhile (·.size == 0) = [] := by
      rw [List.dropWhile_eq_nil_iff]
      exact fun i hi => List.all_eq_true.mp hgroup i (List.mem_reverse.mp hi)
    rw [hnil, hgroup, Bool.and_true]
    cases hsize : item.size == 0 <;> simp [hsize]
  · have hcons : group.reverse.dropWhile (·.size == 0) ≠ [] := by
      rw [Ne, List.dropWhile_eq_nil_iff]
      exact fun hall => hgroup (List.all_eq_true.mpr fun i hi => hall i (List.mem_reverse.mpr hi))
    rw [if_neg (by simpa using hcons), if_neg (by simp [hgroup]), List.reverse_append]
    rfl

theorem isPrefix_sent (group : List Item) : sent group <+: group := List.rdropWhile_prefix _ _

theorem sent_eq_nil_iff (group : List Item) : sent group = [] ↔ group.all (·.size == 0) = true := by
  rw [sent, List.rdropWhile_eq_nil_iff, List.all_eq_true]

theorem all_size_iff (group : List Item) :
    group.all (·.size == 0) = true ↔ (group.flatMap Item.bits).length = 0 := by
  rw [List.all_eq_true, List.length_eq_zero_iff, List.flatMap_eq_nil_iff]
  refine forall₂_congr fun item _ => ?_
  rw [beq_iff_eq, item.size_eq_length_bits, List.length_eq_zero_iff]

/-- A transfer has the bits of the items that are sent with it, and no others. -/
theorem flatMap_bits_sent (group : List Item) : (sent group).flatMap Item.bits = group.flatMap Item.bits := by
  induction group with
  | nil => rfl
  | cons item group ih =>
    rw [sent_cons]
    split
    · rename_i hall
      exact (List.length_eq_zero_iff.mp ((all_size_iff _).mp hall)).symm
    · rw [List.flatMap_cons, ih, List.flatMap_cons]

/-- Only items behind the last bit of a run have to sample TDO on their own. -/
theorem dealtCalls_take (group : List Item) {sampled : List Bool}
    (hlength : sampled.length = (group.flatMap Item.bits).length) (taken : Nat) :
    dealtCalls (group.take taken) sampled = ((group.take taken).drop (sent group).length).flatMap lateCalls := by
  induction group generalizing sampled taken with
  | nil => simp [dealtCalls]
  | cons item group ih =>
    cases taken with
    | zero => simp [dealtCalls]
    | succ taken =>
      have hrest : (sampled.drop item.size).length = (group.flatMap Item.bits).length := by
        rw [List.length_drop, hlength, List.flatMap_cons, List.length_append, item.size_eq_length_bits]
        exact Nat.add_sub_cancel_left ..
      rw [List.take_succ_cons, dealtCalls, ih hrest]
      by_cases hall : (item :: group).all (·.size == 0) = true
      · have hnone : sampled = [] := by
          rw [← List.length_eq_zero_iff, hlength]
          exact (all_size_iff _).mp hall
        have hgroup : sent group = [] :=
          (sent_eq_nil_iff group).mpr (Bool.and_eq_true_iff.mp (List.all_cons.symm.trans hall)).2
        rw [sent_cons, if_pos hall, hgroup, hnone]
        rfl
      · have hsome : sampled.isEmpty = false := by
          rw [List.isEmpty_eq_false_iff, Ne, ← List.length_eq_zero_iff, hlength]
          exact fun hzero => hall ((all_size_iff _).mpr hzero)
        rw [sent_cons, if_neg hall, hsome]
        rfl

/-- Without an item that has an outcome, nothing is sampled. -/
theorem lateCalls_of_not_hasOutcome {item : Item} (h : item.hasOutcome = false) : lateCalls item = [] := by
  cases item <;> first | rfl | cases h

theorem dealtCalls_of_not_hasOutcome {group : List Item} (h : group.any Item.hasOutcome = false) (sampled : List Bool) :
    dealtCalls group sampled = [] := by
  induction group generalizing sampled with
  | nil => rfl
  | cons item group ih =>
    rw [List.any_cons, Bool.or_eq_false_iff] at h
    rw [dealtCalls, lateCalls_of_not_hasOutcome h.1, ite_self, ih h.2]
    rfl

end Deal

/-! ### Taking items off -/

variable {σ : Type} {c c' : Cable (Overheard σ)} {strategy : FlushStrategy} {item : Item}
  {items group rest : List Item} {calls more : List Call}

/-- The items that wait in a cable, how they are going to be executed, and the calls that the driver got so far. -/
structure Waits (c : Cable (Overheard σ)) (strategy : FlushStrategy) (items : List Item) (calls : List Call) :
    Prop where
  todo : c.todo.Holds items
  strategy : c.strategy = strategy
  calls : c.driver.calls = calls

theorem Waits.made (h : c.Waits strategy items calls) (hmade : c.Made more c') :
    c'.Waits strategy items (calls ++ more) :=
  ⟨hmade.todo ▸ h.todo, hmade.strategy.trans h.strategy, by rw [hmade.calls, h.calls]⟩

theorem Waits.makes {α : Type} {act : CableAction (Overheard σ) α} (h : c.Waits strategy items calls)
    (hact : Makes act more) : ∃ answer c', act.runOn c = (answer, c') ∧ c'.Waits strategy items (calls ++ more) :=
  ⟨_, _, rfl, h.made (hact c)⟩

theorem Waits.pending (h : c.Waits strategy items calls) : c.pending = items.length := h.todo.count

theorem Waits.popItem (h : c.Waits strategy (item :: items) calls) :
    ∃ c', Cable.popItem.runOn c = (.ok item, c') ∧ c'.Waits strategy items calls := by
  obtain ⟨todo, hpop, hholds, -, -⟩ := h.todo.pop_cons
  exact ⟨{ c with todo }, by rw [runOn_popItem, hpop], hholds, h.strategy, h.calls⟩

/-- An item is accepted, or refused by a full ring that gets no memory. -/
theorem Waits.pushItem (h : c.Waits strategy items calls) (item : Item) :
    (∃ c', (Cable.pushItem item).runOn c = (.ok (), c') ∧ c'.Waits strategy (items ++ [item]) calls) ∨
      ∃ c', (Cable.pushItem item).runOn c = (.error .outOfMemory, c') ∧ c'.Waits strategy items calls := by
  rw [runOn_pushItem]
  rcases h.todo.push (c.memory.ask c.todo.isFull c.todo.growth).1 item with ⟨todo, hpush, hholds, -⟩ | ⟨hpush, -, -⟩
  · simp only [hpush]
    exact .inl ⟨_, rfl, hholds, h.strategy, h.calls⟩
  · simp only [hpush]
    exact .inr ⟨_, rfl, h.todo, h.strategy, h.calls⟩

variable [Driver σ]

/-- The oldest item comes off before it is executed, so a failure does not bring it back. -/
theorem Waits.executeOldest (h : c.Waits strategy (item :: items) calls) :
    ∃ answer c', Cable.executeOldest.runOn c = (answer, c') ∧ c'.Waits strategy items (calls ++ [item.call]) := by
  obtain ⟨c₁, h₁, k₁⟩ := h.popItem
  obtain ⟨answer, c₂, h₂, k₂⟩ := k₁.makes (makes_execute item)
  exact ⟨answer, c₂, (Action.runOn_bind_ok h₁ _).trans h₂, k₂⟩

/-- Dealing takes items off one by one. The item `k` places behind the first one stays exactly if dealing
to the items before it fails. -/
theorem Waits.dealOut (h : c.Waits strategy (group ++ rest) calls) (sampled : List Bool) :
    ∃ answer c' taken, (Cable.dealOut group sampled).runOn c = (answer, c') ∧
      c'.Waits strategy (group.drop taken ++ rest) (calls ++ dealtCalls (group.take taken) sampled) ∧
      taken ≤ group.length ∧
      ∀ k < group.length, taken ≤ k ↔ ((Cable.dealOut (group.take k) sampled).runOn c).1.isOk = false := by
  induction group generalizing c sampled calls with
  | nil =>
    refine ⟨.ok (), c, 0, rfl, ?_, Nat.le_refl _, fun k hk => absurd hk (Nat.not_lt_zero k)⟩
    rwa [List.take_zero, dealtCalls, List.append_nil]
  | cons item group ih =>
    obtain ⟨c₁, h₁, k₁⟩ := h.popItem
    obtain ⟨answer, c₂, h₂, k₂⟩ := k₁.makes (makes_deal sampled item)
    rw [Cable.dealOut, Action.runOn_bind_ok h₁]
    cases answer with
    | error e =>
      refine ⟨.error e, c₂, 1, Action.runOn_bind_error h₂ _, ?_, Nat.succ_le_succ (Nat.zero_le _), fun k _ => ?_⟩
      · rwa [List.take_succ_cons, List.take_zero, dealtCalls, dealtCalls, List.append_nil]
      · cases k with
        | zero => exact iff_of_false (Nat.not_succ_le_zero 0) Bool.false_ne_true.symm
        | succ k =>
          refine iff_of_true (Nat.succ_le_succ (Nat.zero_le k)) ?_
          rw [List.take_succ_cons, Cable.dealOut, Action.runOn_bind_ok h₁, Action.runOn_bind_error h₂]
          rfl
    | ok _ =>
      obtain ⟨answer, c₃, taken, h₃, k₃, hle, hstays⟩ := ih k₂ (sampled.drop item.size)
      refine ⟨answer, c₃, taken + 1, (Action.runOn_bind_ok h₂ _).trans h₃, ?_, Nat.succ_le_succ hle, fun k hk => ?_⟩
      · rwa [List.take_succ_cons, dealtCalls, ← List.append_assoc]
      · cases k with
        | zero => exact iff_of_false (Nat.not_succ_le_zero taken) Bool.false_ne_true.symm
        | succ k =>
          rw [List.take_succ_cons, Cable.dealOut, Action.runOn_bind_ok h₁, Action.runOn_bind_ok h₂,
            Nat.add_le_add_iff_right]
          exact hstays k (Nat.lt_of_succ_lt_succ hk)

/-- The transfer of a whole run, with its samples dealt out to the first `k` items only. -/
def transferPart {σ : Type} [Driver σ] (group : List Item) (k : Nat) : CableAction σ Unit := do
  let sampled ← onDriver (Driver.transfer (group.flatMap Item.bits) (group.any Item.hasOutcome))
  dealOut (group.take k) sampled

/-- A run comes off only behind its transfer, and not at all if that fails. The items behind its last bit sample TDO
    when they come off. -/
theorem Waits.transferRun (hframed : Framed σ) (h : c.Waits strategy (group ++ rest) calls) :
    ∃ answer c' taken, (Cable.transferRun group).runOn c = (answer, c') ∧
      c'.Waits strategy (group.drop taken ++ rest)
        (calls ++ .transfer ((sent group).flatMap Item.bits) (group.any Item.hasOutcome) ::
          ((group.take taken).drop (sent group).length).flatMap lateCalls) ∧
      taken ≤ group.length ∧
      ∀ k < group.length, taken ≤ k ↔ ((transferPart group k).runOn c).1.isOk = false := by
  have hcall : Makes (onDriver (Driver.transfer (group.flatMap Item.bits) (group.any Item.hasOutcome)) :
      CableAction (Overheard σ) (List Bool)) [.transfer (group.flatMap Item.bits) (group.any Item.hasOutcome)] :=
    makes_hear _ _
  obtain ⟨answer, c₁, h₁, k₁⟩ := h.makes hcall
  rw [Cable.transferRun, flatMap_bits_sent]
  cases answer with
  | error e =>
    refine ⟨.error e, c₁, 0, Action.runOn_bind_error h₁ _, ?_, Nat.zero_le _, fun k _ => ?_⟩
    · rwa [List.take_zero, List.drop_nil]
    · rw [transferPart, Action.runOn_bind_error h₁]
      exact iff_of_true (Nat.zero_le k) rfl
  | ok sampled =>
    obtain ⟨answer, c₂, taken, h₂, k₂, hle, hstays⟩ := k₁.dealOut sampled
    refine ⟨answer, c₂, taken, (Action.runOn_bind_ok h₁ _).trans h₂, ?_, hle, fun k hk => ?_⟩
    · have hdealt : dealtCalls (group.take taken) sampled =
          ((group.take taken).drop (sent group).length).flatMap lateCalls := by
        cases hwanted : group.any Item.hasOutcome with
        | true =>
          rw [hwanted, runOn_onDriver] at h₁
          obtain ⟨hanswer, -⟩ := Prod.ext_iff.mp h₁
          exact dealtCalls_take group (Overheard.framed hframed _ _ _ _ (Prod.ext hanswer rfl)) taken
        | false =>
          have hnone : ∀ i ∈ group, i.hasOutcome = false := by simpa using hwanted
          rw [dealtCalls_of_not_hasOutcome (by simpa using fun i hi => hnone i (List.mem_of_mem_take hi))]
          refine (List.flatMap_eq_nil_iff.mpr fun i hi => ?_).symm
          exact lateCalls_of_not_hasOutcome (hnone i (List.mem_of_mem_take (List.mem_of_mem_drop hi)))
      rwa [hdealt, List.append_assoc, List.singleton_append] at k₂
    · rw [transferPart, Action.runOn_bind_ok h₁]
      exact hstays k hk

end Cable

/-! ### Rounds -/

/-- What a round hands to the driver. -/
inductive Parcel where
  /-- One item. -/
  | alone (item : Item)
  /-- The items of a run up to the last one that has bits, as one transfer, and behind it those that were taken off
  of the rest of the run. -/
  | combined (sent late : List Item) (capture : Bool)
deriving DecidableEq, Repr

namespace Parcel

/-- The items of the first call. -/
def batch : Parcel → List Item
  | alone item => [item]
  | combined sent _ _ => sent

def items : Parcel → List Item
  | alone item => [item]
  | combined sent late _ => sent ++ late

def calls : Parcel → List Call
  | alone item => [item.call]
  | combined sent late capture => .transfer (sent.flatMap Item.bits) capture :: late.flatMap Cable.lateCalls

/-- What is handed over are the oldest items that wait: those of the first call, and further ones that are among
the `taken` items taken off. -/
structure Fits (parcel : Parcel) (taken : Nat) (waiting : List Item) : Prop where
  batch : parcel.batch ≠ []
  items : parcel.items = waiting.take (max parcel.batch.length taken)
  batch_le : parcel.batch.length ≤ waiting.length
  taken_le : taken ≤ waiting.length

theorem Fits.length {parcel : Parcel} {taken : Nat} {waiting : List Item} (h : parcel.Fits taken waiting) :
    parcel.items.length = max parcel.batch.length taken := by
  rw [h.items, List.length_take_of_le (Nat.max_le.mpr ⟨h.batch_le, h.taken_le⟩)]

end Parcel

namespace Cable

section Rounds
variable {σ : Type} [Driver σ]

/-- The next round sends a run as one transfer. -/
def combines (c : Cable σ) : Bool :=
  match c.strategy with
  | .oneByOne => false
  | .combineTransfers => !(c.run.length ≤ 1 || c.run.all (·.size == 0))

/-- What the next round hands to the driver when `item` is the oldest one and it takes `taken` items off. -/
def parcel (c : Cable σ) (item : Item) (taken : Nat) : Parcel :=
  if c.combines then
    .combined (sent c.run) ((c.run.take taken).drop (sent c.run).length) (c.run.any Item.hasOutcome)
  else .alone item

/-- The next round fails before the last item of its first call comes off: the driver refuses the transfer, or
there is no room for what an earlier item yields. -/
def breaks (c : Cable σ) : Bool :=
  c.combines && !((transferPart c.run ((sent c.run).length - 1)).runOn c).1.isOk

def round : FlushStrategy → CableAction σ Unit
  | .oneByOne => executeOldest
  | .combineTransfers => combineRound

def rounds (strategy : FlushStrategy) : Nat → CableAction σ Unit
  | 0 => pure ()
  | fuel + 1 => do
    if ← Action.inspect (·.todo.isEmpty) then return
    round strategy
    rounds strategy fuel

end Rounds

variable {σ : Type} {c : Cable (Overheard σ)} {strategy : FlushStrategy} {item : Item} {items : List Item}
  {calls : List Call}

theorem Waits.run (h : c.Waits strategy items calls) : c.run = items.takeWhile Item.combinable := by
  rw [Cable.run, h.todo.toList]

theorem sent_ne_nil (hcombines : c.combines = true) : sent c.run ≠ [] := by
  intro hnil
  unfold combines at hcombines
  split at hcombines
  · cases hcombines
  · rw [(sent_eq_nil_iff _).mp hnil, Bool.or_true] at hcombines
    cases hcombines

theorem Waits.combines (h : c.Waits strategy items calls) (hcombines : c.combines = true) :
    strategy = .combineTransfers := by
  rw [Cable.combines, h.strategy] at hcombines
  cases strategy with
  | oneByOne => cases hcombines
  | combineTransfers => rfl

variable [Driver σ]

theorem Waits.round_of_not_combines (h : c.Waits strategy (item :: items) calls) (hcombines : c.combines = false) :
    (Cable.round strategy).runOn c = Cable.executeOldest.runOn c := by
  cases strategy with
  | oneByOne => rfl
  | combineTransfers =>
    rw [Cable.combines, h.strategy, Bool.not_eq_false'] at hcombines
    rw [Cable.round, Cable.combineRound, Action.runOn_bind_ok (Action.runOn_inspect Cable.run c), if_pos hcombines]

theorem round_of_combines (hcombines : c.combines = true) :
    (Cable.round c.strategy).runOn c = (Cable.transferRun c.run).runOn c := by
  unfold Cable.combines at hcombines
  split at hcombines
  · cases hcombines
  · rename_i hstrategy
    rw [Bool.not_eq_true'] at hcombines
    rw [hstrategy, Cable.round, Cable.combineRound, Action.runOn_bind_ok (Action.runOn_inspect Cable.run c),
      if_neg (by rw [hcombines]; decide)]

omit [Driver σ] in
theorem take_max_eq {front run : List Item} (h : front <+: run) (taken : Nat) :
    run.take (max front.length taken) = front ++ (run.take taken).drop front.length := by
  obtain ⟨rest, rfl⟩ := h
  rcases Nat.le_total taken front.length with hle | hle
  · rw [Nat.max_eq_left hle, List.take_left, List.drop_of_length_le, List.append_nil]
    rw [List.length_take]
    exact Nat.le_trans (Nat.min_le_left ..) hle
  · rw [Nat.max_eq_right hle, List.take_append, List.take_of_length_le hle, List.drop_left]

/-- A round takes items off the front: all that were in its first call, or less if it breaks. The calls it makes are
    those of its parcel. -/
theorem Waits.round (hframed : Framed σ) (h : c.Waits strategy (item :: items) calls) :
    ∃ answer c' taken, (Cable.round strategy).runOn c = (answer, c') ∧
      c'.Waits strategy ((item :: items).drop taken) (calls ++ (c.parcel item taken).calls) ∧
      (c.parcel item taken).Fits taken (item :: items) ∧
      (taken < (c.parcel item taken).batch.length ↔ c.breaks = true) := by
  cases hcombines : c.combines with
  | false =>
    obtain ⟨answer, c', h', k'⟩ := h.executeOldest
    refine ⟨answer, c', 1, (h.round_of_not_combines hcombines).trans h', ?_⟩
    rw [parcel, Cable.breaks, hcombines, if_neg Bool.false_ne_true]
    have hone : 1 ≤ (item :: items).length := Nat.succ_le_succ (Nat.zero_le _)
    exact ⟨k', ⟨nofun, rfl, hone, hone⟩, iff_of_false (Nat.lt_irrefl 1) Bool.false_ne_true⟩
  | true =>
    have hne := sent_ne_nil hcombines
    have hpos := List.length_pos_iff.mpr hne
    have hsent := (isPrefix_sent c.run).length_le
    have hsplit := run_append h.todo
    have hprefix : c.run <+: item :: items := by
      rw [h.run]
      exact List.takeWhile_prefix _
    have hfront := hprefix.length_le
    rw [← hsplit] at h
    obtain ⟨answer, c', taken, h', k', htaken, hstays⟩ := h.transferRun hframed
    rw [← List.drop_append_of_le_length htaken, hsplit] at k'
    rw [← h.strategy, round_of_combines hcombines]
    refine ⟨answer, c', taken, h', h.strategy ▸ ?_⟩
    rw [parcel, if_pos hcombines, Cable.breaks, hcombines, Bool.true_and, Bool.not_eq_true',
      ← hstays ((sent c.run).length - 1) (by omega)]
    refine ⟨k', ⟨hne, ?_, Nat.le_trans hsent hfront, Nat.le_trans htaken hfront⟩, ?_⟩
    · rw [Parcel.items, Parcel.batch, ← take_max_eq (isPrefix_sent c.run), ← hsplit,
        List.take_append_of_le_length (Nat.max_le.mpr ⟨hsent, htaken⟩)]
    · show taken < (sent c.run).length ↔ _
      omega

end Cable
end Jtag
