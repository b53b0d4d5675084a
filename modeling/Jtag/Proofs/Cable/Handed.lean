import Jtag.Proofs.Cable.History
import Jtag.Proofs.Cable.Strategies
import Jtag.Proofs.Cable.Watched

/-! The history of a cable whose driver is overheard. What its operations do is told as events, and the calls that
    the driver gets are those of the events: of rounds, each with the items that it hands over, and the own ones of
    operations. -/

namespace Jtag

variable {σ : Type} [Driver σ]

namespace Cable

/-! ### Flushes -/

/-- What the next round of the cable does with `item` as the oldest one, when `accepted` items were accepted. -/
def handing (c : Cable σ) (accepted : Nat) (item : Item) : Event :=
  let taken := c.pending - ((round c.strategy).runOn c).2.pending
  .hand (accepted - c.pending) (c.parcel item taken) taken c.breaks

/-- What rounds do until nothing is pending or one of them fails. -/
def roundEvents (accepted : Nat) : Nat → Cable σ → List Event
  | 0, _ => []
  | fuel + 1, c =>
    match c.todo.peek? 0 with
    | none => []
    | some item =>
      c.handing accepted item :: match (round c.strategy).runOn c with
        | (.ok _, c') => roundEvents accepted fuel c'
        | (.error _, _) => []

def flushEvents (accepted : Nat) (amount : FlushAmount) (c : Cable σ) : List Event :=
  match c.strategy with
  | .oneByOne => roundEvents accepted c.pending c
  | .combineTransfers => if c.worthwhile amount then roundEvents accepted c.pending c else []

section Tells
variable {c c₁ c' : Cable (Overheard σ)} {strategy : FlushStrategy} {items : List Item} {calls more : List Call}

/-- Of the accepted items those from `oldest` on wait in the cable, and its driver got `calls` so far. -/
structure From (c : Cable (Overheard σ)) (strategy : FlushStrategy) (accepted : List Item) (oldest : Nat)
    (calls : List Call) : Prop where
  le : oldest ≤ accepted.length
  waits : c.Waits strategy (accepted.drop oldest) calls

/-- The events are what becomes of the items of `c` until they are those of `c'`, when `accepted` items were accepted
before. The driver gets their calls, and then some of `calls`. -/
def Tells (c : Cable (Overheard σ)) (accepted : Nat) (events : List Event) (calls : List Call)
    (c' : Cable (Overheard σ)) : Prop :=
  ∀ strategy items oldest heard, items.length = accepted → c.From strategy items oldest heard →
    ∃ items' oldest' own, own.Sublist calls ∧
      c'.From strategy items' oldest' (heard ++ events.flatMap Event.calls ++ own) ∧
      History strategy items oldest events items' oldest'

omit [Driver σ] in
theorem MadeSome.tells (h : c.MadeSome calls c') (accepted : Nat) : c.Tells accepted [] calls c' := by
  obtain ⟨own, hown, hmade⟩ := h
  intro strategy items oldest heard _ hfrom
  refine ⟨items, oldest, own, hown, ⟨hfrom.le, ?_⟩, .nil ..⟩
  rw [List.flatMap_nil, List.append_nil]
  exact hfrom.waits.made hmade

omit [Driver σ] in
/-- Calls that leave the deferred work alone may follow. -/
theorem Tells.made {accepted : Nat} {events : List Event} (h : c.Tells accepted events calls c₁)
    (hmade : c₁.MadeSome more c') : c.Tells accepted events (calls ++ more) c' := by
  obtain ⟨own', hown', hmade⟩ := hmade
  intro strategy items oldest heard hcount hfrom
  obtain ⟨items', oldest', own, hown, hfrom', hhistory⟩ := h strategy items oldest heard hcount hfrom
  refine ⟨items', oldest', own ++ own', hown.append hown', ⟨hfrom'.le, ?_⟩, hhistory⟩
  rw [← List.append_assoc]
  exact hfrom'.waits.made hmade

omit [Driver σ] in
theorem Tells.mono {accepted : Nat} {events : List Event} (h : c.Tells accepted events calls c')
    (hsub : calls.Sublist more) : c.Tells accepted events more c' := by
  intro strategy items oldest heard hcount hfrom
  obtain ⟨items', oldest', own, hown, hfrom', hhistory⟩ := h strategy items oldest heard hcount hfrom
  exact ⟨items', oldest', own, hown.trans hsub, hfrom', hhistory⟩

omit [Driver σ] in
theorem Tells.purge {accepted : Nat} {events : List Event} (h : c.Tells accepted events calls c') :
    c.Tells accepted (events ++ [.drop]) calls (Cable.purge.runOn c').2 := by
  intro strategy items oldest heard hcount hfrom
  obtain ⟨items', oldest', own, hown, hfrom', hhistory⟩ := h strategy items oldest heard hcount hfrom
  refine ⟨items', items'.length, own, hown, ⟨Nat.le_refl _, ?_⟩, hhistory.append (.drop hfrom'.le (.nil ..))⟩
  rw [List.drop_length, List.flatMap_append]
  exact ⟨c'.todo.holds_purge, hfrom'.waits.strategy, hfrom'.waits.calls.trans (by simp [Event.calls])⟩

theorem tells_rounds (hframed : Framed σ) (c : Cable (Overheard σ)) (accepted fuel : Nat) :
    c.Tells accepted (roundEvents accepted fuel c) [] ((rounds c.strategy fuel).runOn c).2 := by
  rintro strategy items oldest heard rfl hfrom
  rw [hfrom.waits.strategy]
  -- Each round takes items off the front, so the items that wait are still those from some number on.
  induction fuel generalizing c oldest heard with
  | zero => exact ⟨items, oldest, [], List.Sublist.refl _, by simpa [roundEvents, rounds] using hfrom, .nil ..⟩
  | succ fuel ih =>
    have hwaits := hfrom.waits
    have hpending := hwaits.pending
    rw [rounds, Action.runOn_bind_ok (Action.runOn_inspect _ c), roundEvents, hwaits.todo.isEmpty, hwaits.todo.peek?]
    cases hitems : items.drop oldest with
    | nil => exact ⟨items, oldest, [], List.Sublist.refl _, by simpa using hfrom, .nil ..⟩
    | cons item rest =>
      rw [hitems] at hwaits
      obtain ⟨answer, c₁, taken, h₁, k₁, hfits, hbroken⟩ := hwaits.round hframed
      rw [← hitems] at hfits k₁
      rw [List.drop_drop] at k₁
      have htaken := hfits.taken_le
      rw [List.length_drop] at htaken
      have hfrom₁ : c₁.From strategy items (oldest + taken) (heard ++ (c.parcel item taken).calls) :=
        ⟨by have := hfrom.le; omega, k₁⟩
      have hevent : c.handing items.length item = .hand oldest (c.parcel item taken) taken c.breaks := by
        have hle := hfrom.le
        have hfirst : items.length - (items.length - oldest) = oldest := by omega
        have hoff : items.length - oldest - (items.length - (oldest + taken)) = taken := by omega
        rw [handing, hwaits.strategy, h₁, hpending, k₁.pending, List.length_drop, List.length_drop, hfirst, hoff]
      have hstrategy : c.breaks = true → strategy = .combineTransfers := fun hbreaks =>
        hwaits.combines (Bool.and_eq_true_iff.mp hbreaks).1
      simp only [List.getElem?_cons_zero, List.isEmpty_cons, Bool.false_eq_true, if_false, hevent, hwaits.strategy, h₁]
      cases answer with
      | error e =>
        -- A round that fails is the last one, but what it took off is gone.
        rw [Action.runOn_bind_error h₁]
        exact ⟨items, oldest + taken, [], List.Sublist.refl _, by simpa [Event.calls] using hfrom₁,
          .hand hfits hbroken hstrategy (.nil ..)⟩
      | ok _ =>
        obtain ⟨items', oldest', own, hown, hfrom', hhistory⟩ := ih c₁ (oldest + taken) _ hfrom₁
        rw [Action.runOn_bind_ok h₁]
        exact ⟨items', oldest', own, hown, by simpa [Event.calls] using hfrom', .hand hfits hbroken hstrategy hhistory⟩

theorem rounds_combineTransfers (fuel : Nat) :
    (rounds .combineTransfers fuel : CableAction (Overheard σ) Unit) = combineRounds fuel := by
  induction fuel with
  | zero => rfl
  | succ fuel ih => rw [rounds, combineRounds, ih]; rfl

theorem Waits.executeTimes (h : c.Waits .oneByOne items calls) :
    (Cable.executeTimes items.length).runOn c = (rounds .oneByOne items.length).runOn c := by
  induction items generalizing c calls with
  | nil => rfl
  | cons item items ih =>
    obtain ⟨answer, c₁, h₁, k₁⟩ := h.executeOldest
    rw [List.length_cons, Cable.executeTimes, rounds, Action.runOn_bind_ok (Action.runOn_inspect _ c),
      h.todo.isEmpty]
    show _ = (Cable.executeOldest >>= fun _ => rounds .oneByOne items.length).runOn c
    cases answer with
    | error e => rw [Action.runOn_bind_error h₁, Action.runOn_bind_error h₁]
    | ok _ => rw [Action.runOn_bind_ok h₁, Action.runOn_bind_ok h₁, ih k₁]

theorem tells_drain (hframed : Framed σ) (c : Cable (Overheard σ)) (accepted : Nat) (amount : FlushAmount) :
    c.Tells accepted (flushEvents accepted amount c) [] ((drain amount).runOn c).2 := by
  intro strategy items oldest heard hcount hfrom
  have hrounds := tells_rounds hframed c accepted c.pending strategy items oldest heard hcount hfrom
  have hwaits := hfrom.waits
  rw [drain, Action.runOn_bind_ok (Action.runOn_get c), flushEvents]
  rw [hwaits.strategy] at hrounds ⊢
  cases strategy with
  | oneByOne =>
    dsimp only
    rwa [hwaits.pending, hwaits.executeTimes, ← hwaits.pending]
  | combineTransfers =>
    dsimp only
    by_cases hworth : c.worthwhile amount = true
    · rwa [if_pos hworth, if_pos hworth, ← rounds_combineTransfers]
    · rw [if_neg hworth, if_neg hworth]
      exact ⟨items, oldest, [], List.Sublist.refl _, by simpa using hfrom, .nil ..⟩

omit [Driver σ] in
theorem flushEvents_of_isEmpty [Driver σ] {c : Cable σ} (accepted : Nat) (amount : FlushAmount)
    (hempty : c.todo.isEmpty = true) : flushEvents accepted amount c = [] := by
  have hpending : c.pending = 0 := eq_of_beq hempty
  rw [flushEvents, hpending]
  cases c.strategy with
  | oneByOne => rfl
  | combineTransfers => exact ite_self _

/-- The call by which a flush lets the driver send what it holds back. -/
def sendCalls (amount : FlushAmount) : List Call := if amount = .optionally then [] else [.flush]

theorem tells_flush (hframed : Framed σ) (c : Cable (Overheard σ)) (accepted : Nat) (amount : FlushAmount) :
    c.Tells accepted (flushEvents accepted amount c) (sendCalls amount) ((flush amount).runOn c).2 := by
  have hsend : Spares (if amount = .optionally then pure () else onDriver Driver.flush :
      CableAction (Overheard σ) Unit) (sendCalls amount) := by
    rw [sendCalls]
    split
    · exact (makes_pure _).spares
    · exact (makes_hear _ _).spares
  rw [flush, Action.runOn_bind_ok (Action.runOn_inspect _ c)]
  by_cases hempty : c.todo.isEmpty = true
  · rw [if_pos hempty, flushEvents_of_isEmpty accepted amount hempty]
    exact (hsend c).tells accepted
  · rw [if_neg hempty]
    exact (tells_drain hframed c accepted amount).made (Spares.behind (fun _ => hsend) c)

end Tells
end Cable

/-! ### Operations -/

namespace Request

/-- The item that the call defers. -/
def item? : Request → Option Item
  | deferClock tms tdi count => some (.clock tms tdi count)
  | deferSampleTdo => some .sampleTdo
  | deferTransfer input capture => some (.transfer input capture)
  | deferSetSignals mask value => some (.setSignals mask value)
  | deferSampleSignal lines => some (.sampleSignal lines)
  | flush _ | clock .. | sampleTdo | transfer .. | setSignals .. | sampleSignal _ | sampleTdoLate | transferLate
  | sampleSignalLate _ => none

/-- How much of the deferred work the call executes. -/
def amount : Request → FlushAmount
  | deferClock .. | deferSampleTdo | deferTransfer .. | deferSetSignals .. | deferSampleSignal _ => .optionally
  | flush amount => amount
  | clock .. | sampleTdo | transfer .. | setSignals .. | sampleSignal _ => .completely
  | sampleTdoLate | transferLate | sampleSignalLate _ => .toOutput

/-- What the call itself asks of the driver, behind the deferred work and what lets the driver send. -/
def ownCalls : Request → List Call
  | deferClock .. | deferSampleTdo | deferTransfer .. | deferSetSignals .. | deferSampleSignal _ | flush _
  | transferLate => []
  | clock tms tdi count => [.clock tms tdi count, .flush]
  | sampleTdo | sampleTdoLate => [.sampleTdo]
  | transfer input capture => [.transfer input capture, .flush]
  | setSignals mask value => [.setSignals mask value]
  | sampleSignal lines | sampleSignalLate lines => [.sampleSignal lines]

end Request

inductive Operation where
  | request (request : Request)
  | init
  | done
  | setFrequency (hz : Nat)
  | setDelay (delay : Nat)
  | wait
  | purge
deriving DecidableEq, Repr

/-- The calls that an operation may make on its own account, however much is deferred. -/
def Operation.ownCalls : Operation → List Call
  | .request r => Cable.sendCalls r.amount ++ r.ownCalls
  | .init => [.init]
  | .done => [.flush, .done]
  | .setFrequency hz => [.flush, .frequency hz]
  | .wait => [.flush]
  | .setDelay _ | .purge => []

namespace Cable

def operate : Operation → CableAction σ Unit
  | .request request => do let _ ← serve request
  | .init => init
  | .done => done
  | .setFrequency hz => setFrequency hz
  | .setDelay delay => setDelay delay
  | .wait => wait
  | .purge => purge

/-- What becomes of deferred items when one more is deferred. -/
def deferEvents (accepted : Nat) (item : Item) (c : Cable σ) : List Event :=
  match (pushItem item).runOn c with
  | (.ok _, c') => .accept item :: flushEvents (accepted + 1) .optionally c'
  | (.error _, _) => []

/-- What becomes of deferred items during an operation. -/
def deferredEvents (accepted : Nat) (c : Cable σ) : Operation → List Event
  | .request request =>
    match request.item? with
    | some item => deferEvents accepted item c
    | none => flushEvents accepted request.amount c
  | .setFrequency _ => flushEvents accepted .completely c
  | .wait => flushEvents accepted .toOutput c
  | .done => flushEvents accepted .completely c ++ [.drop]
  | .purge => [.drop]
  | .init | .setDelay _ => []

/-- The cable behind one operation after the other, whether they fail or not. -/
def operateAll : List Operation → Cable σ → Cable σ
  | [], c => c
  | operation :: operations, c => operateAll operations ((operate operation).runOn c).2

/-- What happens during an operation. Its own calls are all that the driver gets beside those for deferred items. -/
def operationEvents (accepted : Nat) (c : Cable (Overheard σ)) (operation : Operation) : List Event :=
  let deferred := deferredEvents accepted c operation
  let heard := ((operate operation).runOn c).2.driver.calls
  deferred ++ [.own (heard.drop (c.driver.calls.length + (deferred.flatMap Event.calls).length))]

/-- What happens during one operation after the other. -/
def events (accepted : Nat) : List Operation → Cable (Overheard σ) → List Event
  | [], _ => []
  | operation :: operations, c =>
    let now := operationEvents accepted c operation
    now ++ events (accepted + (now.filterMap Event.accepted?).length) operations ((operate operation).runOn c).2

section Operations
variable {request : Request} {item : Item}

/-- The oldest result is picked up without another call. -/
theorem oldestOutcome?_made (c : Cable (Overheard σ)) :
    MadeSome ((flush .toOutput).runOn c).2 [] (oldestOutcome?.runOn c).2 := by
  refine Spares.behind (fun _ => makes_popOutcome.outcome.spares.bind fun outcome => ?_) c
  split
  · exact (makes_pure _).spares
  · exact (makes_pure _).spares
  · exact (makes_throw _).spares

/-- A call that defers an item does that to the deferred work, and nothing else. -/
theorem serve_made_defer (hitem : request.item? = some item) (c : Cable (Overheard σ)) :
    MadeSome ((defer item).runOn c).2 [] ((serve request).runOn c).2 := by
  cases request <;> cases hitem <;> exact Spares.behind (fun _ => (makes_pure _).spares) c

/-- Any other call flushes, and then leaves the deferred work alone. -/
theorem serve_made_flush (hitem : request.item? = none) (c : Cable (Overheard σ)) :
    MadeSome ((flush request.amount).runOn c).2 request.ownCalls ((serve request).runOn c).2 := by
  have hreply : ∀ {α : Type} (act : CableAction (Overheard σ) α) (reply : α → Reply),
      MadeSome (act.runOn c).2 [] ((do return reply (← act) : CableAction (Overheard σ) Reply).runOn c).2 :=
    fun act reply => Spares.behind (fun _ => (makes_pure _).spares) c
  have hplain : ∀ {α : Type} {act : CableAction (Overheard σ) α} {calls : List Call} (reply : α → Reply),
      MadeSome ((flush request.amount).runOn c).2 calls (act.runOn c).2 →
      MadeSome ((flush request.amount).runOn c).2 calls
        ((do return reply (← act) : CableAction (Overheard σ) Reply).runOn c).2 := by
    intro α act calls reply hact
    have := hact.trans (hreply act reply)
    rwa [List.append_nil] at this
  cases request with
  | deferClock | deferSampleTdo | deferTransfer | deferSetSignals | deferSampleSignal => cases hitem
  | flush amount => exact hreply (flush amount) fun _ => .done
  | clock tms tdi count =>
    refine hplain (fun _ => .done) ?_
    exact Spares.behind (fun _ => (makes_hear _ _).spares.bind fun _ => (makes_hear _ _).spares) c
  | sampleTdo => exact hplain .bit (Spares.behind (fun _ => (makes_hear _ _).spares) c)
  | transfer input capture =>
    refine hplain .bits (Spares.behind (fun _ => (makes_hear _ _).spares.bind fun _ => ?_) c)
    exact ((makes_hear _ _).bind_silent fun _ => makes_pure _).spares
  | setSignals mask value => exact hplain .levels (Spares.behind (fun _ => (makes_hear _ _).spares) c)
  | sampleSignal lines => exact hplain .bit (Spares.behind (fun _ => (makes_hear _ _).spares) c)
  | sampleTdoLate =>
    refine hplain .bit ((oldestOutcome?_made c).trans (Spares.behind (fun outcome? => ?_) c))
    split
    · exact (makes_pure _).silent _
    · exact makes_outOfSync.silent _
    · exact (makes_hear _ _).spares
  | transferLate =>
    refine hplain .bits ((oldestOutcome?_made c).trans (Spares.behind (fun outcome? => ?_) c))
    split
    · exact (makes_pure _).spares
    · exact makes_outOfSync.spares
    · exact (makes_throw _).spares
  | sampleSignalLate lines =>
    refine hplain .bit ((oldestOutcome?_made c).trans (Spares.behind (fun outcome? => ?_) c))
    split
    · split
      · exact (makes_pure _).silent _
      · exact makes_outOfSync.silent _
    · exact makes_outOfSync.silent _
    · exact (makes_hear _ _).spares

theorem tells_defer (hframed : Framed σ) (c : Cable (Overheard σ)) (accepted : Nat) (item : Item) :
    c.Tells accepted (deferEvents accepted item c) [] ((defer item).runOn c).2 := by
  rintro strategy items oldest heard rfl hfrom
  rw [defer, deferEvents]
  rcases hfrom.waits.pushItem item with ⟨c₁, h₁, k₁⟩ | ⟨c₁, h₁, k₁⟩
  · have hfrom₁ : c₁.From strategy (items ++ [item]) oldest heard := by
      refine ⟨hfrom.le.trans (by simp), ?_⟩
      rwa [List.drop_append_of_le_length hfrom.le]
    obtain ⟨items', oldest', own, hown, hfrom', hhistory⟩ :=
      tells_flush hframed c₁ (items.length + 1) .optionally strategy _ oldest heard (by simp) hfrom₁
    rw [h₁, Action.runOn_bind_ok h₁]
    exact ⟨items', oldest', own, hown, hfrom', .accept item hhistory⟩
  · rw [h₁, Action.runOn_bind_error h₁]
    exact ⟨items, oldest, [], List.Sublist.refl _, ⟨hfrom.le, by simpa using k₁⟩, .nil ..⟩

theorem tells_operate (hframed : Framed σ) (c : Cable (Overheard σ)) (accepted : Nat) (operation : Operation) :
    c.Tells accepted (deferredEvents accepted c operation) operation.ownCalls ((operate operation).runOn c).2 := by
  cases operation with
  | request request =>
    have hsilent : MadeSome ((serve request).runOn c).2 [] ((operate (.request request)).runOn c).2 :=
      Spares.behind (fun _ => (makes_pure _).spares) c
    rw [deferredEvents, Operation.ownCalls]
    cases hitem : request.item? with
    | some item =>
      have htells := ((tells_defer hframed c accepted item).made (serve_made_defer hitem c)).made hsilent
      exact htells.mono (List.nil_sublist _)
    | none =>
      have htells := ((tells_flush hframed c accepted request.amount).made (serve_made_flush hitem c)).made hsilent
      rwa [List.append_nil] at htells
  | init => exact (makes_hear _ _ c).some.tells accepted
  | done =>
    have hshut : Spares (do
        let finished ← (onDriver Driver.done : CableAction (Overheard σ) Unit).outcome
        Action.ofExcept ((flush .completely).runOn c).1
        Action.ofExcept finished) [.done] :=
      ((makes_hear _ _).outcome.bind_silent fun finished =>
        (makes_ofExcept _).bind_silent fun _ => makes_ofExcept finished).spares
    rw [operate, done, Action.runOn_bind_ok (Action.runOn_outcome _ c)]
    exact (tells_flush hframed c accepted .completely).purge.made (Spares.behind (fun _ => hshut) _)
  | setFrequency hz =>
    refine (tells_flush hframed c accepted .completely).made (Spares.behind (fun _ => ?_) c)
    exact ((makes_hear _ _).bind_silent fun _ _ => made_nil rfl rfl rfl).spares
  | setDelay delay =>
    have hmade : c.Made [] ((setDelay delay).runOn c).2 := made_nil rfl rfl rfl
    exact hmade.some.tells accepted
  | wait => exact tells_flush hframed c accepted .toOutput
  | purge =>
    have htells : c.Tells accepted [] [] c := (made_nil rfl rfl rfl).some.tells accepted
    exact htells.purge

theorem ownCalls_roundEvents (accepted fuel : Nat) (c : Cable σ) :
    (roundEvents accepted fuel c).flatMap Event.ownCalls = [] := by
  induction fuel generalizing c with
  | zero => rfl
  | succ fuel ih =>
    rw [roundEvents]
    split
    · rfl
    · rw [List.flatMap_cons]
      split
      · exact ih _
      · rfl

theorem ownCalls_flushEvents (accepted : Nat) (amount : FlushAmount) (c : Cable σ) :
    (flushEvents accepted amount c).flatMap Event.ownCalls = [] := by
  rw [flushEvents]
  split
  · exact ownCalls_roundEvents ..
  · split
    · exact ownCalls_roundEvents ..
    · rfl

theorem ownCalls_deferredEvents (accepted : Nat) (c : Cable σ) (operation : Operation) :
    (deferredEvents accepted c operation).flatMap Event.ownCalls = [] := by
  cases operation with
  | request request =>
    rw [deferredEvents]
    split
    · rw [deferEvents]
      split
      · exact ownCalls_flushEvents ..
      · rfl
    · exact ownCalls_flushEvents ..
  | done => rw [deferredEvents, List.flatMap_append, ownCalls_flushEvents]; rfl
  | setFrequency hz => exact ownCalls_flushEvents ..
  | wait => exact ownCalls_flushEvents ..
  | init | setDelay | purge => rfl

/-- What is told of one operation after the other. -/
theorem From.events (hframed : Framed σ) {c : Cable (Overheard σ)} {strategy : FlushStrategy} {items : List Item}
    {oldest : Nat} {heard : List Call} (hfrom : c.From strategy items oldest heard) (operations : List Operation) :
    ∃ items' oldest',
      (operateAll operations c).From strategy items' oldest'
        (heard ++ (Cable.events items.length operations c).flatMap Event.calls) ∧
      History strategy items oldest (Cable.events items.length operations c) items' oldest' ∧
      ((Cable.events items.length operations c).flatMap Event.ownCalls).Sublist
        (operations.flatMap Operation.ownCalls) := by
  induction operations generalizing c items oldest heard with
  | nil => exact ⟨items, oldest, by simpa [Cable.events, operateAll] using hfrom, .nil .., List.Sublist.refl _⟩
  | cons operation operations ih =>
    obtain ⟨items₁, oldest₁, own, hown, hfrom₁, hhistory₁⟩ :=
      tells_operate hframed c items.length operation strategy items oldest heard rfl hfrom
    have hrest : ((operate operation).runOn c).2.driver.calls.drop
        (c.driver.calls.length + ((deferredEvents items.length c operation).flatMap Event.calls).length) = own := by
      rw [hfrom₁.waits.calls, ← hfrom.waits.calls, ← List.length_append, List.drop_left]
    have hnow : operationEvents items.length c operation = deferredEvents items.length c operation ++ [.own own] := by
      rw [operationEvents, hrest]
    have hcount : items.length + ((operationEvents items.length c operation).filterMap Event.accepted?).length =
        items₁.length := by
      rw [hhistory₁.accepted_eq, hnow, List.filterMap_append, List.length_append]
      simp [Event.accepted?]
    obtain ⟨items', oldest', hfrom', hhistory', hsub⟩ := ih hfrom₁
    rw [Cable.events, hcount, hnow]
    refine ⟨items', oldest', ?_, ?_, ?_⟩
    · simpa [Event.calls, operateAll] using hfrom'
    · exact (hhistory₁.append (.own own (.nil ..))).append hhistory'
    · rw [List.flatMap_append, List.flatMap_append, ownCalls_deferredEvents, List.nil_append, List.flatMap_singleton]
      exact hown.append hsub

end Operations

/-- A cable that just took its driver over, of whose calls none was heard yet. -/
def listening (driver : σ) (config : QueueConfig) (memory : Memory) (strategy : FlushStrategy) : Cable (Overheard σ) :=
  { Cable.new ⟨driver, []⟩ config memory with strategy }

/-- All that the driver gets are the calls of rounds, which carry accepted items by their numbers, and the own calls of
operations. No item is handed over twice, unless a round that combines items breaks and another round comes before a
purge; and none at all where items are executed one by one. -/
theorem handed_once_iff (hframed : Framed σ) (driver : σ) (config : QueueConfig) (memory : Memory)
    (strategy : FlushStrategy) (operations : List Operation) :
    let cable := listening driver config memory strategy
    let history := events 0 operations cable
    let accepted := history.filterMap Event.accepted?
    (operateAll operations cable).driver.calls = history.flatMap Event.calls ∧
      (history.flatMap Event.ownCalls).Sublist (operations.flatMap Operation.ownCalls) ∧
      (∀ event ∈ history, event.numbers.map (accepted[·]?) = event.items.map some) ∧
      ((history.flatMap Event.numbers).Nodup ↔
        (history.filter Event.removes).IsChain fun event next => event.broken = false ∨ next = .drop) ∧
      (strategy = .oneByOne → (history.flatMap Event.numbers).Nodup) := by
  intro cable history accepted
  have hfrom : cable.From strategy [] 0 [] := ⟨Nat.le_refl 0, Queue.holds_withCapacity .., rfl, rfl⟩
  obtain ⟨items, oldest, hlast, hhistory, hown⟩ := hfrom.events hframed operations
  have hitems : items = accepted := hhistory.accepted_eq
  refine ⟨hlast.waits.calls, hown, fun event hevent => hitems ▸ hhistory.items_eq hevent, hhistory.nodup_iff, ?_⟩
  rintro rfl
  exact hhistory.nodup_of_oneByOne

/-- A transfer and a sample of TDO behind it are combined, and the memory for the second result is refused. Both items
went to the driver once, so that the flush that follows has nothing to hand over. -/
theorem handed_once_behind_failure :
    let driver : Recorder := ⟨.combineTransfers, Signals.none, .listed [] false, [], 0, none, false, false, 0, #[]⟩
    let cable := listening driver ⟨1, 1, none⟩ ⟨fun request _ => request == 0, 0⟩ .combineTransfers
    let operations := [.request (.deferTransfer [true, false] true), .request .deferSampleTdo,
      .request (.flush .completely), .request (.flush .completely)]
    let history := events 0 operations cable
    Framed Recorder ∧ (operateAll operations cable).driver.calls = [.transfer [true, false] true, .sampleTdo, .flush] ∧
      history.flatMap Event.numbers = [0, 1] ∧ (history.flatMap Event.numbers).Nodup := by
  intro driver cable operations history
  obtain ⟨-, -, -, hnodup, -⟩ := handed_once_iff Recorder.framed driver ⟨1, 1, none⟩
    ⟨fun request _ => request == 0, 0⟩ .combineTransfers operations
  have hrounds : (history.filter Event.removes).IsChain fun event next => event.broken = false ∨ next = .drop := by
    decide +kernel
  exact ⟨Recorder.framed, by decide +kernel, by decide +kernel, hnodup.mpr hrounds⟩

/-- The driver refuses a transfer that combines two items. The next flush sends both items again. -/
theorem handed_twice :
    let driver : Recorder := ⟨.combineTransfers, Signals.none, .listed [] false, [], 0,
      some ⟨0, .io .brokenPipe⟩, false, false, 0, #[]⟩
    let cable := listening driver ⟨4, 4, none⟩ .ample .combineTransfers
    let operations := [.request (.deferTransfer [true, false] false), .request (.deferTransfer [false, true] false),
      .request (.flush .completely), .request (.flush .completely)]
    ¬ ((events 0 operations cable).flatMap Event.numbers).Nodup ∧
      (operateAll operations cable).driver.calls =
        [.transfer [true, false, false, true] false, .transfer [true, false, false, true] false, .flush] := by
  decide +kernel

end Cable
end Jtag
