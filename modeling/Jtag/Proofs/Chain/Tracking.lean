import Jtag.Proofs.Chain.Follows
import Jtag.Proofs.Sim.Pod

/-! The tracked state of a chain in front of simulated devices is the real one. Behind a connection the tracker and
    the controllers start from the same state, and from then on the tracker follows the clocks that the controllers
    get sooner or later: it is ahead of them by the clocks that wait. -/

namespace Jtag

/-! ### Routes -/

namespace Tap.State

theorem mem_all {s : State} (h : s ≠ .unknown) : s ∈ all := by
  rcases s with _ | _ | _ | ⟨column, stage⟩
  · exact absurd rfl h
  · decide
  · decide
  · cases column <;> cases stage <;> decide

theorem route_leads {s t : State} (hs : s ≠ .unknown) (ht : t ≠ .unknown) :
    (s.route t).foldl (fun s tms => s.next tms) s = t := by
  have hall : ∀ s ∈ all, ∀ t ∈ all, (s.route t).foldl (fun s tms => s.next tms) s = t := by decide +kernel
  exact hall s (mem_all hs) t (mem_all ht)

end Tap.State

/-! ### Simulated devices -/

namespace Sim.Pod

variable {p q : Pod}

theorem eq_walk_of_leads {entries : List Entry} (h : Leads entries p q) :
    q = steady.walk (entries.flatMap Entry.ticks) p := by
  induction entries generalizing p with
  | nil => exact Eq.symm h
  | cons entry entries ih =>
    obtain ⟨r, hdoes, hrest⟩ := h
    have hstep : r = steady.walk entry.ticks p := by
      cases entry with
      | clock tms tdi count => exact (congrArg Prod.snd ((steady.runOn_clock tms tdi count p).symm.trans hdoes)).symm
      | sample level => exact (congrArg Prod.snd hdoes).symm
      | transfer input sampled =>
        rcases hdoes with hwanted | ⟨-, answer, hunwanted⟩
        · exact (congrArg Prod.snd ((steady.runOn_transfer input true p).symm.trans hwanted)).symm
        · exact (congrArg Prod.snd ((steady.runOn_transfer input false p).symm.trans hunwanted)).symm
      | flush => exact (congrArg Prod.snd hdoes).symm
      | other => exact hdoes.elim
    rw [ih hrest, hstep, List.flatMap_cons, steady.walk_append]

theorem eq_walk_of_led {items : List Item} {outcomes : List Outcome} (h : Led p items outcomes q) :
    q = steady.walk (items.flatMap Item.ticks) p := by
  obtain ⟨entries, hleads, hticks, -⟩ := h
  rw [eq_walk_of_leads hleads, hticks]

theorem walk_signals (ticks : List Tick) (p : Pod) : (steady.walk ticks p).chain.signals = p.chain.signals := by
  induction ticks generalizing p with
  | nil => rfl
  | cons k ticks ih =>
    refine (ih _).trans ?_
    show (p.chain.clock k.tms k.tdi).signals = p.chain.signals
    unfold Chain.clock
    split <;> rfl

end Sim.Pod

namespace Chain

open Jtag.Action

variable {c c' c₁ c₂ : Chain Sim.Pod} {start : Tap.Tracker} {mark : Sim.Pod} {items : List Item}
  {left : List Outcome}

/-- The tracker knows the state of the controllers, which follow TMS. -/
structure Anchored (start : Tap.Tracker) (mark : Sim.Pod) : Prop where
  released : mark.chain.signals.trst = true
  consistent : start.Consistent
  state : start.state = mark.chain.state
  known : start.state ≠ .unknown

theorem Anchored.walk (h : Anchored start mark) (ticks : List Tick) :
    Anchored (start.follow ticks) (Sim.Pod.steady.walk ticks mark) := by
  obtain ⟨sim, strategy⟩ := mark
  have hstate := h.consistent.state_follow h.known ticks
  refine ⟨?_, h.consistent.follow ticks, ?_, ?_⟩
  · rw [Sim.Pod.walk_signals]
    exact h.released
  · rw [Sim.Pod.walk_state h.released, hstate, h.state]
  · rw [hstate]
    exact Tap.Tracker.foldl_ne_unknown h.known ticks

/-- The tracker is ahead of the controllers by what the chain asked for. -/
def Tracks (c : Chain Sim.Pod) : Prop :=
  ∃ start mark items left, c.Follows start mark items left ∧ Anchored start mark

theorem Tracks.cable (h : c.Tracks) : ∃ cable, c.cable? = some cable := by
  obtain ⟨_, _, _, _, ⟨⟨cable, hcable, -⟩, -⟩, -⟩ := h
  exact ⟨cable, hcable⟩

/-- Behind the last item that was asked for the tracker and the controllers agree. -/
theorem tracks_of_drained {cable : Cable Sim.Pod} {outcomes held : List Outcome} (hanchored : Anchored start mark)
    (htracker : c.tracker = start.follow (items.flatMap Item.ticks)) (hcable : c.cable? = some cable)
    (h : cable.Drained mark items outcomes held) : c.Tracks := by
  refine ⟨c.tracker, cable.driver, [], held, ⟨⟨cable, hcable, h.asked⟩, rfl⟩, ?_⟩
  rw [htracker, Sim.Pod.eq_walk_of_led h.led]
  exact hanchored.walk _

/-! ### The reset line -/

theorem setTrst_ok_inv {cable : Cable Sim.Pod} {level old : Bool} (hcable : c.cable? = some cable)
    (hrun : (Chain.setTrst level).runOn c = (.ok old, c')) :
    ∃ cable' signals,
      (Cable.setSignals .trstLine (if level then .trstLine else .none)).runOn cable = (.ok signals, cable') ∧
      c' = { c with cable? := some cable', tracker := c.tracker.setTrst signals.trst level } := by
  obtain ⟨signals, c₁, h₁, hrest⟩ := bind_ok_inv hrun
  obtain ⟨cable', hset, rfl⟩ := onCable_ok_inv hcable h₁
  cases hrest
  exact ⟨cable', signals, hset, rfl⟩

theorem asked_setTrst {cable cable' : Cable Sim.Pod} {level : Bool} {signals : Signals}
    (h : cable.Asked mark items left)
    (hrun : (Cable.setSignals .trstLine (if level then .trstLine else .none)).runOn cable = (.ok signals, cable')) :
    let found := Sim.Pod.steady.walk (items.flatMap Item.ticks) mark
    signals = found.chain.signals ∧ cable'.driver.chain.signals.trst = level ∧
      cable'.driver.chain.state = (if level then found.chain.state else .testLogicReset) ∧
      ∃ left', cable'.Asked cable'.driver [] left' := by
  intro found
  obtain ⟨outcomes, s, hled, hset, hasked⟩ := h.setSignals Sim.Pod.steady.framed hrun
  obtain rfl : s = found := Sim.Pod.eq_walk_of_led hled
  obtain ⟨hsignals, hdriver⟩ := Prod.mk.inj ((Sim.Pod.steady.setSignals_eq _ _ _).symm.trans hset)
  cases hsignals
  rw [← hdriver] at hasked ⊢
  obtain ⟨htrst, hstate⟩ := found.chain.drive_trstLine level
  exact ⟨rfl, htrst, hstate, _, hasked⟩

/-- Behind a pulse of the reset line the tracker and the controllers agree, whatever they knew and were before. -/
theorem tracks_of_pulse (h : ∃ cable, c.cable? = some cable ∧ cable.Asked mark items left) {old old' : Bool}
    (h₁ : (Chain.setTrst false).runOn c = (.ok old, c₁)) (h₂ : (Chain.setTrst true).runOn c₁ = (.ok old', c₂)) :
    c₂.Tracks := by
  obtain ⟨cable, hcable, hasked⟩ := h
  -- The falling edge resets the controllers and loses track of them, the rising one finds them reset.
  obtain ⟨cable₁, signals, hlow, rfl⟩ := setTrst_ok_inv hcable h₁
  obtain ⟨-, hheld, hreset, left₁, hasked₁⟩ := asked_setTrst hasked hlow
  obtain ⟨cable₂, signals', hhigh, rfl⟩ := setTrst_ok_inv rfl h₂
  obtain ⟨rfl, hreleased, hstays, left₂, hasked₂⟩ := asked_setTrst hasked₁ hhigh
  have hstays : cable₂.driver.chain.state = .testLogicReset := hstays.trans hreset
  refine ⟨.ofState .testLogicReset, cable₂.driver, [], left₂, ⟨⟨cable₂, rfl, hasked₂⟩, ?_⟩, ?_⟩
  · show Tap.Tracker.setTrst _ cable₁.driver.chain.signals.trst true = _
    rw [hheld]
    rfl
  · exact ⟨hreleased, Tap.Tracker.consistent_ofState _, hstays.symm, nofun⟩

/-! ### Operations -/

/-- A call on the cable failed. -/
def CableFailure (e : Error) : Prop := ∃ e', e = .cable e'

theorem keeps_onCable {α β : Type} {act : CableAction Sim.Pod α} {next : α → ChainAction Sim.Pod β}
    (hnext : ∀ a c, ((next a).runOn c).1.isOk = true)
    (hok : ∀ c c' b, Tracks c → (Chain.onCable act >>= next).runOn c = (.ok b, c') → Tracks c') :
    Keeps CableFailure Tracks (Chain.onCable act >>= next) := by
  intro c hc hfatal
  obtain ⟨cable, hcable⟩ := hc.cable
  rcases hrun : (Chain.onCable act >>= next).runOn c with ⟨e | b, c'⟩
  · rw [hrun] at hfatal
    exact absurd (onCable_error_inv hnext hcable hrun) (hfatal e rfl)
  · exact hok c c' b hc hrun

theorem keeps_clock (tms tdi : Bool) (count : Nat) :
    Keeps CableFailure Tracks (Chain.clock tms tdi count : ChainAction Sim.Pod Unit) := by
  refine keeps_onCable (fun _ _ => rfl) ?_
  rintro c c' _ ⟨start, mark, items, left, hfollows, hanchored⟩ hrun
  obtain ⟨cable, hcable, hasked⟩ := hfollows.cable
  obtain ⟨cable', outcomes, hcable', hran, htracker⟩ := clock_ok_inv Sim.Pod.steady.framed hcable hasked hrun
  refine tracks_of_drained hanchored ?_ hcable' ⟨hran.todo, hran.finished, hran.led⟩
  rw [htracker, hfollows.tracker, ← Tap.Tracker.follow_append, List.flatMap_append, List.flatMap_singleton]
  rfl

theorem setTrst_error_inv {level : Bool} {e : Error} {cable : Cable Sim.Pod} (hcable : c.cable? = some cable)
    (hrun : (Chain.setTrst level).runOn c = (.error e, c')) : CableFailure e :=
  onCable_error_inv (fun _ _ => rfl) hcable hrun

theorem keeps_pulse : Keeps CableFailure Tracks (do
    let _ ← Chain.setTrst false
    Chain.setTrst true : ChainAction Sim.Pod Bool) := by
  rintro c ⟨start, mark, items, left, hfollows, -⟩ hfatal
  obtain ⟨cable, hcable, hasked⟩ := hfollows.cable
  rw [runOn_bind] at hfatal ⊢
  rcases h₁ : (Chain.setTrst false).runOn c with ⟨e | old, c₁⟩
  · rw [h₁] at hfatal
    exact absurd (setTrst_error_inv hcable h₁) (hfatal e rfl)
  rw [h₁] at hfatal
  rcases h₂ : (Chain.setTrst true).runOn c₁ with ⟨e | old', c₂⟩
  · obtain ⟨cable₁, _, _, rfl⟩ := setTrst_ok_inv hcable h₁
    dsimp only at hfatal
    rw [h₂] at hfatal
    exact absurd (setTrst_error_inv rfl h₂) (hfatal e rfl)
  · dsimp only
    rw [h₂]
    exact tracks_of_pulse ⟨cable, hcable, hasked⟩ h₁ h₂

theorem preserved_tracks : Preserved CableFailure Tracks := by
  have hframed := Sim.Pod.steady.framed
  constructor
  case same =>
    rintro c c' ⟨start, mark, items, left, hfollows, hanchored⟩ hcable htracker
    exact ⟨start, mark, items, left, hfollows.same hcable htracker, hanchored⟩
  case clock => exact keeps_clock
  case deferClock =>
    intro tms tdi count
    refine keeps_onCable (fun _ _ => rfl) ?_
    rintro c c' _ ⟨start, mark, items, left, hfollows, hanchored⟩ hrun
    exact ⟨start, mark, _, left, hfollows.deferClock hframed hrun, hanchored⟩
  case sample =>
    rw [← bind_pure (Chain.onCable Cable.deferSampleTdo)]
    refine keeps_onCable (fun _ _ => rfl) ?_
    rintro c c' _ ⟨start, mark, items, left, hfollows, hanchored⟩ hrun
    rw [bind_pure] at hrun
    exact ⟨start, mark, _, left, hfollows.deferSampleTdo hframed hrun, hanchored⟩
  case transfer =>
    intro bits capture
    refine keeps_onCable (fun _ _ => rfl) ?_
    rintro c c' _ ⟨start, mark, items, left, hfollows, hanchored⟩ hrun
    exact ⟨start, mark, _, left, hfollows.deferTransfer hframed hrun, hanchored⟩
  case flush =>
    intro amount
    rw [← bind_pure (Chain.onCable (Cable.flush amount))]
    refine keeps_onCable (fun _ _ => rfl) ?_
    rintro c c' _ ⟨start, mark, items, left, hfollows, hanchored⟩ hrun
    rw [bind_pure] at hrun
    exact ⟨start, mark, items, left, hfollows.flush hframed hrun, hanchored⟩
  case collect =>
    rintro inputLength exit c cable output ⟨start, mark, items, left, hfollows, hanchored⟩ hcable hfatal
    obtain ⟨cable', hcable', hasked⟩ := hfollows.cable
    obtain rfl := Option.some.inj (hcable.symm.trans hcable')
    rcases hrun : (Chain.collect inputLength exit).runOn (cable, output) with ⟨e | _, cable₁, output₁⟩
    · rw [hrun] at hfatal
      exact absurd ⟨e, rfl⟩ (hfatal e rfl)
    · obtain ⟨outcomes, bits, held, values, -, -, -, hdrained, -⟩ := collect_ok_inv hframed hasked hrun
      exact tracks_of_drained hanchored hfollows.tracker rfl hdrained
  case trstReset =>
    have hreset := Keeps.bind keeps_pulse fun _ => Keeps.bind (keeps_clock true false Tap.resetClocks) fun _ =>
      keeps_clock false false 1
    rw [bind_assoc] at hreset
    exact hreset

/-! ### Runs -/

theorem connect_tracks {pod : Sim.Pod} {memory : Memory} {before : Chain Sim.Pod}
    (h : (Chain.connect pod memory).runOn before = (.ok (), c)) : c.Tracks := by
  obtain ⟨c₀, p, hcable, -, hreset⟩ := connect_ok_inv h
  have hasked : ({ Cable.new pod before.config.queue memory with driver := p } : Cable Sim.Pod).Asked p [] [] :=
    Cable.asked_start (Queue.holds_withCapacity ..) (Queue.holds_withCapacity ..) nofun
  obtain ⟨old, c₁, h₁, hrest⟩ := bind_ok_inv hreset
  obtain ⟨old', c₂, h₂, h₃⟩ := bind_ok_inv hrest
  have htracks := tracks_of_pulse ⟨_, hcable, hasked⟩ h₁ h₂
  have hkept := preserved_tracks.reaching.reset c₂ htracks
  rw [h₃] at hkept
  exact hkept nofun

/-- Nothing waits, and the tracked state is the one that the controllers are in. -/
def SettledIn (c : Chain Sim.Pod) (state : Tap.State) : Prop :=
  ∃ cable, c.cable? = some cable ∧ cable.todo.toList = [] ∧ cable.driver.chain.state = state ∧ c.state = state

/-- A flush lets the controllers catch up with the tracker. -/
theorem Tracks.flush (h : c.Tracks) (hrun : Chain.flush.runOn c = (.ok (), c')) : c'.SettledIn c.state := by
  obtain ⟨start, mark, items, left, ⟨⟨cable, hcable, hasked⟩, htracker⟩, hanchored⟩ := h
  rw [runOn_flush hcable] at hrun
  obtain ⟨cable₁, hflush, rfl⟩ := onCable_ok_inv hcable hrun
  obtain ⟨outcomes, hran⟩ := hasked.flushed Sim.Pod.steady.framed (by decide) hflush
  refine ⟨cable₁, rfl, hran.todo.toList, ?_, rfl⟩
  rw [Sim.Pod.eq_walk_of_led hran.led, Chain.state, htracker]
  exact (hanchored.walk _).state.symm

theorem Tracks.known (h : c.Tracks) : c.state ≠ .unknown := by
  obtain ⟨start, mark, items, left, ⟨-, htracker⟩, hanchored⟩ := h
  rw [Chain.state, htracker]
  exact (hanchored.walk _).known

theorem flatMap_ticks_levels (levels : List Bool) :
    (levels.map (Item.clock · false 1)).flatMap Item.ticks = levels.map (⟨·, false⟩) := by
  rw [List.flatMap_map]
  exact List.map_eq_flatMap.symm

theorem Tracks.goto (h : c.Tracks) {t : Tap.State} (ht : t ≠ .unknown)
    (hrun : (Chain.goto t).runOn c = (.ok (), c')) : c'.Tracks ∧ c'.state = t := by
  have hknown := h.known
  obtain ⟨start, mark, items, left, hfollows, hanchored⟩ := h
  obtain ⟨_, c₁, h₁, hrest⟩ := bind_ok_inv hrun
  obtain ⟨_, c₂, h₂, h₃⟩ := bind_ok_inv hrest
  cases h₂
  obtain rfl := requireCable_ok_inv h₁
  have k := hfollows.deferLevels Sim.Pod.steady.framed h₃
  refine ⟨⟨start, mark, _, left, k, hanchored⟩, ?_⟩
  -- The tracker overrides the diagram behind five high clocks, which tells the same state as long as it is known.
  have hconsistent : c₁.tracker.Consistent := hfollows.tracker ▸ (hanchored.walk _).consistent
  rw [Chain.state, k.tracker, List.flatMap_append, Tap.Tracker.follow_append, ← hfollows.tracker,
    flatMap_ticks_levels, hconsistent.state_follow hknown, List.foldl_map]
  exact Tap.State.route_leads hknown ht

/-- A chain whose queues can grow stands for the machine behind what it asked for. -/
theorem Connected.drives {memory : Memory} {growth : Nat} (hconnected : c.Connected memory growth)
    (hgrowth : memory.Grants growth) :
    ∃ m, c.Drives Sim.Pod.steady c.tracker c.parts m := by
  obtain ⟨cable, hcable, hsound⟩ := hconnected
  obtain ⟨pending, hpending, -⟩ := hsound.todo
  obtain ⟨results, hresults⟩ := hsound.finished
  refine ⟨_, ⟨cable, hcable, pending, ⟨cable.driver, results⟩, ?_, rfl⟩, rfl, rfl⟩
  have hgrants : cable.memory.Grants growth := by
    rw [Memory.Grants, hsound.memory]
    exact hgrowth
  exact ⟨hpending, hresults, rfl, hsound.todoGrowth ▸ hgrants, hsound.finishedGrowth ▸ hgrants⟩

theorem flush_succeeds {tracker : Tap.Tracker} {parts : List Part} {m : Machine Sim.Pod}
    (h : c.Drives Sim.Pod.steady tracker parts m) : ∃ c', Chain.flush.runOn c = (.ok (), c') := by
  obtain ⟨cable, hcable, hstands⟩ := h.cable
  obtain ⟨cable', hflush, -⟩ := hstands.flush .completely (by decide)
  refine ⟨{ c with cable? := some cable' }, ?_⟩
  rw [runOn_flush hcable, runOn_onCable hcable hflush]
  rfl

/-- Behind every run of operations on a simulated chain of which none failed at the cable, a flush leaves the
    controllers in the tracked state, and going to a state and flushing leaves both there. Where the queues can
    grow, the flush and the way there succeed. -/
theorem tracked_state_real {pod : Sim.Pod} {memory : Memory} {before : Chain Sim.Pod}
    (hconnect : (Chain.connect pod memory).runOn before = (.ok (), c)) (ops : List Operation)
    (hcable : ∀ e, .error (.cable e) ∉ (Chain.operateAll ops c).1) :
    let reached := (Chain.operateAll ops c).2
    reached.state ≠ .unknown ∧
      (∀ c₁, Chain.flush.runOn reached = (.ok (), c₁) → c₁.SettledIn reached.state) ∧
      (∀ t c₁ c₂, t ≠ .unknown → (Chain.goto t).runOn reached = (.ok (), c₁) → Chain.flush.runOn c₁ = (.ok (), c₂) →
        c₂.SettledIn t) ∧
      (memory.Grants (max before.config.queue.growth 1) →
        (∃ c₁, Chain.flush.runOn reached = (.ok (), c₁)) ∧
        ∀ t, ∃ c₁ c₂, (Chain.goto t).runOn reached = (.ok (), c₁) ∧ Chain.flush.runOn c₁ = (.ok (), c₂)) := by
  intro reached
  have htracks : reached.Tracks := by
    refine preserved_tracks.operateAll ops (connect_tracks hconnect) fun e he hfatal => ?_
    obtain ⟨e', rfl⟩ := hfatal
    exact hcable e' he
  have hconnected : reached.Connected memory (max before.config.queue.growth 1) :=
    preserved_connected.operateAll ops (connect_connected hconnect) fun _ _ => id
  refine ⟨htracks.known, fun c₁ h₁ => htracks.flush h₁, fun t c₁ c₂ ht h₁ h₂ => ?_, fun hgrowth => ?_⟩
  · obtain ⟨htracks₁, hstate⟩ := htracks.goto ht h₁
    exact hstate ▸ htracks₁.flush h₂
  · obtain ⟨m, hdrives⟩ := hconnected.drives hgrowth
    refine ⟨flush_succeeds hdrives, fun t => ?_⟩
    obtain ⟨c₁, h₁, k₁⟩ := hdrives.deferLevels (reached.state.route t)
    obtain ⟨c₂, h₂⟩ := flush_succeeds k₁
    refine ⟨c₁, c₂, ?_, h₂⟩
    rw [Chain.goto, runOn_bind_ok hdrives.requireCable, runOn_bind_ok (runOn_get reached)]
    exact h₁

/-- A shift that starts in Run-Test/Idle, which is only warned about, and clocks that still wait at the end. -/
theorem tracked_state_real_two :
    let connected := (Chain.connect (Sim.Pod.new [Sim.Device.new 2, Sim.Device.new 3] .combineTransfers) .ample).runOn
      (Chain.new Config.default)
    let ops : List Operation := [.exchange ⟨[true, false, true], nofun⟩ ⟨[false, false], nofun⟩ .update, .flush,
      .goto (.scan .instruction .exit2), .trstReset, .capture .instruction, .deferClock true false 4]
    connected.1 = .ok () ∧ (∀ e, .error (.cable e) ∉ (Chain.operateAll ops connected.2).1) ∧
      ∃ c₁ c₂, (Chain.goto (.scan .data .pause)).runOn (Chain.operateAll ops connected.2).2 = (.ok (), c₁) ∧
        Chain.flush.runOn c₁ = (.ok (), c₂) ∧ c₂.SettledIn (.scan .data .pause) := by
  intro connected ops
  have hconnect : connected.1 = .ok () := by rfl
  have hoks : (Chain.operateAll ops connected.2).1.all (·.isOk) = true := by decide +kernel
  have hcable : ∀ e, .error (.cable e) ∉ (Chain.operateAll ops connected.2).1 :=
    fun e he => Bool.false_ne_true (List.all_eq_true.mp hoks _ he)
  obtain ⟨-, -, hgoto, hsucceeds⟩ := tracked_state_real (Prod.ext hconnect rfl) ops hcable
  obtain ⟨-, hthere⟩ := hsucceeds (Memory.grants_ample _)
  obtain ⟨c₁, c₂, h₁, h₂⟩ := hthere (.scan .data .pause)
  exact ⟨hconnect, hcable, c₁, c₂, h₁, h₂, hgoto _ _ _ nofun h₁ h₂⟩

end Chain
end Jtag
