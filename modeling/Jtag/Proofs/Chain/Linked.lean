import Jtag.Proofs.Chain.Tracking

/-! What links the tracker of a chain to its driver. A link that every single clock keeps, and every change of the
    lines, is kept by every run of operations, however they end, as soon as everything deferred is counted as done.
    Only queues that can grow are asked for. -/

namespace Jtag

open Jtag.Action

/-- A link between tracker and driver that clocks and driven lines keep, and that a pulse of the test reset line
    establishes. -/
structure Linking {σ : Type} [Driver σ] (d : Steady σ) (R : Tap.Tracker → σ → Prop) : Prop where
  step : ∀ {t s} (k : Tick), R t s → R (t.clock k.tms) (d.step k s)
  drive : ∀ {t s} (mask value : Signals), R t s →
    R (t.setTrst (d.drive mask value s).1.trst ((d.drive mask value s).1.drive mask value).trst) (d.drive mask value s).2
  sense : ∀ {t s} (lines : Signals), R t s → R t (d.sense lines s).2
  settle : ∀ {t s}, R t s → R t (d.settle s)
  /-- Setting a frequency does nothing else. -/
  frequency : ∀ hz (s : σ), ∃ answer, (Driver.setFrequency hz).runOn s = (.ok answer, s)
  pulse : ∀ s, let held := d.settle (d.drive .trstLine .none s).2
    (d.drive .trstLine .trstLine held).1.trst = false ∧
      R (.ofState .testLogicReset) (d.drive .trstLine .trstLine held).2

variable {σ : Type} [Driver σ] {d : Steady σ} {R : Tap.Tracker → σ → Prop}

namespace Linking

variable (h : Linking d R) {t : Tap.Tracker} {s : σ}

include h

theorem walk (hR : R t s) (ticks : List Tick) : R (t.follow ticks) (d.walk ticks s) := by
  induction ticks generalizing t s with
  | nil => exact hR
  | cons k ticks ih => exact ih (h.step k hR)

end Linking

/-! ### Picking up results -/

namespace Cable

variable {Q : σ → Prop} {c : Cable σ} {m : Machine σ}

/-- When everything deferred is done, the driver is as `Q` says. -/
def Leaves (d : Steady σ) (Q : σ → Prop) (c : Cable σ) : Prop := ∃ m, c.Stands d m ∧ Q m.driver

/-- A call that first does everything deferred. -/
theorem leaves_of_settles {α : Type} {act : CableAction σ α} (hQ : ∀ s, Q s → Q (d.settle s))
    (hact : ∀ {c : Cable σ} {m : Machine σ}, c.Stands d m →
      ∃ answer c' results, act.runOn c = (answer, c') ∧ c'.Carries [] ⟨d.settle m.driver, results⟩) :
    Always (Leaves d Q) act := by
  rintro c ⟨m, hstands, hm⟩ -
  obtain ⟨answer, c', results, hrun, k⟩ := hact hstands
  rw [hrun]
  exact ⟨_, k.stands, hQ _ hm⟩

theorem leaves_sampleTdoLate (hQ : ∀ s, Q s → Q (d.settle s)) : Always (Leaves d Q) Cable.sampleTdoLate := by
  refine leaves_of_settles hQ fun {c} ⟨s, results⟩ hstands => ?_
  cases results with
  | nil =>
    obtain ⟨c', hrun, k⟩ := hstands.sampleTdoLate_nil
    exact ⟨_, c', _, hrun, k⟩
  | cons outcome results =>
    by_cases hkind : ∃ value, outcome = .tdo value
    · obtain ⟨value, rfl⟩ := hkind
      obtain ⟨c', hrun, k⟩ := hstands.sampleTdoLate
      exact ⟨_, c', _, hrun, k⟩
    · obtain ⟨c', hrun, k⟩ := hstands.sampleTdoLate_of_ne fun value hvalue => hkind ⟨value, hvalue⟩
      exact ⟨_, c', _, hrun, k⟩

theorem leaves_transferLate (hQ : ∀ s, Q s → Q (d.settle s)) : Always (Leaves d Q) Cable.transferLate := by
  refine leaves_of_settles hQ fun {c} ⟨s, results⟩ hstands => ?_
  cases results with
  | nil =>
    obtain ⟨c', hrun, k⟩ := hstands.transferLate_nil
    exact ⟨_, c', _, hrun, k⟩
  | cons outcome results =>
    by_cases hkind : ∃ bits, outcome = .transfer bits
    · obtain ⟨bits, rfl⟩ := hkind
      obtain ⟨c', hrun, k⟩ := hstands.transferLate
      exact ⟨_, c', _, hrun, k⟩
    · obtain ⟨c', hrun, k⟩ := hstands.transferLate_of_ne fun bits hbits => hkind ⟨bits, hbits⟩
      exact ⟨_, c', _, hrun, k⟩

end Cable

namespace Chain

variable {c c' : Chain σ} {t : Tap.Tracker} {parts : List Part} {m : Machine σ}

theorem leaves_collect {Q : σ → Prop} (hQ : ∀ s, Q s → Q (d.settle s)) (inputLength : Nat) (exit : Exit) :
    Always (fun s : Cable σ × Register => s.1.Leaves d Q) (Chain.collect inputLength exit) := by
  have hsingles : ∀ n index, Always (fun s : Cable σ × Register => s.1.Leaves d Q) (Chain.collectSingles index n) := by
    intro n
    induction n with
    | zero => exact fun _ => keeps_pure _
    | succ n ih =>
      intro index
      refine Keeps.bind (fun s hs _ => (Cable.leaves_sampleTdoLate hQ).holds hs) fun value => ?_
      exact Keeps.bind (keeps_change fun _ hs => hs) fun _ => ih (index + 1)
  refine Keeps.bind (fun s hs _ => (Cable.leaves_transferLate hQ).holds hs) fun bits => ?_
  exact Keeps.bind (keeps_change fun _ hs => hs) fun _ => keeps_bind_inspect fun _ => hsingles _ _

/-- The cable stands for a machine that is linked to the tracker. -/
def Linked (d : Steady σ) (R : Tap.Tracker → σ → Prop) (c : Chain σ) : Prop :=
  ∃ m, c.Drives d c.tracker c.parts m ∧ R c.tracker m.driver

theorem Drives.linked (h : c.Drives d t parts m) (hR : R t m.driver) : c.Linked d R := by
  obtain ⟨hcable, rfl, rfl⟩ := h
  exact ⟨m, ⟨hcable, rfl, rfl⟩, hR⟩

theorem keeps_of_drives {α : Type} {act : ChainAction σ α}
    (hact : ∀ {c : Chain σ} {m : Machine σ}, c.Drives d c.tracker c.parts m → R c.tracker m.driver →
      ∃ answer c' t parts m', act.runOn c = (answer, c') ∧ c'.Drives d t parts m' ∧ R t m'.driver) :
    Always (Linked d R) act := by
  rintro c ⟨m, hdrives, hR⟩ -
  obtain ⟨answer, c', t, parts, m', hrun, hdrives', hR'⟩ := hact hdrives hR
  rw [hrun]
  exact hdrives'.linked hR'

theorem Drives.setSignals (h : c.Drives d t parts m) (mask value : Signals) {old : Signals} {s : σ}
    (hdrive : d.drive mask value (d.settle m.driver) = (old, s)) :
    ∃ c', (Chain.setSignals mask value).runOn c = (.ok old, c') ∧
      c'.Drives d (t.setTrst old.trst (old.drive mask value).trst) parts ⟨s, m.results⟩ := by
  obtain ⟨c₁, h₁, k₁⟩ := h.onCable fun cable hstands => by
    obtain ⟨cable', h', k'⟩ := hstands.flushed ((d.setSignals_eq _ _ _).trans (by rw [hdrive]))
    exact ⟨cable', h', k'.stands⟩
  obtain ⟨c₂, h₂, k₂⟩ := k₁.track (·.setTrst old.trst (old.drive mask value).trst)
  exact ⟨c₂, (runOn_bind_ok h₁ _).trans ((runOn_bind_ok h₂ _).trans rfl), k₂⟩

theorem linked_setSignals (h : Linking d R) (mask value : Signals) : Always (Linked d R) (Chain.setSignals mask value) :=
  keeps_of_drives fun hdrives hR => by
    obtain ⟨c', hrun, k⟩ := hdrives.setSignals mask value rfl
    exact ⟨_, c', _, _, _, hrun, k, h.drive mask value (h.settle hR)⟩

theorem linked_setTrst (h : Linking d R) (level : Bool) : Always (Linked d R) (Chain.setTrst level) :=
  keeps_of_drives fun hdrives hR => by
    obtain ⟨c', hrun, k⟩ := hdrives.setTrst level rfl
    have hR' := h.drive .trstLine (if level then .trstLine else .none) (h.settle hR)
    rw [Signals.trst_drive] at hR'
    exact ⟨_, c', _, _, _, hrun, k, hR'⟩

theorem linked_sampleSignal (h : Linking d R) (lines : Signals) : Always (Linked d R) (Chain.sampleSignal lines) :=
  keeps_of_drives fun hdrives hR => by
    obtain ⟨c', hrun, k⟩ := hdrives.onCable fun cable hstands => by
      obtain ⟨cable', h', k'⟩ := hstands.flushed (d.sampleSignal_eq lines _)
      exact ⟨cable', h', k'.stands⟩
    exact ⟨_, c', _, _, _, hrun, k, h.sense lines (h.settle hR)⟩

theorem linked_setFrequency (h : Linking d R) (hz : Nat) : Always (Linked d R) (Chain.setFrequency hz) :=
  keeps_of_drives fun {c m} hdrives hR => by
    obtain ⟨answer, hset⟩ := h.frequency hz (d.settle m.driver)
    have hcable : ∀ cable : Cable σ, cable.Stands d m → ∃ cable', (Cable.setFrequency hz).runOn cable = (.ok (), cable') ∧
        cable'.Stands d ⟨d.settle m.driver, m.results⟩ := by
      intro cable hstands
      obtain ⟨cable₁, h₁, k₁⟩ := hstands.flush .completely (by decide)
      obtain ⟨cable₂, h₂, k₂⟩ := k₁.onDriver hset
      refine ⟨{ cable₂ with frequency := answer }, ?_, ?_⟩
      · rw [Cable.setFrequency, runOn_bind_ok h₁, runOn_bind_ok h₂]
        rfl
      · exact Cable.Carries.stands ⟨k₂.todo, k₂.finished, k₂.driver, k₂.todoGrowth, k₂.finishedGrowth⟩
    obtain ⟨c', hrun, k⟩ := hdrives.onCable hcable
    exact ⟨_, c', _, _, _, hrun, k, h.settle hR⟩

/-- Every operation keeps a link, whether it succeeds or fails. -/
theorem preserved_linked (h : Linking d R) : Preserved (fun _ => False) (Linked d R) := by
  have hclock : ∀ tms tdi count, Always (Linked d R) (Chain.clock tms tdi count) := fun tms tdi count =>
    keeps_of_drives fun hdrives hR => by
      obtain ⟨c', hrun, k⟩ := hdrives.clock tms tdi count
      exact ⟨_, c', _, _, _, hrun, k, h.settle (h.walk (h.settle hR) _)⟩
  constructor
  case same =>
    rintro c c' ⟨m, ⟨hstands, -, -⟩, hR⟩ hcable htracker
    exact ⟨m, ⟨hcable ▸ hstands, rfl, rfl⟩, htracker ▸ hR⟩
  case clock => exact hclock
  case deferClock =>
    refine fun tms tdi count => keeps_of_drives fun hdrives hR => ?_
    obtain ⟨c', hrun, k⟩ := hdrives.deferClock tms tdi count
    exact ⟨_, c', _, _, _, hrun, k, h.walk hR _⟩
  case sample =>
    refine keeps_of_drives fun hdrives hR => ?_
    obtain ⟨c', hrun, k⟩ := hdrives.onCable fun cable hstands => hstands.defer .sampleTdo
    exact ⟨_, c', _, _, _, hrun, k, hR⟩
  case transfer =>
    refine fun bits capture => keeps_of_drives fun {c m} hdrives hR => ?_
    obtain ⟨c₁, h₁, k₁⟩ := hdrives.onCable fun cable hstands => hstands.defer (.transfer bits capture)
    obtain ⟨c₂, h₂, k₂⟩ := k₁.track (·.clocks false bits.length)
    refine ⟨_, c₂, _, _, _, (runOn_bind_ok h₁ _).trans h₂, k₂, ?_⟩
    rw [c.tracker.clocks_low_eq_follow bits]
    exact h.walk hR _
  case flush =>
    refine fun amount => keeps_of_drives fun {c m} hdrives hR => ?_
    by_cases hamount : amount = .optionally
    · subst hamount
      obtain ⟨c', hrun, k⟩ := hdrives.onCable fun cable hstands => hstands.flush_optionally
      exact ⟨_, c', _, _, _, hrun, k, hR⟩
    · obtain ⟨c', hrun, k⟩ := hdrives.onCable fun cable hstands => by
        obtain ⟨cable', h', k'⟩ := hstands.flush amount hamount
        exact ⟨cable', h', k'.stands⟩
      exact ⟨_, c', _, _, _, hrun, k, h.settle hR⟩
  case collect =>
    rintro inputLength exit c cable output ⟨m, ⟨⟨cable', hcable', hstands⟩, -, -⟩, hR⟩ hcable -
    obtain rfl := Option.some.inj (hcable.symm.trans hcable')
    have hleaves := (leaves_collect (d := d) (Q := R c.tracker) (fun s => h.settle) inputLength exit).holds
      (s := (cable, output)) ⟨m, hstands, hR⟩
    obtain ⟨m', hstands', hR'⟩ := hleaves
    exact ⟨m', ⟨⟨_, rfl, hstands'⟩, rfl, rfl⟩, hR'⟩
  case trstReset =>
    exact Keeps.bind (linked_setTrst h false) fun _ => Keeps.bind (linked_setTrst h true) fun _ =>
      Keeps.bind (hclock _ _ _) fun _ => hclock _ _ _

/-! ### Runs -/

/-- What a chain can be asked for besides its operations: the lines and the frequency of its cable. -/
inductive Request where
  | operation (op : Operation)
  | setTrst (level : Bool)
  | setSignals (mask value : Signals)
  | sampleSignal (lines : Signals)
  | setFrequency (hz : Nat)

def request : Request → ChainAction σ Unit
  | .operation op => Chain.operate op
  | .setTrst level => do let _ ← Chain.setTrst level
  | .setSignals mask value => do let _ ← Chain.setSignals mask value
  | .sampleSignal lines => do let _ ← Chain.sampleSignal lines
  | .setFrequency hz => Chain.setFrequency hz

def requestAll (requests : List Request) : ChainAction σ Unit :=
  requests.forM fun r => do let _ ← (Chain.request r).outcome

theorem linked_requestAll (h : Linking d R) (requests : List Request) : Always (Linked d R) (Chain.requestAll requests) := by
  refine keeps_forM fun r _ => Keeps.bind (Always.outcome ?_) fun _ => keeps_pure _
  cases r with
  | operation op => exact (preserved_linked h).operate op
  | setTrst level => exact Keeps.bind (linked_setTrst h level) fun _ => keeps_pure _
  | setSignals mask value => exact Keeps.bind (linked_setSignals h mask value) fun _ => keeps_pure _
  | sampleSignal lines => exact Keeps.bind (linked_sampleSignal h lines) fun _ => keeps_pure _
  | setFrequency hz => exact linked_setFrequency h hz

/-- A pulse of the test reset line links the tracker to a driver it knew nothing about. -/
theorem connect_linked (h : Linking d R) {driver : σ} {before : Chain σ} {memory : Memory}
    (hgrowth : memory.Grants (max before.config.queue.growth 1))
    (hconnect : (Chain.connect driver memory).runOn before = (.ok (), c)) : c.Linked d R := by
  obtain ⟨c₀, s, hcable, -, hreset⟩ := connect_ok_inv hconnect
  have hstands := Cable.stands_new d s (Cable.new driver before.config.queue memory).strategy hgrowth
  have hdrives : c₀.Drives d c₀.tracker c₀.parts ⟨s, []⟩ := ⟨⟨_, hcable, hstands⟩, rfl, rfl⟩
  obtain ⟨c₁, h₁, k₁⟩ := hdrives.setTrst false rfl
  obtain ⟨c₂, h₂, k₂⟩ := k₁.setTrst true rfl
  obtain ⟨hheld, hR⟩ := h.pulse (d.settle s)
  have hlinked : c₂.Linked d R := by
    refine k₂.linked ?_
    -- The line was held in between, whatever it was before, so the rising edge is seen as one.
    show R (Tap.Tracker.setTrst _
      (d.drive .trstLine .trstLine (d.settle (d.drive .trstLine .none (d.settle s)).2)).1.trst true) _
    rw [hheld]
    exact hR
  have hkept := Always.holds (preserved_linked h).reaching.reset hlinked
  rw [Chain.trstReset, runOn_bind_ok h₁, runOn_bind_ok h₂] at hreset
  rw [hreset] at hkept
  exact hkept

/-- Behind a run and a flush nothing waits, and the driver is linked to the tracker. -/
theorem flush_linked (h : Linking d R) {driver : σ} {before : Chain σ} {memory : Memory}
    (hgrowth : memory.Grants (max before.config.queue.growth 1))
    (hconnect : (Chain.connect driver memory).runOn before = (.ok (), c)) (requests : List Request) :
    ∃ c₁ cable, Chain.flush.runOn ((Chain.requestAll requests).runOn c).2 = (.ok (), c₁) ∧ c₁.cable? = some cable ∧
      cable.todo.toList = [] ∧ R c₁.tracker cable.driver := by
  obtain ⟨m, hdrives, hR⟩ := (linked_requestAll h requests).holds (connect_linked h hgrowth hconnect)
  obtain ⟨c₁, cable, hflush, k, hcable, hdriver, hnothing⟩ := hdrives.flush
  refine ⟨c₁, cable, hflush, hcable, hnothing, ?_⟩
  rw [k.tracker, hdriver]
  exact h.settle hR

end Chain
end Jtag
