import Jtag.Chain.Shift
import Jtag.Proofs.Cable.Stands
import Jtag.Proofs.Tap.Follow

/-! A chain on a steady driver: a tracker, the parts, and the machine that its cable stands for. Clocks
    that go out through the chain move the machine and the tracker alike, also while they are
    deferred. -/

namespace Jtag
namespace Chain

/-- The chain knows `tracker` of its controllers, has these parts, and its cable stands for `m`. -/
structure Drives {σ : Type} [Driver σ] (d : Steady σ) (c : Chain σ) (tracker : Tap.Tracker) (parts : List Part)
    (m : Machine σ) : Prop where
  cable : ∃ cable, c.cable? = some cable ∧ cable.Stands d m
  tracker : c.tracker = tracker
  parts : c.parts = parts

variable {σ α : Type} [Driver σ] {d : Steady σ} {c : Chain σ} {t : Tap.Tracker} {parts : List Part}
  {m m' : Machine σ}

/-! ### Running the small calls -/

omit [Driver σ] in
theorem runOn_onCable {act : CableAction σ α} {cable cable' : Cable σ} {answer : Except CableError α}
    (hc : c.cable? = some cable) (h : act.runOn cable = (answer, cable')) :
    (onCable act).runOn c = (answer.mapError .cable, { c with cable? := some cable' }) := by
  rw [Chain.onCable, Action.runOn_mk, hc]
  dsimp only
  rw [h]

theorem Drives.onCable {act : CableAction σ α} {a : α} (h : c.Drives d t parts m)
    (hact : ∀ cable : Cable σ, cable.Stands d m → ∃ cable', act.runOn cable = (.ok a, cable') ∧ cable'.Stands d m') :
    ∃ c', (Chain.onCable act).runOn c = (.ok a, c') ∧ c'.Drives d t parts m' := by
  obtain ⟨⟨cable, hc, hstands⟩, htracker, hparts⟩ := h
  obtain ⟨cable', hrun, hstands'⟩ := hact cable hstands
  exact ⟨_, runOn_onCable hc hrun, ⟨cable', rfl, hstands'⟩, htracker, hparts⟩

theorem Drives.track (h : c.Drives d t parts m) (f : Tap.Tracker → Tap.Tracker) :
    ∃ c', (Chain.track f).runOn c = (.ok (), c') ∧ c'.Drives d (f t) parts m :=
  ⟨{ c with tracker := f c.tracker }, rfl, h.cable, congrArg f h.tracker, h.parts⟩

theorem Drives.warn (h : c.Drives d t parts m) (w : Warning) :
    ∃ c', (Chain.warn w).runOn c = (.ok (), c') ∧ c'.Drives d t parts m :=
  ⟨{ c with warnings := c.warnings.push w }, rfl, h.cable, h.tracker, h.parts⟩

theorem Drives.requireCable (h : c.Drives d t parts m) : Chain.requireCable.runOn c = (.ok (), c) := by
  obtain ⟨cable, hc, -⟩ := h.cable
  have hconnected : c.isConnected = true := by rw [isConnected, hc]; rfl
  rw [Chain.requireCable, Action.runOn_bind_ok (Action.runOn_inspect isConnected c), hconnected]
  rfl

/-- Behind a flush nothing is left to do, and the driver sent what it held back. -/
theorem Drives.flush (h : c.Drives d t parts m) :
    ∃ c' cable, Chain.flush.runOn c = (.ok (), c') ∧ c'.Drives d t parts (d.send m) ∧ c'.cable? = some cable ∧
      cable.driver = d.settle m.driver ∧ cable.todo.toList = [] := by
  obtain ⟨⟨cable, hc, hstands⟩, htracker, hparts⟩ := h
  obtain ⟨cable', hrun, hcarries⟩ := hstands.flush .completely (by decide)
  have hconnected : c.isConnected = true := by rw [isConnected, hc]; rfl
  refine ⟨{ c with cable? := some cable' }, cable', ?_, ⟨⟨cable', rfl, hcarries.stands⟩, htracker, hparts⟩, rfl,
    hcarries.driver, hcarries.todo.toList⟩
  rw [Chain.flush, Action.runOn_bind_ok (Action.runOn_inspect isConnected c), hconnected, if_pos rfl,
    runOn_onCable hc hrun]
  rfl

/-! ### Clocks -/

theorem Drives.deferClock (h : c.Drives d t parts m) (tms tdi : Bool) (count : Nat) :
    ∃ c', (Chain.deferClock tms tdi count).runOn c = (.ok (), c') ∧
      c'.Drives d (t.follow (List.replicate count ⟨tms, tdi⟩)) parts
        ⟨d.walk (List.replicate count ⟨tms, tdi⟩) m.driver, m.results⟩ := by
  obtain ⟨c₁, h₁, k₁⟩ := h.onCable fun cable hstands => hstands.defer (.clock tms tdi count)
  obtain ⟨c₂, h₂, k₂⟩ := k₁.track (·.clocks tms count)
  rw [t.clocks_eq_follow tms tdi count] at k₂
  exact ⟨c₂, (Action.runOn_bind_ok h₁ _).trans h₂, k₂⟩

theorem Drives.clock (h : c.Drives d t parts m) (tms tdi : Bool) (count : Nat) :
    ∃ c', (Chain.clock tms tdi count).runOn c = (.ok (), c') ∧
      c'.Drives d (t.follow (List.replicate count ⟨tms, tdi⟩)) parts
        (d.send (d.perform (.clock tms tdi count) (d.send m))) := by
  obtain ⟨c₁, h₁, k₁⟩ := h.onCable fun cable hstands => by
    obtain ⟨cable', h', k'⟩ := hstands.clock tms tdi count
    exact ⟨cable', h', k'.stands⟩
  obtain ⟨c₂, h₂, k₂⟩ := k₁.track (·.clocks tms count)
  rw [t.clocks_eq_follow tms tdi count] at k₂
  exact ⟨c₂, (Action.runOn_bind_ok h₁ _).trans h₂, k₂⟩

theorem Drives.setTrst (h : c.Drives d t parts m) (level : Bool) {old : Signals} {s : σ}
    (hdrive : d.drive .trstLine (if level then Signals.trstLine else Signals.none) (d.settle m.driver) = (old, s)) :
    ∃ c', (Chain.setTrst level).runOn c = (.ok old.trst, c') ∧
      c'.Drives d (t.setTrst old.trst level) parts ⟨s, m.results⟩ := by
  obtain ⟨c₁, h₁, k₁⟩ := h.onCable fun cable hstands => by
    obtain ⟨cable', h', k'⟩ := hstands.flushed ((d.setSignals_eq _ _ _).trans (by rw [hdrive]))
    exact ⟨cable', h', k'.stands⟩
  obtain ⟨c₂, h₂, k₂⟩ := k₁.track (·.setTrst old.trst level)
  refine ⟨c₂, ?_, k₂⟩
  exact (Action.runOn_bind_ok h₁ _).trans ((Action.runOn_bind_ok h₂ _).trans rfl)

/-- One clock after the other, each deferred. -/
theorem Drives.deferLevels (h : c.Drives d t parts m) (levels : List Bool) :
    ∃ c', (levels.forM fun tms => Chain.deferClock tms false 1).runOn c = (.ok (), c') ∧
      c'.Drives d (t.follow (levels.map (⟨·, false⟩))) parts ⟨d.walk (levels.map (⟨·, false⟩)) m.driver, m.results⟩ := by
  induction levels generalizing c t m with
  | nil => exact ⟨c, rfl, h⟩
  | cons tms levels ih =>
    obtain ⟨c₁, h₁, k₁⟩ := h.deferClock tms false 1
    obtain ⟨c₂, h₂, k₂⟩ := ih k₁
    exact ⟨c₂, (Action.runOn_bind_ok h₁ _).trans h₂, k₂⟩

/-! ### Captures -/

/-- The clocks that lead from Run-Test/Idle or an update state into the capture state of a column. -/
def captureTicks (column : Tap.Column) : List Tick :=
  List.replicate (selectClocks column) ⟨true, false⟩ ++ [⟨false, false⟩]

theorem known_of_canStartCapture {s : Tap.State} (h : s.canStartCapture = true) : s ≠ .unknown := by
  rintro rfl
  exact absurd h Bool.false_ne_true

omit [Driver σ] in
theorem state_follow_captureTicks (h : t.Consistent) (hstart : t.state.canStartCapture = true) (column : Tap.Column) :
    (t.follow (captureTicks column)).state = .scan column .capture := by
  rw [h.state_follow (known_of_canStartCapture hstart)]
  rcases hs : t.state with _ | _ | _ | ⟨column', stage⟩ <;> rw [hs] at hstart <;>
    try exact absurd hstart Bool.false_ne_true
  · cases column <;> rfl
  · cases stage <;> try exact absurd hstart Bool.false_ne_true
    cases column <;> cases column' <;> rfl

theorem Drives.checkCaptureStart (h : c.Drives d t parts m) (column : Tap.Column) :
    ∃ c', (Chain.checkCaptureStart column).runOn c = (.ok (), c') ∧ c'.Drives d t parts m := by
  unfold Chain.checkCaptureStart
  rw [Action.runOn_bind_ok (Action.runOn_get c)]
  dsimp only
  split
  · exact ⟨c, rfl, h⟩
  · exact h.warn _

theorem Drives.capture (h : c.Drives d t parts m) (column : Tap.Column) :
    ∃ c', (Chain.capture column).runOn c = (.ok (), c') ∧
      c'.Drives d (t.follow (captureTicks column)) parts ⟨d.walk (captureTicks column) m.driver, m.results⟩ := by
  obtain ⟨c₁, h₁, k₁⟩ := h.checkCaptureStart column
  obtain ⟨c₂, h₂, k₂⟩ := k₁.deferClock true false (selectClocks column)
  obtain ⟨c₃, h₃, k₃⟩ := k₂.deferClock false false 1
  refine ⟨c₃, ?_, ?_⟩
  · rw [Chain.capture, Action.runOn_bind_ok h.requireCable, Action.runOn_bind_ok h₁, Action.runOn_bind_ok h₂, h₃]
  · rw [captureTicks, Tap.Tracker.follow_append, d.walk_append]
    exact k₃

/-- The clocks that lead to a shift: those of a capture, where one is asked for. -/
def leadTicks (capturing : Bool) (column : Tap.Column) : List Tick := if capturing then captureTicks column else []

theorem Drives.lead (h : c.Drives d t parts m) (capturing : Bool) (column : Tap.Column) :
    ∃ c', (if capturing then Chain.capture column else pure () : ChainAction σ Unit).runOn c = (.ok (), c') ∧
      c'.Drives d (t.follow (leadTicks capturing column)) parts
        ⟨d.walk (leadTicks capturing column) m.driver, m.results⟩ := by
  cases capturing with
  | true => exact h.capture column
  | false => exact ⟨c, rfl, h⟩

end Chain
end Jtag
