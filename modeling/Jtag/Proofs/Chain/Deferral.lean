import Jtag.Proofs.Chain.Shift
import Jtag.Proofs.Sim.Pod

/-! Shifts that are all deferred before the first output is picked up. A shift leaves behind what is picked up for it,
    no more and no less, so every output gets what it would have got from one shift after the other. The two differ in
    where the cable flushes, which a driver may not show: `Latch` does, and its outputs are others. -/

namespace Jtag

namespace Steady

variable {σ : Type} [Driver σ] {d : Steady σ} {s s' : σ}

/-- A flush sends what the driver holds back, and does nothing else: TDO shows the same behind it, and it makes no
    difference to what is sent later. -/
structure OnlySends (d : Steady σ) : Prop where
  tdo : ∀ s, d.tdo (d.settle s) = d.tdo s
  step : ∀ k s, d.settle (d.step k (d.settle s)) = d.settle (d.step k s)
  settle : ∀ s, d.settle (d.settle s) = d.settle s

/-- Once all is sent, the driver is the same. -/
def Same (d : Steady σ) (s s' : σ) : Prop := d.settle s = d.settle s'

variable (hsends : d.OnlySends)
include hsends

theorem OnlySends.same_iterate (count : Nat) (s : σ) : d.Same (d.settle^[count] s) s := by
  induction count generalizing s with
  | zero => rfl
  | succ count ih => exact (ih (d.settle s)).trans (hsends.settle s)

theorem OnlySends.tdo_eq (h : d.Same s s') : d.tdo s = d.tdo s' := by
  rw [← hsends.tdo s, h, hsends.tdo s']

theorem OnlySends.same_step (h : d.Same s s') (k : Tick) : d.Same (d.step k s) (d.step k s') := by
  show d.settle _ = d.settle _
  rw [← hsends.step k s, h, hsends.step k s']

theorem OnlySends.same_walk (h : d.Same s s') (ticks : List Tick) : d.Same (d.walk ticks s) (d.walk ticks s') := by
  induction ticks generalizing s s' with
  | nil => exact h
  | cons k ticks ih => exact ih (hsends.same_step h k)

theorem OnlySends.listen_eq (h : d.Same s s') (ticks : List Tick) : d.listen ticks s = d.listen ticks s' := by
  induction ticks generalizing s s' with
  | nil => rfl
  | cons k ticks ih =>
    rw [listen, listen, hsends.tdo_eq h, ih (hsends.same_step h k)]

end Steady

namespace Chain

/-- A shift, and the register that its output is for. -/
structure Job where
  input : Register
  output? : Option Register
  exit : Exit

variable {σ : Type} [Driver σ] {d : Steady σ} {c : Chain σ} {t : Tap.Tracker} {parts : List Part} {s s' : σ}
  {results : List Outcome}

namespace Job

def defer (job : Job) : ChainAction σ Unit := deferShift job.input (job.output?.map (·.length)) job.exit

/-- Pick up what a deferred job brought back. -/
def collect (job : Job) : ChainAction σ (Option Register) :=
  match job.output? with
  | none => return none
  | some output => some <$> shiftOutput job.input.length output job.exit

/-- Shift and pick up at once. -/
def shift (job : Job) : ChainAction σ (Option Register) :=
  match job.output? with
  | none => do
    Chain.shift job.input job.exit
    return none
  | some output => some <$> exchange job.input output job.exit

end Job

def deferJobs (jobs : List Job) : ChainAction σ Unit := jobs.forM Job.defer

def collectJobs : List Job → ChainAction σ (List (Option Register))
  | [] => return []
  | job :: jobs => do
    let output? ← job.collect
    return output? :: (← collectJobs jobs)

def shiftJobs : List Job → ChainAction σ (List (Option Register))
  | [] => return []
  | job :: jobs => do
    let output? ← job.shift
    return output? :: (← shiftJobs jobs)

namespace Job

def ticks (t : Tap.Tracker) (job : Job) : List Tick := passTicks t.state job.input.bits job.exit

/-- The levels of TDO before the clocks of the bits of a job. -/
def heard (d : Steady σ) (t : Tap.Tracker) (s : σ) (job : Job) : List Bool :=
  samples d t.state job.input.bits job.exit s

/-- What a job leaves behind to be picked up. -/
def outcomes (d : Steady σ) (t : Tap.Tracker) (s : σ) (job : Job) : List Outcome :=
  (job.output?.map (·.length)).elim [] (shiftOutcomes job.exit · (job.heard d t s))

def filled? (d : Steady σ) (t : Tap.Tracker) (s : σ) (job : Job) : Option Register :=
  job.output?.map (·.overlay (job.heard d t s))

/-- The register for an output keeps its length, and what is at or beyond the end of the input. -/
def Keeps (job : Job) (output? : Option Register) : Prop :=
  output?.map (·.length) = job.output?.map (·.length) ∧
    ∀ old new, job.output? = some old → output? = some new → ∀ i, job.input.length ≤ i → new.bits[i]? = old.bits[i]?

@[simp] theorem length_heard (d : Steady σ) (t : Tap.Tracker) (s : σ) (job : Job) :
    (job.heard d t s).length = job.input.length := length_samples ..

theorem keeps_filled? (d : Steady σ) (t : Tap.Tracker) (s : σ) (job : Job) : job.Keeps (job.filled? d t s) := by
  obtain ⟨input, output?, exit⟩ := job
  cases output? with
  | none => exact ⟨rfl, nofun⟩
  | some output =>
    refine ⟨congrArg some (Bits.length_overlay ..), ?_⟩
    rintro old new ⟨⟩ ⟨⟩ i hi
    refine Bits.getElem?_overlay_of_le ?_
    rwa [length_heard]

end Job

/-- All clocks of jobs that begin in the state that the tracker tells. -/
def jobTicks (t : Tap.Tracker) : List Job → List Tick
  | [] => []
  | job :: jobs => job.ticks t ++ jobTicks (t.follow (job.ticks t)) jobs

def jobOutcomes (d : Steady σ) (t : Tap.Tracker) (s : σ) : List Job → List Outcome
  | [] => []
  | job :: jobs => job.outcomes d t s ++ jobOutcomes d (t.follow (job.ticks t)) (d.walk (job.ticks t) s) jobs

def jobOutputs (d : Steady σ) (t : Tap.Tracker) (s : σ) : List Job → List (Option Register)
  | [] => []
  | job :: jobs => job.filled? d t s :: jobOutputs d (t.follow (job.ticks t)) (d.walk (job.ticks t) s) jobs

theorem keeps_jobOutputs (d : Steady σ) (t : Tap.Tracker) (s : σ) (jobs : List Job) :
    List.Forall₂ Job.Keeps jobs (jobOutputs d t s jobs) := by
  induction jobs generalizing t s with
  | nil => exact .nil
  | cons job jobs ih => exact .cons (job.keeps_filled? d t s) (ih _ _)

/-! ### Deferring all -/

theorem Drives.deferJobs (h : c.Drives d t parts ⟨s, results⟩) (jobs : List Job) :
    ∃ c', (Chain.deferJobs jobs).runOn c = (.ok (), c') ∧
      c'.Drives d (t.follow (jobTicks t jobs)) parts ⟨d.walk (jobTicks t jobs) s, results ++ jobOutcomes d t s jobs⟩ := by
  induction jobs generalizing c t s results with
  | nil => exact ⟨c, rfl, by rwa [jobOutcomes, List.append_nil]⟩
  | cons job jobs ih =>
    obtain ⟨c₁, h₁, k₁⟩ := h.deferShift job.input (job.output?.map (·.length)) job.exit
    obtain ⟨c₂, h₂, k₂⟩ := ih k₁
    refine ⟨c₂, (Action.runOn_bind_ok h₁ _).trans h₂, ?_⟩
    rw [jobTicks, jobOutcomes, Tap.Tracker.follow_append, d.walk_append, ← List.append_assoc]
    exact k₂

/-- What one job left behind is picked up, and what later ones left stays. -/
theorem Drives.collectJob {t' : Tap.Tracker} {job : Job}
    (h : c.Drives d t' parts ⟨s', job.outcomes d t s ++ results⟩) :
    ∃ c' k, job.collect.runOn c = (.ok (job.filled? d t s), c') ∧ c'.Drives d t' parts ⟨d.settle^[k] s', results⟩ := by
  obtain ⟨input, output?, exit⟩ := job
  cases output? with
  | none => exact ⟨c, 0, rfl, h⟩
  | some output =>
    obtain ⟨c', k, hrun, hdrives⟩ := h.shiftOutput (Job.length_heard ..)
    exact ⟨c', k, Action.runOn_bind_ok hrun _, hdrives⟩

theorem Drives.collectJobs {t' : Tap.Tracker} (jobs : List Job)
    (h : c.Drives d t' parts ⟨s', jobOutcomes d t s jobs⟩) :
    ∃ c' k, (Chain.collectJobs jobs).runOn c = (.ok (jobOutputs d t s jobs), c') ∧
      c'.Drives d t' parts ⟨d.settle^[k] s', []⟩ := by
  induction jobs generalizing c t s s' with
  | nil => exact ⟨c, 0, rfl, h⟩
  | cons job jobs ih =>
    obtain ⟨c₁, k, h₁, k₁⟩ := Drives.collectJob h
    obtain ⟨c₂, k', h₂, k₂⟩ := ih k₁
    refine ⟨c₂, k' + k, ?_, ?_⟩
    · exact (Action.runOn_bind_ok h₁ _).trans (Action.runOn_bind_ok h₂ _)
    · rwa [← Function.iterate_add_apply] at k₂

/-! ### One after the other -/

section
variable (hsends : d.OnlySends)
include hsends

theorem jobOutputs_same (h : d.Same s s') (t : Tap.Tracker) (jobs : List Job) :
    jobOutputs d t s jobs = jobOutputs d t s' jobs := by
  induction jobs generalizing t s s' with
  | nil => rfl
  | cons job jobs ih =>
    have hheard : job.heard d t s = job.heard d t s' := hsends.listen_eq (hsends.same_walk h _) _
    rw [jobOutputs, jobOutputs, Job.filled?, Job.filled?, hheard, ih (hsends.same_walk h _)]

/-- A job on its own: nothing is left to be picked up behind it. -/
theorem Drives.shiftJob (h : c.Drives d t parts ⟨s, []⟩) (job : Job) :
    ∃ c' s', job.shift.runOn c = (.ok (job.filled? d t s), c') ∧
      c'.Drives d (t.follow (job.ticks t)) parts ⟨s', []⟩ ∧ d.Same s' (d.walk (job.ticks t) s) := by
  obtain ⟨input, output?, exit⟩ := job
  cases output? with
  | none =>
    obtain ⟨c₁, h₁, k₁⟩ := h.deferShift input none exit
    exact ⟨c₁, _, Action.runOn_bind_ok h₁ _, k₁, rfl⟩
  | some output =>
    obtain ⟨c₁, k, h₁, k₁⟩ := h.exchange input output exit
    exact ⟨c₁, _, Action.runOn_bind_ok h₁ _, k₁, hsends.same_iterate k _⟩

theorem Drives.shiftJobs (h : c.Drives d t parts ⟨s, []⟩) (jobs : List Job) :
    ∃ c' s', (Chain.shiftJobs jobs).runOn c = (.ok (jobOutputs d t s jobs), c') ∧
      c'.Drives d (t.follow (jobTicks t jobs)) parts ⟨s', []⟩ ∧ d.Same s' (d.walk (jobTicks t jobs) s) := by
  induction jobs generalizing c t s with
  | nil => exact ⟨c, s, rfl, h, rfl⟩
  | cons job jobs ih =>
    obtain ⟨c₁, s₁, h₁, k₁, hsame₁⟩ := h.shiftJob hsends job
    obtain ⟨c₂, s₂, h₂, k₂, hsame₂⟩ := ih k₁
    refine ⟨c₂, s₂, ?_, ?_, ?_⟩
    · rw [jobOutputs, ← jobOutputs_same hsends hsame₁]
      refine (Action.runOn_bind_ok h₁ _).trans ?_
      exact Action.runOn_bind_ok h₂ _
    · rwa [jobTicks, Tap.Tracker.follow_append]
    · rw [jobTicks, d.walk_append]
      exact hsame₂.trans (hsends.same_walk hsame₁ _)

end

/-- No result is left to be picked up. -/
def PickedUp (c : Chain σ) : Prop := ∃ cable, c.cable? = some cable ∧ cable.finished.toList = []

theorem Drives.pickedUp (h : c.Drives d t parts ⟨s, []⟩) : c.PickedUp := by
  obtain ⟨cable, hcable, hstands⟩ := h.cable
  exact ⟨cable, hcable, hstands.finished_nil⟩

/-- Deferring all shifts and then picking up their outputs gives the same outputs as one shift after the other. No
    result is missing and none is left, the tracker knows the same, and behind a flush so is the driver. What is at
    or beyond the end of an input stays in its output. -/
theorem deferJobs_agree (hsends : d.OnlySends) (h : c.Drives d c.tracker c.parts ⟨s, []⟩) (jobs : List Job) :
    ∃ outputs c₁ c₂, (do deferJobs jobs; collectJobs jobs : ChainAction σ _).runOn c = (.ok outputs, c₁) ∧
      (shiftJobs jobs).runOn c = (.ok outputs, c₂) ∧ List.Forall₂ Job.Keeps jobs outputs ∧
      c₁.tracker = c₂.tracker ∧ c₁.PickedUp ∧ c₂.PickedUp ∧
      ∃ c₁' c₂' cable₁ cable₂, Chain.flush.runOn c₁ = (.ok (), c₁') ∧ Chain.flush.runOn c₂ = (.ok (), c₂') ∧
        c₁'.cable? = some cable₁ ∧ c₂'.cable? = some cable₂ ∧ cable₁.driver = cable₂.driver ∧
        cable₁.todo.toList = [] ∧ cable₂.todo.toList = [] := by
  obtain ⟨c₀, h₀, k₀⟩ := h.deferJobs jobs
  obtain ⟨c₁, k, h₁, k₁⟩ := k₀.collectJobs jobs
  obtain ⟨c₂, s₂, h₂, k₂, hsame⟩ := h.shiftJobs hsends jobs
  obtain ⟨c₁', cable₁, hflush₁, -, hcable₁, hdriver₁, htodo₁⟩ := k₁.flush
  obtain ⟨c₂', cable₂, hflush₂, -, hcable₂, hdriver₂, htodo₂⟩ := k₂.flush
  have hdriver : cable₁.driver = cable₂.driver := by
    rw [hdriver₁, hdriver₂]
    exact (hsends.same_iterate k _).trans hsame.symm
  exact ⟨_, c₁, c₂, (Action.runOn_bind_ok h₀ _).trans h₁, h₂, keeps_jobOutputs d c.tracker s jobs,
    k₁.tracker.trans k₂.tracker.symm, k₁.pickedUp, k₂.pickedUp, c₁', c₂', cable₁, cable₂, hflush₁, hflush₂, hcable₁,
    hcable₂, hdriver, htodo₁, htodo₂⟩

theorem onlySends_pod : Sim.Pod.steady.OnlySends := ⟨fun _ => rfl, fun _ _ => rfl, fun _ => rfl⟩

/-- A shift with a short output, one without an output, and one whose output is longer than its input. -/
theorem deferJobs_agree_three :
    let sim : Sim.Chain := ⟨[Sim.Device.new 2, Sim.Device.new 3], .scan .instruction .capture, .resetLines, 0⟩
    let cable := Cable.new (⟨sim, .combineTransfers⟩ : Sim.Pod) Config.default.queue .ample
    let c : Chain Sim.Pod := { Chain.new Config.default with cable? := some cable, tracker := .ofState sim.state }
    let jobs : List Job :=
      [⟨⟨[true, false, false, true], by decide⟩, some ⟨[true, true], by decide⟩, .shift⟩,
        ⟨⟨[false, true], by decide⟩, none, .shift⟩,
        ⟨⟨[true, true, false], by decide⟩, some ⟨[true, true, false, false, true], by decide⟩, .idle⟩]
    let outputs : List (Option Register) :=
      [some ⟨[true, false], by decide⟩, none, some ⟨[false, false, true, false, true], by decide⟩]
    (Sim.Pod.steady.OnlySends ∧ c.Drives Sim.Pod.steady c.tracker c.parts ⟨⟨sim, .combineTransfers⟩, []⟩) ∧
      ∃ c₁ c₂, (do deferJobs jobs; collectJobs jobs : ChainAction Sim.Pod _).runOn c = (.ok outputs, c₁) ∧
        (shiftJobs jobs).runOn c = (.ok outputs, c₂) ∧ c₁.tracker = c₂.tracker ∧ c₁.PickedUp := by
  intro sim cable c jobs outputs
  have hdrives : c.Drives Sim.Pod.steady c.tracker c.parts ⟨⟨sim, .combineTransfers⟩, []⟩ :=
    ⟨⟨_, rfl, Cable.stands_new Sim.Pod.steady _ .combineTransfers (Memory.grants_ample _)⟩, rfl, rfl⟩
  obtain ⟨_, c₁, c₂, h₁, h₂, -, htracker, hpicked, -⟩ := deferJobs_agree onlySends_pod hdrives jobs
  have houtputs : ((do deferJobs jobs; collectJobs jobs : ChainAction Sim.Pod _).runOn c).1 = .ok outputs := by
    decide +kernel
  rw [h₁] at houtputs
  obtain rfl := Except.ok.inj houtputs
  exact ⟨⟨onlySends_pod, hdrives⟩, c₁, c₂, h₁, h₂, htracker, hpicked⟩

end Chain

/-! ### A driver that holds clocks back -/

/-- A register of one bit, behind a driver that lets no clock through before it is flushed. A sample of TDO is not a
    reason for it to flush. -/
structure Latch where
  /-- What TDO shows. -/
  shown : Bool
  /-- What TDO shows once the clocks went through. -/
  coming : Bool
deriving DecidableEq

namespace Latch

def step (k : Tick) (l : Latch) : Latch := { l with coming := k.tdi }

def settle (l : Latch) : Latch := { l with shown := l.coming }

def clock (tms tdi : Bool) (count : Nat) : DriverAction Latch Unit := Action.change (step ⟨tms, tdi⟩)^[count]

def sampleTdo : DriverAction Latch Bool := Action.inspect shown

instance : Driver Latch where
  name _ := "latch"
  strategy _ := .combineTransfers
  init := pure ()
  done := pure ()
  setFrequency hz := pure hz
  clock := clock
  sampleTdo := sampleTdo
  transfer input capture := Driver.transferByBits sampleTdo clock capture input
  setSignals _ _ := pure .none
  sampleSignal _ := pure false
  flush := Action.change settle

def steady : Steady Latch where
  step := step
  tdo := shown
  drive _ _ l := (.none, l)
  sense _ l := (false, l)
  settle := settle
  clock_eq _ _ _ _ := rfl
  sampleTdo_eq _ := rfl
  transfer_eq _ _ := rfl
  setSignals_eq _ _ _ := rfl
  sampleSignal_eq _ _ := rfl
  flush_eq _ := rfl

end Latch

namespace Chain

/-- The first output is picked up behind a flush, so a second shift that is not deferred before it finds TDO as the
    first one left it. Deferred together, both find it as it was. -/
theorem deferJobs_held_back :
    let cable := Cable.new (⟨false, false⟩ : Latch) Config.default.queue .ample
    let c : Chain Latch :=
      { Chain.new Config.default with cable? := some cable, tracker := .ofState (.scan .data .shift) }
    let job : Job := ⟨⟨[true], by decide⟩, some ⟨[false], by decide⟩, .shift⟩
    c.Drives Latch.steady c.tracker c.parts ⟨⟨false, false⟩, []⟩ ∧
      ((do deferJobs [job, job]; collectJobs [job, job] : ChainAction Latch _).runOn c).1 =
        .ok [some ⟨[false], by decide⟩, some ⟨[false], by decide⟩] ∧
      ((shiftJobs [job, job]).runOn c).1 = .ok [some ⟨[false], by decide⟩, some ⟨[true], by decide⟩] := by
  intro cable c job
  have hdrives : c.Drives Latch.steady c.tracker c.parts ⟨⟨false, false⟩, []⟩ :=
    ⟨⟨_, rfl, Cable.stands_new Latch.steady _ .combineTransfers (Memory.grants_ample _)⟩, rfl, rfl⟩
  refine ⟨hdrives, ?_, ?_⟩
  · decide +kernel
  · decide +kernel

end Chain
end Jtag
