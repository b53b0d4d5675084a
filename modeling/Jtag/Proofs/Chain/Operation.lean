import Jtag.Chain.Detect
import Jtag.Chain.Scan
import Jtag.Proofs.Action.Keeps

/-! The operations of a connected chain, and what it takes to keep something over all of them. They are made of a
    few ways to reach the controllers: clocks that go out at once, clocks, samples and transfers that are deferred,
    flushes, picking results up, and a pulse of the reset line. Whatever these keep, every operation keeps, and so
    does every run of operations that goes on after failures. -/

namespace Jtag
namespace Chain

open Jtag.Action

/-- An operation on a connected chain. -/
inductive Operation where
  | reset
  | trstReset
  | resetBypass
  | clock (tms tdi : Bool) (count : Nat)
  | deferClock (tms tdi : Bool) (count : Nat)
  | capture (column : Tap.Column)
  | goto (target : Tap.State)
  /-- Shift a register without collecting what comes out. -/
  | shift (input : Register) (exit : Exit)
  | exchange (input output : Register) (exit : Exit)
  | deferShift (input : Register) (outputLength? : Option Nat) (exit : Exit)
  | shiftOutput (inputLength : Nat) (output : Register) (exit : Exit)
  | shiftInstructions (output capturing : Bool) (exit : Exit)
  | shiftData (output capturing : Bool) (exit : Exit)
  | detectLength
  | scan (expected? : Option (List Nat))
  | detectParts (names : Manufacturers) (expected? : Option (List Nat)) (database : Database)
  | discover
  | idCodeBytes (limit? : Option Nat)
  | flush
  /-- Put other parts into the chain, which reaches no controller. -/
  | setParts (parts : List Part)
  | setInstructionLength (length : Nat)

variable {σ α : Type} [Driver σ]

/-- Carry an operation out. What it answers does not matter here. -/
def operate : Operation → ChainAction σ Unit
  | .reset => Chain.reset
  | .trstReset => Chain.trstReset
  | .resetBypass => Chain.resetBypass
  | .clock tms tdi count => Chain.clock tms tdi count
  | .deferClock tms tdi count => Chain.deferClock tms tdi count
  | .capture column => Chain.capture column
  | .goto target => Chain.goto target
  | .shift input exit => Chain.shift input exit
  | .exchange input output exit => do let _ ← Chain.exchange input output exit
  | .deferShift input outputLength? exit => Chain.deferShift input outputLength? exit
  | .shiftOutput inputLength output exit => do let _ ← Chain.shiftOutput inputLength output exit
  | .shiftInstructions output capturing exit => Chain.shiftInstructions output capturing exit
  | .shiftData output capturing exit => Chain.shiftData output capturing exit
  | .detectLength => do let _ ← Chain.detectLength
  | .scan expected? => do let _ ← Chain.scan expected?
  | .detectParts names expected? database => do let _ ← Chain.detectParts names expected? database
  | .discover => do let _ ← Chain.discover
  | .idCodeBytes limit? => do let _ ← Chain.idCodeBytes limit?
  | .flush => Chain.flush
  | .setParts parts => Action.change fun c => { c with parts }
  | .setInstructionLength length => Chain.setInstructionLength length

/-- Carry operations out one after the other, also after failures. The answers come first. -/
def operateAll : List Operation → Chain σ → List (Except Error Unit) × Chain σ
  | [], c => ([], c)
  | op :: ops, c =>
    let (answer, c₁) := (operate op).runOn c
    let (answers, c₂) := operateAll ops c₁
    (answer :: answers, c₂)

/-- What keeps `P`: warnings, and the ways to reach the controllers that a shift is made of. -/
structure Reaching (fatal : Error → Prop) (P : Chain σ → Prop) : Prop where
  warn : ∀ w, Keeps fatal P (Chain.warn w)
  clock : ∀ tms tdi count, Keeps fatal P (Chain.clock tms tdi count)
  deferClock : ∀ tms tdi count, Keeps fatal P (Chain.deferClock tms tdi count)
  sample : Keeps fatal P (Chain.onCable Cable.deferSampleTdo)
  transfer : ∀ bits capture, Keeps fatal P (do
    Chain.onCable (Cable.deferTransfer bits capture)
    Chain.track (·.clocks false bits.length))
  collect : ∀ inputLength exit {c : Chain σ} {cable : Cable σ} (output : Register), P c → c.cable? = some cable →
    (∀ e, ((Chain.collect inputLength exit).runOn (cable, output)).1 = .error e → ¬fatal (.cable e)) →
    P { c with cable? := some ((Chain.collect inputLength exit).runOn (cable, output)).2.1 }

namespace Reaching

variable {fatal : Error → Prop} {P : Chain σ → Prop} (h : Reaching fatal P)

include h

omit [Driver σ] h in
theorem requireCable : Keeps fatal P (Chain.requireCable : ChainAction σ Unit) :=
  keeps_bind_inspect fun _ => Keeps.ite (keeps_pure _) (keeps_throw _)

omit [Driver σ] h in
theorem makeFilled (length : Nat) (value : Bool) : Keeps fatal P (Chain.makeFilled length value : ChainAction σ Register) :=
  Keeps.when (keeps_throw _) (keeps_ofExcept _)

theorem levels (levels : List Bool) : Keeps fatal P (levels.forM fun tms => Chain.deferClock tms false 1) :=
  keeps_forM fun tms _ => h.deferClock tms false 1

theorem goto (target : Tap.State) : Keeps fatal P (Chain.goto target) :=
  Keeps.bind requireCable fun _ => keeps_bind_get fun c => h.levels (c.state.route target)

theorem reset : Keeps fatal P Chain.reset := Keeps.bind (h.clock _ _ _) fun _ => h.clock _ _ _

theorem capture (column : Tap.Column) : Keeps fatal P (Chain.capture column) := by
  have hcheck : Keeps fatal P (Chain.checkCaptureStart column) :=
    keeps_bind_get fun c => Keeps.ite (keeps_pure _) (h.warn _)
  exact Keeps.bind requireCable fun _ => Keeps.bind hcheck fun _ =>
    Keeps.bind (h.deferClock _ _ _) fun _ => h.deferClock _ _ _

theorem deferSingles (outputLength? : Option Nat) (leave : Bool) (index : Nat) (bits : List Bool) :
    Keeps fatal P (Chain.deferSingles outputLength? leave index bits) := by
  induction bits generalizing index with
  | nil => exact keeps_pure _
  | cons bit bits ih =>
    have hrest : Keeps fatal P (do
        Chain.deferClock (leave && bits.isEmpty) bit 1
        Chain.deferSingles outputLength? leave (index + 1) bits) := Keeps.bind (h.deferClock _ _ _) fun _ => ih (index + 1)
    exact Keeps.ite (Keeps.bind h.sample fun _ => hrest) hrest

theorem shiftBits (bits : List Bool) (outputLength? : Option Nat) (exit : Exit) {bulk : Nat} (hbulk : bulk ≤ bits.length) :
    Keeps fatal P (do
      Chain.onCable (Cable.deferTransfer (bits.take bulk) outputLength?.isSome)
      Chain.track (·.clocks false bulk)
      Chain.deferSingles outputLength? exit.leavesShift bulk (bits.drop bulk)
      exit.trailer.forM fun tms => Chain.deferClock tms false 1 : ChainAction σ Unit) := by
  have htransfer := h.transfer (bits.take bulk) outputLength?.isSome
  rw [List.length_take_of_le hbulk] at htransfer
  have hrest := fun _ : Unit => Keeps.bind (h.deferSingles outputLength? exit.leavesShift bulk (bits.drop bulk))
    fun _ => h.levels exit.trailer
  have hboth := Keeps.bind htransfer hrest
  rw [bind_assoc] at hboth
  exact hboth

theorem deferShift (input : Register) (outputLength? : Option Nat) (exit : Exit) :
    Keeps fatal P (Chain.deferShift input outputLength? exit) := by
  have hfits : exit.bulk input.length ≤ input.bits.length := by
    show exit.bulk input.bits.length ≤ _
    unfold Exit.bulk
    split <;> omega
  refine Keeps.bind requireCable fun _ => keeps_bind_get fun c => Keeps.unless (h.warn _) ?_
  refine Keeps.when (h.deferClock false false 1) ?_
  cases outputLength? with
  | none => exact h.shiftBits input.bits none exit hfits
  | some n => exact h.shiftBits input.bits (some n) exit (Nat.le_trans (Nat.min_le_left ..) hfits)

theorem shiftOutput (inputLength : Nat) (output : Register) (exit : Exit) :
    Keeps fatal P (Chain.shiftOutput inputLength output exit) := by
  intro c hc hfatal
  cases hcable : c.cable? with
  | none =>
    have hrun : (Chain.shiftOutput inputLength output exit).runOn c = (.error .noCable, c) := by
      rw [Chain.shiftOutput, Action.runOn_mk, hcable]
    rw [hrun]
    exact hc
  | some cable =>
    have hrun : (Chain.shiftOutput inputLength output exit).runOn c =
        ((((Chain.collect inputLength exit).runOn (cable, output)).1.mapError .cable).map fun _ =>
            ((Chain.collect inputLength exit).runOn (cable, output)).2.2,
          { c with cable? := some ((Chain.collect inputLength exit).runOn (cable, output)).2.1 }) := by
      rw [Chain.shiftOutput, Action.runOn_mk, hcable]
    rw [hrun] at hfatal ⊢
    refine h.collect inputLength exit output hc hcable fun e he => hfatal (.cable e) ?_
    rw [he]
    rfl

theorem exchange (input output : Register) (exit : Exit) : Keeps fatal P (Chain.exchange input output exit) :=
  Keeps.bind (h.deferShift input (some output.length) exit) fun _ => h.shiftOutput input.length output exit

theorem capturedPath (length : Nat) (column : Tap.Column) : Keeps fatal P (Chain.capturedPath length column) := by
  have honce : ∀ input output, Keeps fatal P (Chain.captureAndExchange column input output) :=
    fun input output => Keeps.bind (h.capture column) fun _ => h.exchange _ _ _
  have htwice : Keeps fatal P (Chain.captureTwice length column) :=
    Keeps.bind (makeFilled _ _) fun _ => Keeps.bind (makeFilled _ _) fun _ => Keeps.bind (makeFilled _ _) fun _ =>
      Keeps.bind (honce _ _) fun _ => Keeps.bind (honce _ _) fun _ => keeps_pure _
  exact Keeps.bind htwice fun _ => Keeps.ite (Keeps.bind (keeps_throw _) fun _ => keeps_pure _) (keeps_pure _)

theorem scan (expected? : Option (List Nat)) : Keeps fatal P (Chain.scan expected?) := by
  refine keeps_bind_get fun c => Keeps.bind h.reset fun _ => Keeps.bind (h.capturedPath _ _) fun dr => ?_
  cases Scan.idCodes? dr with
  | ok idCodes =>
    refine Keeps.bind (keeps_pure _) fun idCodes => Keeps.bind (h.capturedPath _ _) fun ir => ?_
    cases Scan.irLengths? ir idCodes.length expected? with
    | ok lengths => exact keeps_pure _
    | error fault => exact Keeps.bind (h.warn _) fun _ => keeps_throw _
  | error e =>
    dsimp only
    cases idCodeWarning? e with
    | none => exact keeps_throw_bind _ _
    | some w => exact Keeps.bind (h.warn w) fun _ => keeps_throw_bind _ _

theorem probeTrials (length : Nat) (zeros pattern : Register) (trials good : Nat) (probe : Probe) :
    Keeps fatal P (Chain.probeTrials length zeros pattern trials good probe) := by
  induction trials generalizing good probe with
  | zero => exact keeps_pure _
  | succ trials ih =>
    have honce : Keeps fatal P (Chain.probeOnce length zeros pattern probe) :=
      Keeps.bind (h.deferShift _ _ _) fun _ => Keeps.bind (h.exchange _ _ _) fun _ => keeps_pure _
    exact Keeps.bind honce fun answer => ih _ _

theorem probePatterns (trials threshold length : Nat) (zeros : Register) (count : Nat) (pattern : Register)
    (good : Nat) (probe : Probe) :
    Keeps fatal P (Chain.probePatterns trials threshold length zeros count pattern good probe) := by
  induction count generalizing pattern good probe with
  | zero => exact keeps_pure _
  | succ count ih =>
    exact Keeps.bind (h.probeTrials _ _ _ _ _ _) fun answer => Keeps.ite (keeps_pure _) (ih _ _ _)

theorem probeLengths (detect : DetectConfig) (count length : Nat) (stuck : Option (Option Bool)) :
    Keeps fatal P (Chain.probeLengths detect count length stuck) := by
  induction count generalizing length stuck with
  | zero => exact keeps_pure _
  | succ count ih =>
    refine Keeps.bind (keeps_ofExcept _) fun zeros => Keeps.bind (keeps_ofExcept _) fun output => ?_
    exact Keeps.bind (h.probePatterns _ _ _ _ _ _ _ _) fun answer => Keeps.ite (keeps_pure _) (ih _ _)

theorem detectLength : Keeps fatal P Chain.detectLength := by
  refine keeps_bind_get fun c => Keeps.ite (keeps_throw_bind _ _) (Keeps.bind (h.probeLengths _ _ _ _) ?_)
  rintro ⟨found, _ | _ | level⟩
  · exact Keeps.ite (keeps_pure _) (keeps_pure _)
  · exact Keeps.ite (keeps_pure _) (keeps_pure _)
  · exact Keeps.ite (Keeps.bind (h.warn _) fun _ => keeps_pure _) (keeps_pure _)

end Reaching

/-- A property of a chain that its cable, its tracker and its warnings have no part in. -/
def Apart (P : Chain σ → Prop) : Prop := ∀ c cable? tracker warnings, P c → P { c with cable?, tracker, warnings }

namespace Apart

variable {α : Type} {P : Chain σ → Prop} (h : Apart P)

include h

omit [Driver σ]

theorem onCable (act : CableAction σ α) : Always P (Chain.onCable act) := by
  intro c hc _
  rw [Chain.onCable, runOn_mk]
  split
  · exact hc
  · exact h c _ c.tracker c.warnings hc

theorem track (f : Tap.Tracker → Tap.Tracker) : Always P (Chain.track f : ChainAction σ Unit) :=
  keeps_change fun c hc => h c c.cable? _ c.warnings hc

theorem warn (w : Warning) : Always P (Chain.warn w : ChainAction σ Unit) :=
  keeps_change fun c hc => h c c.cable? c.tracker _ hc

variable [Driver σ]

theorem clock (tms tdi : Bool) (count : Nat) : Always P (Chain.clock tms tdi count : ChainAction σ Unit) :=
  Keeps.bind (h.onCable _) fun _ => h.track _

theorem reaching : Reaching (fun _ => False) P where
  warn := h.warn
  clock := h.clock
  deferClock _ _ _ := Keeps.bind (h.onCable _) fun _ => h.track _
  sample := h.onCable _
  transfer _ _ := Keeps.bind (h.onCable _) fun _ => h.track _
  collect _ _ {c _} _ hc _ _ := h c _ c.tracker c.warnings hc

theorem trstReset : Always P (Chain.trstReset : ChainAction σ Unit) := by
  have hset (level : Bool) : Always P (Chain.setTrst level : ChainAction σ Bool) :=
    Keeps.bind (h.onCable _) fun _ => Keeps.bind (h.track _) fun _ => keeps_pure _
  exact Keeps.bind (hset false) fun _ => Keeps.bind (hset true) fun _ => h.reaching.reset

end Apart

/-- What keeps `P`: changes of anything but the cable and the tracker, and all ways to reach the controllers. -/
structure Preserved (fatal : Error → Prop) (P : Chain σ → Prop) : Prop where
  same : ∀ {c c' : Chain σ}, P c → c'.cable? = c.cable? → c'.tracker = c.tracker → P c'
  clock : ∀ tms tdi count, Keeps fatal P (Chain.clock tms tdi count)
  deferClock : ∀ tms tdi count, Keeps fatal P (Chain.deferClock tms tdi count)
  sample : Keeps fatal P (Chain.onCable Cable.deferSampleTdo)
  transfer : ∀ bits capture, Keeps fatal P (do
    Chain.onCable (Cable.deferTransfer bits capture)
    Chain.track (·.clocks false bits.length))
  flush : ∀ amount, Keeps fatal P (Chain.onCable (Cable.flush amount))
  collect : ∀ inputLength exit {c : Chain σ} {cable : Cable σ} (output : Register), P c → c.cable? = some cable →
    (∀ e, ((Chain.collect inputLength exit).runOn (cable, output)).1 = .error e → ¬fatal (.cable e)) →
    P { c with cable? := some ((Chain.collect inputLength exit).runOn (cable, output)).2.1 }
  trstReset : Keeps fatal P Chain.trstReset

namespace Preserved

variable {fatal : Error → Prop} {P : Chain σ → Prop} (h : Preserved fatal P)

include h

theorem change {f : Chain σ → Chain σ} (hf : ∀ c, (f c).cable? = c.cable? ∧ (f c).tracker = c.tracker) :
    Keeps fatal P (Action.change f : ChainAction σ Unit) := keeps_change fun c hc => h.same hc (hf c).1 (hf c).2

theorem reaching : Reaching fatal P where
  warn _ := h.change fun _ => ⟨rfl, rfl⟩
  clock := h.clock
  deferClock := h.deferClock
  sample := h.sample
  transfer := h.transfer
  collect := h.collect

theorem flushAll : Keeps fatal P Chain.flush :=
  keeps_bind_inspect fun _ => Keeps.ite (h.flush _) (keeps_pure _)

theorem collectPart (lane : Lane) (index inputLength : Nat) (exit : Exit) :
    Keeps fatal P (Chain.collectPart lane index inputLength exit) := by
  intro c hc hfatal
  cases hcable : c.cable? with
  | none =>
    have hrun : (Chain.collectPart lane index inputLength exit).runOn c = (.error .noCable, c) := by
      rw [Chain.collectPart, Action.runOn_mk, hcable]
    rw [hrun]
    exact hc
  | some cable =>
    cases houtput : c.parts[index]?.bind lane.output with
    | none =>
      have hrun : (Chain.collectPart lane index inputLength exit).runOn c = (.ok (), c) := by
        rw [Chain.collectPart, Action.runOn_mk, hcable, houtput]
      rw [hrun]
      exact hc
    | some output =>
      have hrun : (Chain.collectPart lane index inputLength exit).runOn c =
          (((Chain.collect inputLength exit).runOn (cable, output)).1.mapError .cable,
            { c with
              cable? := some ((Chain.collect inputLength exit).runOn (cable, output)).2.1
              parts := c.parts.modify index (lane.store ((Chain.collect inputLength exit).runOn (cable, output)).2.2) }) := by
        rw [Chain.collectPart, Action.runOn_mk, hcable, houtput]
      rw [hrun] at hfatal ⊢
      refine h.same (h.collect inputLength exit output hc hcable fun e he => hfatal (.cable e) ?_) rfl rfl
      rw [he]
      rfl

/-! ### All parts at once -/

theorem shiftLane (lane : Lane) (output capturing : Bool) (exit : Exit) :
    Keeps fatal P (Chain.shiftLane lane output capturing exit) := by
  refine Keeps.bind Reaching.requireCable fun _ => Keeps.when (h.reaching.capture _) (keeps_bind_get fun c => ?_)
  refine Keeps.bind (keeps_forM fun _ _ => h.reaching.deferShift _ _ _) fun _ => ?_
  exact Keeps.ite (keeps_forM fun _ _ => h.collectPart _ _ _ _) (h.flush _)

theorem checkInstructions (index : Nat) (parts : List Part) : Keeps fatal P (Chain.checkInstructions index parts) := by
  induction parts generalizing index with
  | nil => exact keeps_pure _
  | cons p rest ih =>
    exact Keeps.ite (Keeps.bind (h.reaching.warn _) fun _ => keeps_throw_bind _ _) (ih (index + 1))

theorem checkDataRegisters (index : Nat) (parts : List Part) :
    Keeps fatal P (Chain.checkDataRegisters index parts) := by
  induction parts generalizing index with
  | nil => exact keeps_pure _
  | cons p rest ih =>
    unfold Chain.checkDataRegisters
    cases p.activeInstruction? with
    | none => exact Keeps.bind (h.reaching.warn _) fun _ => keeps_throw_bind _ _
    | some instruction => exact Keeps.ite (Keeps.bind (h.reaching.warn _) fun _ => keeps_throw_bind _ _) (ih (index + 1))

theorem shiftInstructions (output capturing : Bool) (exit : Exit) :
    Keeps fatal P (Chain.shiftInstructions output capturing exit) :=
  keeps_bind_get fun c => Keeps.ite (keeps_pure _)
    (Keeps.bind (h.checkInstructions 0 c.parts) fun _ => h.shiftLane _ _ _ _)

theorem shiftData (output capturing : Bool) (exit : Exit) :
    Keeps fatal P (Chain.shiftData output capturing exit) :=
  keeps_bind_get fun c => Keeps.ite (keeps_pure _)
    (Keeps.bind (h.checkDataRegisters 0 c.parts) fun _ => h.shiftLane _ _ _ _)

theorem resetBypass : Keeps fatal P Chain.resetBypass := by
  refine Keeps.bind h.reaching.reset fun _ => keeps_bind_get fun c => Keeps.ite (keeps_pure _) ?_
  refine Keeps.bind (Reaching.makeFilled _ _) fun ones => Keeps.bind (h.reaching.capture _) fun _ => ?_
  exact Keeps.bind (h.reaching.deferShift _ _ _) fun _ => h.change fun _ => ⟨rfl, rfl⟩

/-! ### Measuring -/

theorem measurePaths (first : Register) (count : Nat) (instruction : Register) :
    Keeps fatal P (Chain.measurePaths first count instruction) := by
  induction count generalizing instruction with
  | zero => exact keeps_pure _
  | succ count ih =>
    have hpath : Keeps fatal P (Chain.measurePath instruction) :=
      Keeps.bind h.trstReset fun _ => Keeps.bind (h.reaching.capture _) fun _ =>
        Keeps.bind (h.reaching.deferShift _ _ _) fun _ => Keeps.bind (h.reaching.capture _) fun _ =>
          Keeps.bind h.reaching.detectLength fun _ => keeps_pure _
    exact Keeps.bind hpath fun path => Keeps.ite (keeps_pure _) (Keeps.bind (ih _) fun _ => keeps_pure _)

theorem discover : Keeps fatal P Chain.discover := by
  refine Keeps.bind h.trstReset fun _ => Keeps.bind (h.reaching.capture _) fun _ => ?_
  refine Keeps.bind h.reaching.detectLength fun found => ?_
  cases found with
  | none => exact Keeps.bind (h.reaching.warn _) fun _ => keeps_throw _
  | some length =>
    exact Keeps.bind (keeps_ofExcept _) fun first => Keeps.bind (h.measurePaths _ _ _) fun _ => keeps_pure _

/-! ### Detecting -/

theorem applyDefinition (names : Manufacturers) (id : IdCode) (d : Description) (irLength : Nat) :
    Keeps fatal P (Chain.applyDefinition names id d irLength) := by
  unfold Chain.applyDefinition
  cases definedPart? id d with
  | ok part => exact Keeps.ite (keeps_pure _) (Keeps.bind (h.reaching.warn _) fun _ => keeps_pure _)
  | error e =>
    cases e with
    | part e => exact Keeps.bind (h.reaching.warn _) fun _ => keeps_pure _
    | _ => exact keeps_throw _

omit [Driver σ] h in
theorem orGeneric (names : Manufacturers) (found : Found) (defined? : Option Part) : Keeps fatal P (match defined? with
    | some part => return part
    | none => Action.ofExcept (genericPart? names found) : ChainAction σ Part) := by
  cases defined? with
  | none => exact keeps_ofExcept _
  | some part => exact keeps_pure part

theorem partOf (names : Manufacturers) (database : Database) (found : Found) :
    Keeps fatal P (Chain.partOf names database found) := by
  unfold Chain.partOf
  rcases found.idCode? with _ | id
  · exact Keeps.bind (keeps_pure _) fun defined? => orGeneric names found defined?
  · dsimp only
    cases database.lookup? id with
    | none => exact Keeps.bind (keeps_pure _) fun defined? => orGeneric names found defined?
    | some d => exact Keeps.bind (h.applyDefinition names id d _) fun defined? => orGeneric names found defined?

theorem addPart (part : Part) : Keeps fatal P (Chain.addPart part : ChainAction σ Nat) :=
  fun _ hc _ => h.same hc rfl rfl

theorem detectParts (names : Manufacturers) (expected? : Option (List Nat)) (database : Database) :
    Keeps fatal P (Chain.detectParts names expected? database) := by
  refine Keeps.bind (h.reaching.scan expected?) fun found => Keeps.bind (h.change fun _ => ⟨rfl, rfl⟩) fun _ => ?_
  refine Keeps.bind (keeps_forM fun _ _ => ?_) fun _ => keeps_bind_get fun _ => keeps_pure _
  exact Keeps.bind (h.partOf _ _ _) fun part => Keeps.bind (h.addPart part) fun _ => keeps_pure _

theorem readBytes (stopping : Bool) (blank : Register) (count zeros : Nat) (output : Register) :
    Keeps fatal P (Chain.readBytes stopping blank count zeros output) := by
  induction count generalizing zeros output with
  | zero => exact keeps_pure _
  | succ count ih =>
    refine Keeps.bind (h.reaching.exchange _ _ _) fun output => ?_
    exact Keeps.ite (keeps_pure _) (Keeps.bind (ih _ _) fun _ => keeps_pure _)

theorem idCodeBytes (limit? : Option Nat) : Keeps fatal P (Chain.idCodeBytes limit?) :=
  Keeps.bind (keeps_ofExcept _) fun _ => Keeps.bind h.trstReset fun _ => Keeps.bind (h.reaching.capture _) fun _ =>
    h.readBytes _ _ _ _ _

/-! ### Runs -/

theorem operate (op : Operation) : Keeps fatal P (Chain.operate op) := by
  cases op with
  | reset => exact h.reaching.reset
  | trstReset => exact h.trstReset
  | resetBypass => exact h.resetBypass
  | clock tms tdi count => exact h.clock tms tdi count
  | deferClock tms tdi count => exact h.deferClock tms tdi count
  | capture column => exact h.reaching.capture column
  | goto target => exact h.reaching.goto target
  | shift input exit => exact h.reaching.deferShift input none exit
  | exchange input output exit => exact Keeps.bind (h.reaching.exchange input output exit) fun _ => keeps_pure _
  | deferShift input outputLength? exit => exact h.reaching.deferShift input outputLength? exit
  | shiftOutput inputLength output exit =>
    exact Keeps.bind (h.reaching.shiftOutput inputLength output exit) fun _ => keeps_pure _
  | shiftInstructions output capturing exit => exact h.shiftInstructions output capturing exit
  | shiftData output capturing exit => exact h.shiftData output capturing exit
  | detectLength => exact Keeps.bind h.reaching.detectLength fun _ => keeps_pure _
  | scan expected? => exact Keeps.bind (h.reaching.scan expected?) fun _ => keeps_pure _
  | detectParts names expected? database =>
    exact Keeps.bind (h.detectParts names expected? database) fun _ => keeps_pure _
  | discover => exact Keeps.bind h.discover fun _ => keeps_pure _
  | idCodeBytes limit? => exact Keeps.bind (h.idCodeBytes limit?) fun _ => keeps_pure _
  | flush => exact h.flushAll
  | setParts parts => exact h.change fun _ => ⟨rfl, rfl⟩
  | setInstructionLength length => exact h.change fun _ => ⟨rfl, rfl⟩

/-- A run of operations keeps what each of them keeps, as long as none fails in a fatal way. -/
theorem operateAll (ops : List Operation) {c : Chain σ} (hc : P c)
    (hfatal : ∀ e, .error e ∈ (Chain.operateAll ops c).1 → ¬fatal e) : P (Chain.operateAll ops c).2 := by
  induction ops generalizing c with
  | nil => exact hc
  | cons op ops ih =>
    have hop := h.operate op c hc fun e he => hfatal e (he ▸ List.mem_cons_self)
    exact ih hop fun e he => hfatal e (List.mem_cons_of_mem _ he)

end Preserved
end Chain
end Jtag
