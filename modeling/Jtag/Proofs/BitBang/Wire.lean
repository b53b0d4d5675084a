import Jtag.BitBang.Cable
import Mathlib.Data.List.Count

/-! The other end of a bit-bang connection. A server reads the bytes it gets as commands, and what it sees happen
    are the rising edges of TCK with the levels of TMS and TDI, the samples it is asked for, the changes of the
    reset lines and the end. Against it stands what the calls of a driver ask for; the commands of a call make the
    server see just that, whatever level TCK was left at. -/

namespace Jtag.BitBang

inductive Event where
  /-- TCK rose with these levels of TMS and TDI. -/
  | clock (tms tdi : Bool)
  | sample
  /-- The two reset lines were set, asserted or not. -/
  | lines (trst srst : Bool)
  | quit
deriving DecidableEq, Repr

namespace Command

/-- The command a byte stands for: a digit has the levels of TCK, TMS and TDI as its bits, and of the four letters
    from `r` on the offset has the two reset lines. -/
def ofByte? (byte : UInt8) : Option Command :=
  let code := byte.toNat
  if '0'.toNat ≤ code ∧ code < '8'.toNat then
    some (.write ((code - '0'.toNat).testBit 2) ((code - '0'.toNat).testBit 1) ((code - '0'.toNat).testBit 0))
  else if 'r'.toNat ≤ code ∧ code < 'v'.toNat then
    some (.reset ((code - 'r'.toNat).testBit 1) ((code - 'r'.toNat).testBit 0))
  else if code = 'R'.toNat then some .read
  else if code = 'Q'.toNat then some .quit
  else none

theorem ofByte?_byte (c : Command) : ofByte? c.byte = some c := by
  rcases c with ⟨⟨⟩ | ⟨⟩, ⟨⟩ | ⟨⟩, ⟨⟩ | ⟨⟩⟩ | ⟨⟨⟩ | ⟨⟩, ⟨⟩ | ⟨⟩⟩ | _ | _ <;> rfl

theorem byte_injective : Function.Injective byte := fun a b h =>
  Option.some.inj ((ofByte?_byte a).symm.trans ((congrArg ofByte? h).trans (ofByte?_byte b)))

theorem mapM_ofByte? (commands : List Command) : (commands.map byte).mapM ofByte? = some commands := by
  induction commands with
  | nil => rfl
  | cons c rest ih => simp [ofByte?_byte, ih]

theorem count_byte_read (commands : List Command) :
    (commands.map byte).count 'R'.toUInt8 = commands.count .read :=
  List.count_map_of_injective commands byte byte_injective .read

end Command

/-- The events of a run of commands, with TCK at the given level before the first of them. -/
def events : Bool → List Command → List Event
  | _, [] => []
  | before, .write tck tms tdi :: rest =>
    if !before && tck then .clock tms tdi :: events tck rest else events tck rest
  | before, .reset trst srst :: rest => .lines trst srst :: events before rest
  | before, .read :: rest => .sample :: events before rest
  | before, .quit :: rest => .quit :: events before rest

/-- What a server makes of the bytes it gets, if each of them is a command. -/
def decode (before : Bool) (bytes : List UInt8) : Option (List Event) :=
  (bytes.mapM Command.ofByte?).map (events before)

theorem decode_byte (before : Bool) (commands : List Command) :
    decode before (commands.map Command.byte) = some (events before commands) := by
  rw [decode, Command.mapM_ofByte?]
  rfl

def levelAfter : Bool → List Command → Bool
  | before, [] => before
  | _, .write tck _ _ :: rest => levelAfter tck rest
  | before, _ :: rest => levelAfter before rest

theorem events_append (before : Bool) (commands rest : List Command) :
    events before (commands ++ rest) = events before commands ++ events (levelAfter before commands) rest := by
  induction commands generalizing before with
  | nil => rfl
  | cons c commands ih =>
    cases c with
    | write tck tms tdi =>
      rw [List.cons_append, events, events, levelAfter, ih]
      split <;> rfl
    | reset trst srst => exact congrArg (_ :: ·) (ih before)
    | read => exact congrArg (_ :: ·) (ih before)
    | quit => exact congrArg (_ :: ·) (ih before)

/-- Commands made piece by piece. No piece depends on the level at which the one before left TCK. -/
theorem events_flatMap {α : Type} {commands : α → List Command} {seen : α → List Event}
    (h : ∀ before a, events before (commands a) = seen a) (before : Bool) (as : List α) :
    events before (as.flatMap commands) = as.flatMap seen := by
  induction as generalizing before with
  | nil => rfl
  | cons a as ih => rw [List.flatMap_cons, List.flatMap_cons, events_append, h, ih]

theorem events_pulse (before tms tdi : Bool) : events before (Command.pulse tms tdi) = [.clock tms tdi] := by
  simp [Command.pulse, events]

theorem events_sampledPulse (before tdi : Bool) :
    events before (Command.sampledPulse tdi) = [.sample, .clock false tdi] := by
  simp [Command.sampledPulse, events]

/-! ### Calls -/

/-- The levels of the two reset lines; a line that is high is released. -/
structure Lines where
  trst : Bool
  reset : Bool
deriving DecidableEq, Repr

namespace Lines

def released : Lines := ⟨true, true⟩

/-- The levels after the lines in `mask` were driven to the levels in `value`. -/
def driven (lines : Lines) (mask value : Signals) : Lines where
  trst := if mask.trst then value.trst else lines.trst
  reset := if mask.reset then value.reset else lines.reset

def ofSignals (levels : Signals) : Lines := ⟨levels.trst, levels.reset⟩

theorem getLsbD_drive (levels mask value : Signals) {i : Nat} (hi : i < 32) :
    (levels.drive mask value).word.getLsbD i =
      if mask.word.getLsbD i then value.word.getLsbD i else levels.word.getLsbD i := by
  simp only [Signals.drive, BitVec.getLsbD_or, BitVec.getLsbD_and, BitVec.getLsbD_not]
  cases mask.word.getLsbD i <;> simp [hi]

def IsReset (i : Nat) : Prop := i = 3 ∨ i = 4

instance (i : Nat) : Decidable (IsReset i) := inferInstanceAs (Decidable (_ ∨ _))

theorem getLsbD_resetLines : ∀ i < 32, Signals.resetLines.word.getLsbD i = decide (IsReset i) := by decide

theorem getLsbD_drive_resetLines (levels mask value : Signals) {i : Nat} (hi : i < 32) :
    (levels.drive (mask.both .resetLines) value).word.getLsbD i =
      if mask.word.getLsbD i && decide (IsReset i) then value.word.getLsbD i else levels.word.getLsbD i := by
  rw [getLsbD_drive _ _ _ hi, Signals.both, BitVec.getLsbD_and, getLsbD_resetLines i hi]

theorem ofSignals_drive (levels mask value : Signals) :
    ofSignals (levels.drive (mask.both .resetLines) value) = (ofSignals levels).driven mask value := by
  have htrst := getLsbD_drive_resetLines levels mask value (i := 3) (by decide)
  have hreset := getLsbD_drive_resetLines levels mask value (i := 4) (by decide)
  simp only [IsReset, true_or, or_true, decide_true, Bool.and_true] at htrst hreset
  exact congrArg₂ Lines.mk htrst hreset

/-- Driving reset lines changes something just if it changes one of these two. -/
theorem drive_eq_iff (levels mask value : Signals) :
    levels.drive (mask.both .resetLines) value = levels ↔
      (ofSignals levels).driven mask value = ofSignals levels := by
  rw [← ofSignals_drive]
  constructor
  · exact congrArg ofSignals
  · intro h
    obtain ⟨htrst, hreset⟩ := Lines.mk.inj h
    have hword : (levels.drive (mask.both .resetLines) value).word = levels.word := by
      refine BitVec.eq_of_getLsbD_eq fun i hi => ?_
      by_cases hline : IsReset i
      · rcases hline with rfl | rfl
        · exact htrst
        · exact hreset
      · rw [getLsbD_drive_resetLines _ _ _ hi, if_neg (by simp [hline])]
    exact congrArg Signals.mk hword

end Lines

inductive Call where
  | init
  | clock (tms tdi : Bool) (count : Nat)
  | sampleTdo
  | transfer (input : List Bool) (capture : Bool)
  | setSignals (mask value : Signals)
  | sampleSignal (lines : Signals)
  | flush
  | done
deriving Repr

namespace Call

/-- How many samples the caller wants back. -/
def samples : Call → Nat
  | sampleTdo => 1
  | transfer input true => input.length
  | _ => 0

/-- The levels a call leaves the reset lines set to. Only `setSignals` sets any: `init` releases the lines of the
    server, which says nothing about the levels that were set. -/
def leaves (lines : Lines) : Call → Lines
  | setSignals mask value => lines.driven mask value
  | _ => lines

/-- What a call asks of the server, with these levels set before. The protocol speaks of asserted lines. -/
def requests (lines : Lines) : Call → List Event
  | init => [.lines false false]
  | clock tms tdi count => List.replicate count (.clock tms tdi)
  | sampleTdo => [.sample]
  | transfer input true => input.flatMap fun tdi => [.sample, .clock false tdi]
  | transfer input false => input.map (.clock false)
  | setSignals mask value =>
    let new := lines.driven mask value
    if new = lines then [] else [.lines (!new.trst) (!new.reset)]
  | sampleSignal _ => []
  | flush => []
  | done => [.quit]

/-- The commands a call puts on the wire, with these levels set before. -/
def commands (lines : Lines) : Call → List Command
  | init => [.reset false false]
  | clock tms tdi count => (List.replicate count (Command.pulse tms tdi)).flatten
  | sampleTdo => [.write false false false, .read]
  | transfer input true => input.flatMap Command.sampledPulse
  | transfer input false => input.flatMap (Command.pulse false)
  | setSignals mask value =>
    let new := lines.driven mask value
    if new = lines then [] else [.reset (!new.trst) (!new.reset)]
  | sampleSignal _ => []
  | flush => []
  | done => [.quit]

/-- Whatever level TCK was left at, the commands of a call make the server see what the call asks for. -/
theorem events_commands (before : Bool) (lines : Lines) (call : Call) :
    events before (call.commands lines) = call.requests lines := by
  cases call with
  | init => rfl
  | clock tms tdi count =>
    calc events before (List.replicate count (Command.pulse tms tdi)).flatten
      _ = events before ((List.replicate count ()).flatMap fun _ => Command.pulse tms tdi) := by
        rw [List.flatMap_replicate]
      _ = (List.replicate count ()).flatMap fun _ => [.clock tms tdi] :=
        events_flatMap (fun b _ => events_pulse b tms tdi) before _
      _ = List.replicate count (.clock tms tdi) := by
        rw [List.flatMap_replicate, List.flatten_replicate_singleton]
  | sampleTdo => simp [commands, requests, events]
  | transfer input capture =>
    cases capture with
    | true => exact events_flatMap events_sampledPulse before input
    | false =>
      rw [commands, requests, List.map_eq_flatMap]
      exact events_flatMap (fun b => events_pulse b false) before input
  | setSignals mask value =>
    simp only [commands, requests]
    split <;> rfl
  | sampleSignal lines => rfl
  | flush => rfl
  | done => rfl

theorem count_read_commands (lines : Lines) (call : Call) : (call.commands lines).count .read = call.samples := by
  cases call with
  | clock tms tdi count => simp [commands, samples, List.count_flatten, Command.pulse]
  | transfer input capture =>
    cases capture with
    | true => simp [commands, samples, List.count_flatMap, Function.comp_def, Command.sampledPulse, List.map_const']
    | false => simp [commands, samples, List.count_flatMap, Function.comp_def, Command.pulse, List.map_const']
  | setSignals mask value =>
    simp only [commands, samples]
    split <;> rfl
  | init => rfl
  | sampleTdo => rfl
  | sampleSignal lines => rfl
  | flush => rfl
  | done => rfl

end Call

def samplesOf : List Call → Nat
  | [] => 0
  | call :: rest => call.samples + samplesOf rest

def linesAfter (lines : Lines) (calls : List Call) : Lines := calls.foldl Call.leaves lines

/-- What calls ask of the server, one after the other. -/
def requested : Lines → List Call → List Event
  | _, [] => []
  | lines, call :: rest => call.requests lines ++ requested (call.leaves lines) rest

def commandsOf : Lines → List Call → List Command
  | _, [] => []
  | lines, call :: rest => call.commands lines ++ commandsOf (call.leaves lines) rest

theorem events_commandsOf (before : Bool) (lines : Lines) (calls : List Call) :
    events before (commandsOf lines calls) = requested lines calls := by
  induction calls generalizing before lines with
  | nil => rfl
  | cons call rest ih => rw [commandsOf, requested, events_append, Call.events_commands, ih]

/-! ### The lines as the server has them -/

/-- The levels of the reset lines behind an event. -/
def Lines.see (lines : Lines) : Event → Lines
  | .lines trst srst => ⟨!trst, !srst⟩
  | _ => lines

/-- Whenever `init` is called, both reset lines are set released. -/
def InitsReleased : Lines → List Call → Prop
  | _, [] => True
  | lines, call :: rest => (call = .init → lines = .released) ∧ InitsReleased (call.leaves lines) rest

theorem foldl_see_of_still (lines : Lines) {seen : List Event} (h : ∀ e ∈ seen, lines.see e = lines) :
    seen.foldl Lines.see lines = lines := by
  induction seen with
  | nil => rfl
  | cons e rest ih =>
    rw [List.foldl_cons, h e List.mem_cons_self]
    exact ih fun e he => h e (List.mem_cons_of_mem _ he)

theorem Call.see_requests {lines : Lines} {call : Call} (hinit : call = .init → lines = .released) :
    (call.requests lines).foldl Lines.see lines = call.leaves lines := by
  cases call with
  | init => exact (hinit rfl).symm
  | clock tms tdi count =>
    refine foldl_see_of_still lines fun e he => ?_
    rw [List.eq_of_mem_replicate he]
    rfl
  | transfer input capture =>
    refine foldl_see_of_still lines fun e he => ?_
    cases capture with
    | true =>
      obtain ⟨tdi, -, hmem⟩ := List.mem_flatMap.1 he
      simp only [List.mem_cons, List.not_mem_nil, or_false] at hmem
      rcases hmem with rfl | rfl <;> rfl
    | false =>
      obtain ⟨tdi, -, rfl⟩ := List.mem_map.1 he
      rfl
  | setSignals mask value =>
    simp only [requests, leaves]
    split
    · exact Eq.symm ‹_›
    · simp [Lines.see]
  | sampleTdo => rfl
  | sampleSignal named => rfl
  | flush => rfl
  | done => rfl

theorem see_requested {lines : Lines} {calls : List Call} (hinits : InitsReleased lines calls) :
    (requested lines calls).foldl Lines.see lines = linesAfter lines calls := by
  induction calls generalizing lines with
  | nil => rfl
  | cons call rest ih =>
    rw [requested, List.foldl_append, Call.see_requests hinits.1]
    exact ih hinits.2

end Jtag.BitBang
