import Jtag.Proofs.BitBang.Wire

/-! The bit-bang driver is faithful. Over a connection that takes every byte and answers every request, any calls
    succeed, the server sees just what they ask for, in order, and the samples that callers get are its answers,
    each of them once. What is sent and what still waits in the packet together are the commands of the calls; at
    the end of a call no request waits, and all answers were fetched. -/

namespace Jtag.BitBang

variable {σ α : Type}

/-- The byte that answers a request with a sample. -/
def digit (level : Bool) : UInt8 := if level then '1'.toUInt8 else '0'.toUInt8

theorem mapM_sample?_digit (bits : List Bool) : (bits.map digit).mapM Adapter.sample? = .ok bits := by
  induction bits with
  | nil => rfl
  | cons bit bits ih =>
    have hbit : Adapter.sample? (digit bit) = .ok bit := by cases bit <;> rfl
    rw [List.map_cons, List.mapM_cons, hbit, ih]
    rfl

/-- A connection that takes every byte, and that answers with valid samples as long as there are requests to
    answer. -/
structure Obliging (σ : Type) [Socket σ] where
  /-- All bytes that it took, first one first. -/
  taken : σ → List UInt8
  given : σ → List UInt8
  /-- It works, and can give as many samples. -/
  Ready : σ → Nat → Prop
  sendAll_eq : ∀ {s n}, Ready s n → ∀ bytes, ∃ t, (Socket.sendAll bytes).runOn s = (.ok (), t) ∧
    taken t = taken s ++ bytes ∧ given t = given s ∧ Ready t n
  receive_eq : ∀ {s n count}, Ready s (n + count) → (given s).length + count ≤ (taken s).count 'R'.toUInt8 →
    ∃ (bits : List Bool) (t : σ), (Socket.receive count).runOn s = (.ok (bits.map digit), t) ∧ bits.length = count ∧
      taken t = taken s ∧ given t = given s ++ bits.map digit ∧ Ready t n

variable [Socket σ]

/-! ### The adapter -/

/-- The commands an adapter sent and those it still has, the samples it got, and how many more it can get. -/
structure Wired (o : Obliging σ) (n : Nat) (sent unsent : List Command) (samples : List Bool)
    (a : Adapter σ) : Prop where
  taken : o.taken a.socket = sent.map Command.byte
  packet : a.packet = unsent.map Command.byte
  given : o.given a.socket = samples.map digit
  ready : o.Ready a.socket n

section

variable {o : Obliging σ} {n count : Nat} {sent unsent : List Command} {samples : List Bool} {a : Adapter σ}

theorem Wired.put (h : Wired o n sent unsent samples a) (commands : List Command) :
    ∃ b, (Adapter.put commands).runOn a = (.ok (), b) ∧ Wired o n sent (unsent ++ commands) samples b :=
  ⟨_, rfl, { h with packet := by rw [List.map_append, ← h.packet] }⟩

theorem Wired.flush (h : Wired o n sent unsent samples a) :
    ∃ b, Adapter.flush.runOn a = (.ok (), b) ∧ Wired o n (sent ++ unsent) [] samples b := by
  by_cases hnil : a.packet = []
  · have hunsent : unsent = [] := List.map_eq_nil_iff.1 (h.packet.symm.trans hnil)
    subst hunsent
    exact ⟨a, Adapter.flush_of_nil hnil, by rwa [List.append_nil]⟩
  · obtain ⟨t, hsend, htaken, hgiven, hready⟩ := o.sendAll_eq h.ready a.packet
    refine ⟨⟨t, []⟩, Adapter.flush_ok hnil hsend, ?_, rfl, hgiven.trans h.given, hready⟩
    rw [htaken, h.taken, h.packet, List.map_append]

theorem Wired.readSamples (h : Wired o (n + count) sent unsent samples a)
    (hasked : samples.length + count ≤ (sent ++ unsent).count .read) :
    ∃ bits b, (Adapter.readSamples count).runOn a = (.ok bits, b) ∧ bits.length = count ∧
      Wired o n (sent ++ unsent) [] (samples ++ bits) b := by
  obtain ⟨b, hflush, hb⟩ := h.flush
  have hpending : (o.given b.socket).length + count ≤ (o.taken b.socket).count 'R'.toUInt8 := by
    rw [hb.given, hb.taken, List.length_map, Command.count_byte_read]
    exact hasked
  obtain ⟨bits, t, hreceive, hlength, htaken, hgiven, hready⟩ := o.receive_eq hb.ready hpending
  refine ⟨bits, { b with socket := t }, ?_, hlength, htaken.trans hb.taken, hb.packet, ?_, hready⟩
  · rw [Adapter.readSamples, Action.runOn_bind_ok hflush,
      Action.runOn_bind_ok (Adapter.runOn_onSocket hreceive), mapM_sample?_digit]
    rfl
  · rw [hgiven, hb.given, List.map_append]

end

/-! ### One call -/

/-- How things stand between two calls: the commands that were issued and the samples that were handed out. No
    request waits, and each that was sent was answered. -/
structure Standing (o : Obliging σ) (n : Nat) (lines : Lines) (commands : List Command) (samples : List Bool)
    (p : Pod σ) : Prop where
  wire : ∃ sent unsent, sent ++ unsent = commands ∧ unsent.count .read = 0 ∧
    Wired o n sent unsent samples p.adapter
  answered : samples.length = commands.count .read
  lines : Lines.ofSignals p.signals = lines

namespace Standing

variable {o : Obliging σ} {n : Nat} {lines : Lines} {commands cs : List Command} {samples input : List Bool}
  {capture : Bool} {p : Pod σ}

theorem put (h : Standing o n lines commands samples p) (hcs : cs.count .read = 0) :
    ∃ b, (Adapter.put cs).runOn p.adapter = (.ok (), b) ∧
      Standing o n lines (commands ++ cs) samples { p with adapter := b } := by
  obtain ⟨sent, unsent, rfl, hwait, hwired⟩ := h.wire
  obtain ⟨b, hput, hb⟩ := hwired.put cs
  refine ⟨b, hput, ⟨sent, unsent ++ cs, (List.append_assoc ..).symm, ?_, hb⟩, ?_, h.lines⟩
  · rw [List.count_append, hwait, hcs]
  · rw [List.count_append, hcs]
    exact h.answered

theorem flush (h : Standing o n lines commands samples p) :
    ∃ q, (Pod.onAdapter Adapter.flush).runOn p = (.ok (), q) ∧ Standing o n lines commands samples q := by
  obtain ⟨sent, unsent, hall, -, hwired⟩ := h.wire
  obtain ⟨b, hflush, hb⟩ := hwired.flush
  exact ⟨_, Pod.onAdapter_ok hflush, ⟨commands, [], List.append_nil _, rfl, hall ▸ hb⟩, h.answered, h.lines⟩

theorem send (h : Standing o n lines commands samples p) (hcs : cs.count .read = 0) :
    ∃ q, (Pod.onAdapter do Adapter.put cs; Adapter.flush).runOn p = (.ok (), q) ∧
      Standing o n lines (commands ++ cs) samples q := by
  obtain ⟨sent, unsent, hall, -, hwired⟩ := h.wire
  obtain ⟨b, hput, hb⟩ := hwired.put cs
  obtain ⟨c, hflush, hc⟩ := hb.flush
  have hrun : (do Adapter.put cs; Adapter.flush : Action (Adapter σ) IoError Unit).runOn p.adapter = (.ok (), c) := by
    rw [Action.runOn_bind_ok hput, hflush]
  refine ⟨_, Pod.onAdapter_ok hrun, ⟨commands ++ cs, [], List.append_nil _, rfl, ?_⟩, ?_, h.lines⟩
  · rw [← hall, List.append_assoc]
    exact hc
  · rw [List.count_append, hcs]
    exact h.answered

/-- Commands with requests are sent, and as many samples come back. -/
theorem ask (cs : List Command) (h : Standing o (n + cs.count .read) lines commands samples p) :
    ∃ bits b c, (Adapter.put cs).runOn p.adapter = (.ok (), b) ∧
      (Adapter.readSamples (cs.count .read)).runOn b = (.ok bits, c) ∧ bits.length = cs.count .read ∧
      Standing o n lines (commands ++ cs) (samples ++ bits) { p with adapter := c } := by
  obtain ⟨sent, unsent, hall, -, hwired⟩ := h.wire
  obtain ⟨b, hput, hb⟩ := hwired.put cs
  have hissued : sent ++ (unsent ++ cs) = commands ++ cs := by rw [← hall, List.append_assoc]
  have hasked : samples.length + cs.count .read = (commands ++ cs).count .read := by
    rw [List.count_append, h.answered]
  obtain ⟨bits, c, hread, hlength, hc⟩ := hb.readSamples (hissued ▸ Nat.le_of_eq hasked)
  rw [hissued] at hc
  exact ⟨bits, b, c, hput, hread, hlength, ⟨commands ++ cs, [], List.append_nil _, rfl, hc⟩,
    by rw [List.length_append, hlength, hasked], h.lines⟩

theorem sampleTdo (h : Standing o (n + 1) lines commands samples p) :
    ∃ bit q, Pod.sampleTdo.runOn p = (.ok bit, q) ∧
      Standing o n lines (commands ++ Call.sampleTdo.commands lines) (samples ++ [bit]) q := by
  obtain ⟨bits, b, c, hput, hread, hlength, k⟩ := Standing.ask (Call.sampleTdo.commands lines) h
  obtain ⟨bit, rfl⟩ := List.length_eq_one_iff.1 hlength
  have hask : (Pod.onAdapter (Adapter.readSamples 1)).runOn { p with adapter := b } =
      (.ok [bit], { p with adapter := c }) := Pod.onAdapter_ok hread
  refine ⟨bit, { p with adapter := c }, ?_, k⟩
  calc Pod.sampleTdo.runOn p
    _ = _ := Action.runOn_bind_ok (Pod.onAdapter_ok hput) _
    _ = _ := Action.runOn_bind_ok hask _

theorem transfer (h : Standing o (n + (Call.transfer input capture).samples) lines commands samples p) :
    ∃ bits q, (Pod.transfer input capture).runOn p = (.ok bits, q) ∧
      bits.length = (Call.transfer input capture).samples ∧
      Standing o n lines (commands ++ (Call.transfer input capture).commands lines) (samples ++ bits) q := by
  have hcount := Call.count_read_commands lines (.transfer input capture)
  cases capture with
  | true =>
    obtain ⟨bits, b, c, hput, hread, hlength, k⟩ := Standing.ask _ (by rwa [← hcount] at h)
    rw [hcount] at hread hlength
    rw [Pod.transfer, if_pos rfl]
    exact ⟨bits, _, Pod.onAdapter_ok ((Action.runOn_bind_ok hput _).trans hread), hlength, k⟩
  | false =>
    obtain ⟨b, hb, k⟩ := h.put hcount
    rw [Pod.transfer, if_neg Bool.false_ne_true]
    exact ⟨[], _, Pod.onAdapter_ok (Action.runOn_bind_ok hb _), rfl, by rwa [List.append_nil]⟩

theorem setSignals (h : Standing o n lines commands samples p) (mask value : Signals) :
    ∃ q, (Pod.setSignals mask value).runOn p = (.ok p.signals, q) ∧
      Standing o n (lines.driven mask value) (commands ++ (Call.setSignals mask value).commands lines) samples q := by
  let new := p.signals.drive (mask.both .resetLines) value
  have hnew : Lines.ofSignals new = lines.driven mask value := by rw [Lines.ofSignals_drive, h.lines]
  have hset : Standing o n (lines.driven mask value) commands samples { p with signals := new } :=
    { h with lines := hnew }
  have hchange : new = p.signals ↔ lines.driven mask value = lines := by rw [Lines.drive_eq_iff, h.lines]
  rw [Pod.setSignals, Action.runOn_bind_ok (Action.runOn_inspect _ p), Action.runOn_bind_ok (Action.runOn_change _ p),
    Call.commands]
  by_cases hsame : new = p.signals
  · rw [if_pos hsame, if_pos (hchange.1 hsame), List.append_nil]
    exact ⟨_, rfl, hset⟩
  · rw [if_neg hsame, if_neg (mt hchange.2 hsame)]
    obtain ⟨q, hq, k⟩ : ∃ q, (Pod.onAdapter do
          Adapter.put [.reset (!new.trst) (!new.reset)]; Adapter.flush).runOn { p with signals := new } = (.ok (), q) ∧
        Standing o n (lines.driven mask value) (commands ++ [.reset (!new.trst) (!new.reset)]) samples q :=
      hset.send rfl
    refine ⟨q, by rw [Action.runOn_bind_ok hq]; rfl, ?_⟩
    rwa [← hnew] at k ⊢

theorem plain {act : DriverAction (Pod σ) α} {answer : α} {q : Pod σ} (k : Standing o n lines commands samples q)
    (hact : act.runOn p = (.ok answer, q)) :
    ∃ (bits : List Bool) (q : Pod σ), (do let _ ← act; return []).runOn p = (.ok bits, q) ∧ bits.length = 0 ∧
      Standing o n lines commands (samples ++ bits) q :=
  ⟨[], q, Action.runOn_bind_ok hact _, rfl, by rwa [List.append_nil]⟩

end Standing

namespace Call

/-- Make the call. The answer has the samples that the caller gets. -/
def run : Call → DriverAction (Pod σ) (List Bool)
  | init => do Driver.init; return []
  | clock tms tdi count => do Driver.clock tms tdi count; return []
  | sampleTdo => do return [← Driver.sampleTdo]
  | transfer input capture => Driver.transfer input capture
  | setSignals mask value => do let _ ← Driver.setSignals mask value; return []
  | sampleSignal lines => do let _ ← Driver.sampleSignal lines; return []
  | flush => do Driver.flush; return []
  | done => do Driver.done; return []

theorem run_ok {o : Obliging σ} {n : Nat} {lines : Lines} {issued : List Command} {got : List Bool} {p : Pod σ}
    (call : Call) (h : Standing o (n + call.samples) lines issued got p) :
    ∃ bits q, call.run.runOn p = (.ok bits, q) ∧ bits.length = call.samples ∧
      Standing o n (call.leaves lines) (issued ++ call.commands lines) (got ++ bits) q := by
  have hcount := count_read_commands lines call
  cases call with
  | init =>
    obtain ⟨q, hq, k⟩ := h.send hcount
    exact k.plain hq
  | clock tms tdi count =>
    obtain ⟨b, hb, k⟩ := h.put hcount
    exact k.plain (Pod.onAdapter_ok hb)
  | sampleTdo =>
    obtain ⟨bit, q, hq, k⟩ := h.sampleTdo
    exact ⟨[bit], q, Action.runOn_bind_ok hq _, rfl, k⟩
  | transfer input capture => exact h.transfer
  | setSignals mask value =>
    obtain ⟨q, hq, k⟩ := h.setSignals mask value
    exact k.plain hq
  | sampleSignal named =>
    exact Standing.plain (by rwa [commands, List.append_nil]) (Action.runOn_inspect _ p)
  | flush =>
    obtain ⟨q, hq, k⟩ := h.flush
    exact Standing.plain (by rwa [commands, List.append_nil]) hq
  | done =>
    obtain ⟨q, hq, k⟩ := h.send hcount
    exact k.plain hq

end Call

/-! ### All calls -/

/-- Make calls one after the other. The answer has the samples of each. -/
def runCalls : List Call → DriverAction (Pod σ) (List (List Bool))
  | [] => pure []
  | call :: rest => do
    let bits ← call.run
    let answers ← runCalls rest
    return bits :: answers

theorem runCalls_ok {o : Obliging σ} {n : Nat} {lines : Lines} {issued : List Command} {got : List Bool} {p : Pod σ}
    (calls : List Call) (h : Standing o (n + samplesOf calls) lines issued got p) :
    ∃ answers q, (runCalls calls).runOn p = (.ok answers, q) ∧ answers.map List.length = calls.map Call.samples ∧
      Standing o n (linesAfter lines calls) (issued ++ commandsOf lines calls) (got ++ answers.flatten) q := by
  -- Where the first call leaves the connection, the others start.
  induction calls generalizing lines issued got p with
  | nil => exact ⟨[], p, rfl, rfl, by simpa [samplesOf, commandsOf, linesAfter] using h⟩
  | cons call rest ih =>
    have hbudget : n + samplesOf (call :: rest) = n + samplesOf rest + call.samples := by
      rw [samplesOf]
      omega
    obtain ⟨bits, q, hcall, hbits, hq⟩ := call.run_ok (hbudget ▸ h)
    obtain ⟨answers, r, hrest, hanswers, hr⟩ := ih hq
    refine ⟨bits :: answers, r, ?_, by rw [List.map_cons, List.map_cons, hbits, hanswers], ?_⟩
    · rw [runCalls, Action.runOn_bind_ok hcall, Action.runOn_bind_ok hrest]
      rfl
    · simpa only [linesAfter, List.foldl_cons, commandsOf, List.flatten_cons, List.append_assoc] using hr

theorem Obliging.standing (o : Obliging σ) {socket : σ} {n : Nat} (hready : o.Ready socket n)
    (htaken : o.taken socket = []) (hgiven : o.given socket = []) :
    Standing o n .released [] [] (Pod.new socket) where
  wire := ⟨[], [], rfl, rfl, htaken, rfl, hgiven, hready⟩
  answered := rfl
  lines := (by decide : Lines.ofSignals .resetLines = .released)

/-- Any calls on a fresh connection succeed, and a server that reads what was sent and what still waits sees just
    what they ask for, whatever level TCK had before. The samples that the callers get are the answers of the server in
    order, as many for each call as it asks for, and behind the last call all requests that were sent are answered. As
    the calls are any, this holds behind each call of a longer run. The levels by which a call changes the reset lines
    are those the driver reports, and the server has these too, as long as `init` releases no line that was asserted. -/
theorem run_faithful (o : Obliging σ) (socket : σ) (tck : Bool) (calls : List Call)
    (hready : o.Ready socket (samplesOf calls))
    (htaken : o.taken socket = []) (hgiven : o.given socket = []) :
    ∃ answers pod, (runCalls calls).runOn (Pod.new socket) = (.ok answers, pod) ∧
      decode tck (o.taken pod.adapter.socket ++ pod.adapter.packet) = some (requested .released calls) ∧
      answers.map List.length = calls.map Call.samples ∧
      o.given pod.adapter.socket = answers.flatten.map digit ∧
      (o.given pod.adapter.socket).length = (o.taken pod.adapter.socket).count 'R'.toUInt8 ∧
      Lines.ofSignals pod.signals = linesAfter .released calls ∧
      (InitsReleased .released calls →
        (requested .released calls).foldl Lines.see .released = Lines.ofSignals pod.signals) := by
  have hstart : Standing o (0 + samplesOf calls) .released [] [] (Pod.new socket) :=
    o.standing (by rwa [Nat.zero_add]) htaken hgiven
  obtain ⟨answers, pod, hrun, hlengths, hend⟩ := runCalls_ok calls hstart
  obtain ⟨sent, unsent, hall, hwait, hwired⟩ := hend.wire
  rw [List.nil_append] at hall
  refine ⟨answers, pod, hrun, ?_, hlengths, hwired.given, ?_, hend.lines, fun hinits => ?_⟩
  · rw [hwired.taken, hwired.packet, ← List.map_append, decode_byte, hall, events_commandsOf]
  · calc (o.given pod.adapter.socket).length
      _ = (commandsOf .released calls).count .read := by rw [hwired.given, List.length_map]; exact hend.answered
      _ = sent.count .read := by rw [← hall, List.count_append, hwait, Nat.add_zero]
      _ = (o.taken pod.adapter.socket).count 'R'.toUInt8 := by rw [hwired.taken, Command.count_byte_read]
  · rw [see_requested hinits, hend.lines]

/-! ### A connection in memory -/

namespace Script

theorem sendAll_ok {s : Script} (h : s.limit? = none) (bytes : List UInt8) :
    (sendAll bytes).runOn s = (.ok (), { s with taken := s.taken ++ bytes.toArray }) := by
  rw [sendAll, Action.runOn_bind_ok (Action.runOn_get s)]
  simp only [h]
  rw [Action.runOn_bind_ok (Action.runOn_set _ _), if_neg (Nat.lt_irrefl _)]
  rfl

theorem receive_ok {s : Script} {count : Nat} (h : count ≤ s.responses.length) :
    (receive count).runOn s =
      (.ok (s.responses.take count), { s with responses := s.responses.drop count }) := by
  rw [receive, Action.runOn_bind_ok (Action.runOn_get s), Action.runOn_bind_ok (Action.runOn_set _ _),
    if_neg (by rw [List.length_take_of_le h]; exact Nat.lt_irrefl _)]
  rfl

theorem take_given (given : List Bool) {left : List Bool} {count : Nat} (h : count ≤ left.length) :
    (given ++ left).take ((given ++ left).length - (left.length - count)) = given ++ left.take count := by
  have hlength : (given ++ left).length - (left.length - count) = given.length + count := by
    rw [List.length_append]
    omega
  rw [hlength, List.take_length_add_append]

/-- A connection without a limit obliges as long as its responses last. -/
def obliging (responses : List Bool) : Obliging Script where
  taken s := s.taken.toList
  given s := (responses.take (responses.length - s.responses.length)).map digit
  Ready s n := s.limit? = none ∧ ∃ left, left <:+ responses ∧ s.responses = left.map digit ∧ n ≤ left.length
  sendAll_eq := by
    rintro s n ⟨hlimit, hleft⟩ bytes
    exact ⟨_, sendAll_ok hlimit bytes, by simp, rfl, hlimit, hleft⟩
  receive_eq := by
    rintro s n count ⟨hlimit, left, ⟨given, rfl⟩, hleft, hn⟩ -
    have hcount : count ≤ left.length := by omega
    refine ⟨left.take count, { s with responses := s.responses.drop count }, ?_, List.length_take_of_le hcount, rfl,
      ?_, hlimit, left.drop count, (List.drop_suffix count left).trans ⟨given, rfl⟩, ?_, ?_⟩
    · rw [List.map_take, ← hleft]
      exact receive_ok (by rwa [hleft, List.length_map])
    · simp only [hleft, List.length_drop, List.length_map]
      rw [take_given given hcount, ← Nat.sub_zero left.length, take_given given (Nat.zero_le _), List.take_zero,
        List.append_nil, List.map_append]
    · simp only [hleft, List.map_drop]
    · rw [List.length_drop]
      omega

/-- A fresh connection that answers with these samples. -/
def answering (responses : List Bool) : Script := ⟨responses.map digit, #[], none⟩

theorem ready_answering (responses : List Bool) :
    (obliging responses).Ready (answering responses) responses.length :=
  ⟨rfl, responses, List.suffix_rfl, rfl, Nat.le_refl _⟩

end Script

def mixedCalls : List Call :=
  [.init, .clock true false 2, .setSignals .trstLine .none, .sampleTdo, .transfer [true, false] true,
    .setSignals .trstLine .none, .sampleSignal .trstLine, .transfer [true] false, .flush, .done, .clock false true 1]

/-- TRST is asserted once, as nothing changes the second time, and the last clock waits in the packet. -/
theorem run_faithful_mixed :
    (Script.obliging [true, false, true]).Ready (.answering [true, false, true]) (samplesOf mixedCalls) ∧
      (Script.obliging [true, false, true]).taken (.answering [true, false, true]) = [] ∧
      (Script.obliging [true, false, true]).given (.answering [true, false, true]) = [] ∧
      ∃ answers pod, (runCalls mixedCalls).runOn (Pod.new (.answering [true, false, true])) = (.ok answers, pod) ∧
        decode true (pod.adapter.socket.taken.toList ++ pod.adapter.packet) =
          some [.lines false false, .clock true false, .clock true false, .lines true false, .sample, .sample,
            .clock false true, .sample, .clock false false, .clock false true, .quit, .clock false true] ∧
        answers.map List.length = [0, 0, 0, 1, 2, 0, 0, 0, 0, 0, 0] ∧
        (Script.obliging [true, false, true]).given pod.adapter.socket = answers.flatten.map digit ∧
        ((Script.obliging [true, false, true]).given pod.adapter.socket).length =
          pod.adapter.socket.taken.toList.count 'R'.toUInt8 ∧
        Lines.ofSignals pod.signals = ⟨false, true⟩ ∧
        (InitsReleased .released mixedCalls →
          (requested .released mixedCalls).foldl Lines.see .released = Lines.ofSignals pod.signals) :=
  ⟨Script.ready_answering _, rfl, rfl,
    run_faithful (Script.obliging [true, false, true]) (.answering [true, false, true]) true mixedCalls
      (Script.ready_answering _) rfl rfl⟩

end Jtag.BitBang
