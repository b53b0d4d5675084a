import Jtag.Proofs.BitBang.Wire

/-! An adapter on a connection that may fail after it took some of the bytes, and take more of them later. A packet
    is kept until all of it was taken at once, so what a failed flush got across goes out again with the next one.
    Nothing is left out; what the connection took is what was issued just as long as no failed flush got anything
    across. -/

namespace Jtag.BitBang

variable {σ : Type}

inductive Operation where
  | reset (trst srst : Bool)
  | write (tck tms tdi : Bool)
  | pulse (tms tdi : Bool)
  | requestRead
  | readSamples (count : Nat)
  | flush
  | quit
deriving Repr

namespace Operation

def commands : Operation → List Command
  | reset trst srst => [.reset trst srst]
  | write tck tms tdi => [.write tck tms tdi]
  | pulse tms tdi => Command.pulse tms tdi
  | requestRead => [.read]
  | readSamples _ => []
  | flush => []
  | quit => [.quit]

def bytes (op : Operation) : List UInt8 := op.commands.map Command.byte

def run [Socket σ] : Operation → Action (Adapter σ) IoError (List Bool)
  | readSamples count => Adapter.readSamples count
  | flush => do Adapter.flush; return []
  | quit => do Adapter.quit; return []
  | op => do Adapter.put op.commands; return []

end Operation

def bytesOf (ops : List Operation) : List UInt8 := ops.flatMap Operation.bytes

/-- Perform operations one after the other, whether they succeed or fail. -/
def afterAll [Socket σ] (a : Adapter σ) (ops : List Operation) : Adapter σ :=
  ops.foldl (fun a op => (op.run.runOn a).2) a

/-- A connection that takes all it is sent, or fails after some of it, perhaps none. It may take more later. -/
structure Fitful (σ : Type) [Socket σ] where
  taken : σ → List UInt8
  sendAll_ok : ∀ {s t bytes}, (Socket.sendAll bytes).runOn s = (.ok (), t) → taken t = taken s ++ bytes
  sendAll_error : ∀ {s t bytes e}, (Socket.sendAll bytes).runOn s = (.error e, t) →
    ∃ count, taken t = taken s ++ bytes.take count
  receive_taken : ∀ s count, taken ((Socket.receive count).runOn s).2 = taken s

variable [Socket σ]

/-! ### One operation -/

/-- What became of bytes that were to be sent: all were taken and the packet is empty, or some were and the packet
    has all of them still. -/
inductive Sent (o : Fitful σ) (taken offered : List UInt8) (a : Adapter σ) : Prop where
  | all (packet : a.packet = []) (took : o.taken a.socket = taken ++ offered)
  | kept (count : Nat) (packet : a.packet = offered) (took : o.taken a.socket = taken ++ offered.take count)

variable {o : Fitful σ} {a : Adapter σ}

theorem put_sent (o : Fitful σ) (a : Adapter σ) (commands : List Command) :
    Sent o (o.taken a.socket) (a.packet ++ commands.map Command.byte)
      ((Adapter.put commands).runOn a).2 :=
  .kept 0 rfl (List.append_nil _).symm

theorem flush_sent (o : Fitful σ) (a : Adapter σ) :
    Sent o (o.taken a.socket) a.packet (Adapter.flush.runOn a).2 := by
  by_cases hnil : a.packet = []
  · rw [Adapter.flush_of_nil hnil]
    exact .kept 0 rfl (List.append_nil _).symm
  · rcases hsend : (Socket.sendAll a.packet).runOn a.socket with ⟨e | _, t⟩
    · obtain ⟨count, htook⟩ := o.sendAll_error hsend
      rw [Adapter.flush_error hnil hsend]
      exact .kept count rfl htook
    · rw [Adapter.flush_ok hnil hsend]
      exact .all rfl (o.sendAll_ok hsend)

theorem Sent.of_eq {taken offered : List UInt8} {b : Adapter σ} (h : Sent o taken offered a)
    (hpacket : b.packet = a.packet) (htaken : o.taken b.socket = o.taken a.socket) : Sent o taken offered b := by
  cases h with
  | all packet took => exact .all (hpacket.trans packet) (htaken.trans took)
  | kept count packet took => exact .kept count (hpacket.trans packet) (htaken.trans took)

theorem readSamples_sent (o : Fitful σ) (a : Adapter σ) (count : Nat) :
    Sent o (o.taken a.socket) a.packet ((Adapter.readSamples count).runOn a).2 := by
  have hflush := flush_sent o a
  rw [Adapter.readSamples]
  rcases hrun : Adapter.flush.runOn a with ⟨e | _, b⟩ <;> rw [hrun] at hflush
  · rwa [Action.runOn_bind_error hrun]
  · rw [Action.runOn_bind_ok hrun, Action.runOn_bind]
    -- From here on only the connection is asked, and it takes nothing.
    rcases hreceive : (Socket.receive count).runOn b.socket with ⟨answer, t⟩
    have htaken : o.taken t = o.taken b.socket := by
      have hkept := o.receive_taken b.socket count
      rwa [hreceive] at hkept
    rw [Adapter.runOn_onSocket hreceive]
    cases answer <;> exact hflush.of_eq rfl htaken

omit [Socket σ] in
/-- What is answered makes no difference to what is left behind. -/
theorem snd_runOn_return {α β : Type} (act : Action (Adapter σ) IoError α) (b : β) (a : Adapter σ) :
    ((do let _ ← act; return b).runOn a).2 = (act.runOn a).2 := by
  rw [Action.runOn_bind]
  rcases act.runOn a with ⟨_ | _, _⟩ <;> rfl

theorem Operation.run_sent (o : Fitful σ) (a : Adapter σ) (op : Operation) :
    Sent o (o.taken a.socket) (a.packet ++ op.bytes) (op.run.runOn a).2 := by
  cases op with
  | reset trst srst => exact put_sent o a _
  | write tck tms tdi => exact put_sent o a _
  | pulse tms tdi => exact put_sent o a _
  | requestRead => exact put_sent o a _
  | readSamples count =>
    rw [bytes, commands, List.map_nil, List.append_nil]
    exact readSamples_sent o a count
  | flush =>
    rw [bytes, commands, List.map_nil, List.append_nil, run, snd_runOn_return]
    exact flush_sent o a
  | quit =>
    rw [run, snd_runOn_return]
    exact flush_sent o { a with packet := a.packet ++ [Command.quit.byte] }

/-! ### All operations -/

/-- How many bytes an operation got across although their packet was kept. -/
def keptBy (o : Fitful σ) (before after : Adapter σ) : Nat :=
  if after.packet = [] then 0 else (o.taken after.socket).length - (o.taken before.socket).length

def kept (o : Fitful σ) : Adapter σ → List Operation → Nat
  | _, [] => 0
  | a, op :: rest => keptBy o a (op.run.runOn a).2 + kept o (op.run.runOn a).2 rest

/-- What was taken and what is still to be sent, one behind the other. -/
def stream (o : Fitful σ) (a : Adapter σ) : List UInt8 := o.taken a.socket ++ a.packet

/-- Nothing is left out of the stream, and what is in it twice was got across although the packet was kept. -/
theorem Sent.stream {b : Adapter σ} {offered : List UInt8} (h : Sent o (o.taken a.socket) offered b) :
    (o.taken a.socket ++ offered).Sublist (stream o b) ∧
      (BitBang.stream o b).length = (o.taken a.socket ++ offered).length + keptBy o a b := by
  cases h with
  | all packet took => rw [BitBang.stream, keptBy, packet, took, List.append_nil, if_pos rfl]; exact ⟨.refl _, rfl⟩
  | kept count packet took =>
    rw [BitBang.stream, packet, took, List.append_assoc]
    refine ⟨(List.sublist_append_right _ _).append_left _, ?_⟩
    have hkept : keptBy o a b = (offered.take count).length := by
      rw [keptBy, packet, took, List.length_append, Nat.add_sub_cancel_left]
      split
      · rename_i hnil
        rw [hnil, List.take_nil]
        rfl
      · rfl
    rw [hkept]
    simp only [List.length_append]
    omega

/-- Every command that was issued is in the stream, in order, and beyond that there is what failed flushes got
    across. -/
theorem stream_afterAll (o : Fitful σ) (a : Adapter σ) (ops : List Operation) :
    (stream o a ++ bytesOf ops).Sublist (stream o (afterAll a ops)) ∧
      (stream o (afterAll a ops)).length = (stream o a ++ bytesOf ops).length + kept o a ops := by
  induction ops generalizing a with
  | nil =>
    rw [bytesOf, List.flatMap_nil, List.append_nil]
    exact ⟨.refl _, rfl⟩
  | cons op rest ih =>
    obtain ⟨hsublist, hlength⟩ := (op.run_sent o a).stream
    obtain ⟨hrest, hrestLength⟩ := ih (op.run.runOn a).2
    have hissued : stream o a ++ bytesOf (op :: rest) =
        o.taken a.socket ++ (a.packet ++ op.bytes) ++ bytesOf rest := by
      rw [stream, bytesOf, List.flatMap_cons, List.append_assoc, List.append_assoc, List.append_assoc]
      rfl
    rw [hissued]
    refine ⟨(hsublist.append_right _).trans hrest, ?_⟩
    have hafter : afterAll a (op :: rest) = afterAll (op.run.runOn a).2 rest := rfl
    rw [hafter, hrestLength, kept, List.length_append, List.length_append, hlength]
    omega

theorem stream_eq_iff (o : Fitful σ) (a : Adapter σ) (ops : List Operation) :
    stream o (afterAll a ops) = stream o a ++ bytesOf ops ↔ kept o a ops = 0 := by
  obtain ⟨hsublist, hlength⟩ := stream_afterAll o a ops
  constructor
  · intro heq
    rw [heq] at hlength
    omega
  · intro hkept
    rw [hkept, Nat.add_zero] at hlength
    exact (hsublist.eq_of_length hlength.symm).symm

/-- Nothing that was issued is left out; on a fresh adapter the stream before is empty. With an empty packet, as right
    behind a successful flush, the connection took exactly what was issued just if no failed flush got bytes across; and
    as long as none has, what it took is a prefix of what was issued, also behind the first flush that fails midway. -/
theorem taken_issued (o : Fitful σ) (a : Adapter σ) (ops : List Operation) :
    (stream o a ++ bytesOf ops).Sublist (stream o (afterAll a ops)) ∧
      ((afterAll a ops).packet = [] →
        (o.taken (afterAll a ops).socket = stream o a ++ bytesOf ops ↔ kept o a ops = 0)) ∧
      (kept o a ops = 0 → ∀ op,
        o.taken (afterAll a (ops ++ [op])).socket <+: stream o a ++ bytesOf (ops ++ [op])) := by
  refine ⟨(stream_afterAll o a ops).1, fun hempty => ?_, fun hkept op => ?_⟩
  · have hsent : stream o (afterAll a ops) = o.taken (afterAll a ops).socket := by
      rw [stream, hempty, List.append_nil]
    rw [← hsent]
    exact stream_eq_iff o a ops
  · have heq : stream o (afterAll a ops) = stream o a ++ bytesOf ops := (stream_eq_iff o a ops).2 hkept
    have hissued : stream o a ++ bytesOf (ops ++ [op]) =
        o.taken (afterAll a ops).socket ++ ((afterAll a ops).packet ++ op.bytes) := by
      rw [bytesOf, List.flatMap_append, List.flatMap_singleton, ← List.append_assoc, ← List.append_assoc]
      exact congrArg (· ++ op.bytes) heq.symm
    have hlast : afterAll a (ops ++ [op]) = (op.run.runOn (afterAll a ops)).2 := by
      rw [afterAll, List.foldl_append]
      rfl
    rw [hissued, hlast]
    cases op.run_sent o (afterAll a ops) with
    | all packet took => exact ⟨[], by rw [List.append_nil, took]⟩
    | kept count packet took =>
      rw [took]
      exact (List.prefix_append_right_inj _).2 (List.take_prefix count _)

/-! ### A connection that stops now and then -/

/-- A connection in memory with the number of bytes that it takes each time it is sent some. Behind the last of these
    it takes all. -/
structure Flaky where
  allowances : List Nat
  taken : List UInt8
deriving DecidableEq, Repr

namespace Flaky

def allowance (s : Flaky) (bytes : List UInt8) : Nat := s.allowances.headD bytes.length

def sendAll (bytes : List UInt8) : Action Flaky IoError Unit := do
  let s ← get
  set (⟨s.allowances.tail, s.taken ++ bytes.take (s.allowance bytes)⟩ : Flaky)
  if s.allowance bytes < bytes.length then throw .writeZero

instance : Socket Flaky where
  sendAll := sendAll
  receive _ := throw .unexpectedEnd

theorem runOn_sendAll (s : Flaky) (bytes : List UInt8) :
    (sendAll bytes).runOn s =
      (if s.allowance bytes < bytes.length then .error .writeZero else .ok (),
        ⟨s.allowances.tail, s.taken ++ bytes.take (s.allowance bytes)⟩) := by
  rw [sendAll, Action.runOn_bind_ok (Action.runOn_get s), Action.runOn_bind_ok (Action.runOn_set _ _)]
  show Action.runOn (if s.allowance bytes < bytes.length then _ else _) _ = _
  split <;> rfl

def fitful : Fitful Flaky where
  taken := taken
  sendAll_ok {s t bytes} h := by
    obtain ⟨hanswer, rfl⟩ := Prod.mk.inj ((runOn_sendAll s bytes).symm.trans h)
    have henough : bytes.length ≤ s.allowance bytes := by
      by_contra hless
      rw [if_pos (Nat.lt_of_not_le hless)] at hanswer
      cases hanswer
    rw [List.take_of_length_le henough]
  sendAll_error {s t bytes e} h := by
    obtain ⟨-, rfl⟩ := Prod.mk.inj ((runOn_sendAll s bytes).symm.trans h)
    exact ⟨_, rfl⟩
  receive_taken _ _ := rfl

end Flaky

/-- A flush gets the first of two bytes across and fails. Behind the next one, which succeeds, the connection has that
    byte twice, which is no prefix of what was issued. -/
theorem taken_twice :
    (Adapter.flush.runOn (afterAll (.new (⟨[1], []⟩ : Flaky)) [.pulse true false, .flush])).1 = .ok () ∧
      (afterAll (.new (⟨[1], []⟩ : Flaky)) [.pulse true false, .flush, .flush]).socket.taken = [50, 50, 54] ∧
      bytesOf [.pulse true false, .flush, .flush] = [50, 54] ∧
      ¬(afterAll (.new (⟨[1], []⟩ : Flaky)) [.pulse true false, .flush, .flush]).socket.taken <+:
        bytesOf [.pulse true false, .flush, .flush] := by
  decide

end Jtag.BitBang
