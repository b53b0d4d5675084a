import Jtag.BitBang.Socket

/-!
The bit-bang protocol: every command is one character. Commands are collected in a packet that is
sent once an answer is needed or when asked to.
-/

namespace Jtag.BitBang

inductive Command where
  /-- Set the levels of TCK, TMS and TDI. -/
  | write (tck tms tdi : Bool)
  /-- Assert or release the two reset lines. -/
  | reset (trst srst : Bool)
  /-- Ask for a sample of TDO. -/
  | read
  /-- The last command. -/
  | quit
deriving DecidableEq, Repr

namespace Command

def char : Command → Char
  | write false false false => '0'
  | write false false true => '1'
  | write false true false => '2'
  | write false true true => '3'
  | write true false false => '4'
  | write true false true => '5'
  | write true true false => '6'
  | write true true true => '7'
  | reset false false => 'r'
  | reset false true => 's'
  | reset true false => 't'
  | reset true true => 'u'
  | read => 'R'
  | quit => 'Q'

def byte (c : Command) : UInt8 := UInt8.ofNat c.char.toNat

/-- One cycle of TCK; the target samples TMS and TDI when it rises. -/
def pulse (tms tdi : Bool) : List Command := [write false tms tdi, write true tms tdi]

/-- One cycle of TCK with TMS low and a sample of TDO before it rises. -/
def sampledPulse (tdi : Bool) : List Command := [write false false tdi, read, write true false tdi]

end Command

/-- A connection with the commands that were not sent yet. -/
structure Adapter (σ : Type) where
  socket : σ
  /-- Commands to send, first one first. -/
  packet : List UInt8
deriving Repr

namespace Adapter

variable {σ α : Type}

def new (socket : σ) : Adapter σ := ⟨socket, []⟩

/-- A call on the connection alone. -/
def onSocket (act : Action σ IoError α) : Action (Adapter σ) IoError α :=
  Action.within (·.socket) (fun a socket => { a with socket }) act

theorem runOn_onSocket {act : Action σ IoError α} {answer : Except IoError α} {a : Adapter σ} {socket : σ}
    (h : act.runOn a.socket = (answer, socket)) : (onSocket act).runOn a = (answer, { a with socket }) := by
  rw [onSocket, Action.runOn_within, h]

def put (commands : List Command) : Action (Adapter σ) IoError Unit :=
  Action.change fun a => { a with packet := a.packet ++ commands.map Command.byte }

/-- The sample that a byte answers. -/
def sample? (byte : UInt8) : Except IoError Bool :=
  if byte = '0'.toUInt8 then .ok false
  else if byte = '1'.toUInt8 then .ok true
  else .error (.invalidData byte)

variable [Socket σ]

/-- Send everything collected. The packet is kept until all of it was taken. -/
def flush : Action (Adapter σ) IoError Unit := do
  let a ← get
  unless a.packet.isEmpty do
    onSocket (Socket.sendAll a.packet)
    Action.change fun a => { a with packet := [] }

/-- Send everything collected, then receive as many samples. -/
def readSamples (count : Nat) : Action (Adapter σ) IoError (List Bool) := do
  flush
  let bytes ← onSocket (Socket.receive count)
  Action.ofExcept (bytes.mapM sample?)

/-- Tell the other side that this was all. -/
def quit : Action (Adapter σ) IoError Unit := do
  put [.quit]
  flush

/-! ### What a flush does -/

theorem flush_of_nil {a : Adapter σ} (h : a.packet = []) : flush.runOn a = (.ok (), a) := by
  rw [flush, Action.runOn_bind_ok (Action.runOn_get a), if_pos (List.isEmpty_iff.2 h)]
  rfl

theorem flush_ok {a : Adapter σ} {socket : σ} (h : a.packet ≠ [])
    (hsend : (Socket.sendAll a.packet).runOn a.socket = (.ok (), socket)) :
    flush.runOn a = (.ok (), ⟨socket, []⟩) := by
  rw [flush, Action.runOn_bind_ok (Action.runOn_get a), if_neg (mt List.isEmpty_iff.1 h),
    Action.runOn_bind_ok (runOn_onSocket hsend)]
  rfl

theorem flush_error {a : Adapter σ} {socket : σ} {e : IoError} (h : a.packet ≠ [])
    (hsend : (Socket.sendAll a.packet).runOn a.socket = (.error e, socket)) :
    flush.runOn a = (.error e, { a with socket }) := by
  rw [flush, Action.runOn_bind_ok (Action.runOn_get a), if_neg (mt List.isEmpty_iff.1 h),
    Action.runOn_bind_error (runOn_onSocket hsend)]

end Adapter
end Jtag.BitBang
