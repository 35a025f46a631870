import LwipExt.Bytes

/-!
The send side of a `tcp_pcb` as the HTTP server sees it: free send buffer, segment
size, and what `tcp_write` answers. `core/tcp_out.c` decides the answer from the
connection state, the send buffer, the queue length and the memory pools; the first
three are modelled, and the pools enter as the list of outcomes of the coming calls.
-/

namespace LwipExt

/-- `err_t` values that the modelled functions return or test. -/
inductive TcpErr where
  | ok
  | mem
  | conn
  | arg
  | val
  | inProgress
  | use
  | clsd
  | abrt
  deriving DecidableEq, Repr

/-- What the stack does with one `tcp_write`: it takes the bytes, it is short of
memory (and the segment queue is full or not), or the connection is gone. -/
inductive WriteOutcome where
  | accept
  | noMem (queueFull : Bool)
  | noConn
  deriving DecidableEq, Repr

/-- Send side of a pcb. `outcomes` are the outcomes of the coming calls of
`tcp_write`; when they run out, calls are accepted. -/
structure Tcp where
  sndBuf : Nat
  mss : Nat
  outcomes : List WriteOutcome
  deriving DecidableEq, Repr

/-- `tcp_write` of `len` bytes: all of them are taken, or none. -/
def tcpWrite (sndBuf len : Nat) : WriteOutcome → TcpErr
  | .noConn => .conn
  | .noMem _ => if len = 0 then .ok else .mem
  | .accept => if len = 0 then .ok else if sndBuf < len then .mem else .ok

/-- `tcp_sndqueuelen(pcb) >= TCP_SND_QUEUELEN` after that call. -/
def WriteOutcome.queueFull : WriteOutcome → Bool
  | .noMem full => full
  | _ => false

/-- The pcb takes whatever it is given: no outcome is a refusal and the send buffer
has room for `n` bytes. -/
def Tcp.roomy (n mss : Nat) : Tcp := ⟨n, mss, []⟩

end LwipExt
