import LwipExt.Http.Conn

/-!
`extHttpWrite` of `exts/http/extHttpConns.c`: offer bytes to `tcp_write`, halving the
offer while the stack is short of memory.

`Tcp.offer` is the part that depends on TCP alone; `extHttpWrite` adds the bytes. The
spec lemmas say what an offer can do: nothing is taken with an error
(`offer_of_err`), and what is taken is at most what was offered
(`offer_taken_le`). `extHttpWrite_accepted` turns this into the statement the
senders use: the accepted bytes grow by a prefix of the data.
-/

namespace LwipExt

/-- The do-while loop of `extHttpWrite` around `tcp_write`. -/
def writeLoop (sndBuf : Nat) : Nat → List WriteOutcome → TcpErr × Nat × List WriteOutcome
  | len, [] => (tcpWrite sndBuf len .accept, len, [])
  | len, outcome :: outcomes =>
      match tcpWrite sndBuf len outcome with
      | .mem =>
          -- no need to try smaller sizes when the buffer or the queue is full
          let len := if sndBuf = 0 ∨ outcome.queueFull then 1 else len / 2
          if 1 < len then writeLoop sndBuf len outcomes else (.mem, len, outcomes)
      | err => (err, len, outcomes)

/-- The length `extHttpWrite` starts with: no more than the free send buffer and
`MHTTPD_MAX_WRITE_LEN`. -/
def Tcp.clamp (tcp : Tcp) (length : Nat) : Nat :=
  min (min length tcp.sndBuf) (u16 (2 * tcp.mss))

/-- `extHttpWrite` without the data: the error it returns, the number of bytes TCP
took, and the send side afterwards. -/
def Tcp.offer (tcp : Tcp) (length : Nat) : TcpErr × Nat × Tcp :=
  if length = 0 then (.ok, 0, tcp)
  else
    let (err, len, outcomes) := writeLoop tcp.sndBuf (tcp.clamp length) tcp.outcomes
    let taken := if err = .ok then len else 0
    (err, taken, { tcp with sndBuf := tcp.sndBuf - taken, outcomes })

/-- How many bytes TCP takes of an offer. -/
def Tcp.taken (tcp : Tcp) (length : Nat) : Nat := (tcp.offer length).2.1

section Offer

/-- The loop only ever shrinks the offer. -/
theorem writeLoop_le (sndBuf : Nat) (len : Nat) (outcomes : List WriteOutcome)
    (ok : (writeLoop sndBuf len outcomes).1 = .ok) :
    (writeLoop sndBuf len outcomes).2.1 ≤ len := by
  induction outcomes generalizing len with
  | nil => simp [writeLoop]
  | cons outcome outcomes ih =>
      simp only [writeLoop] at ok ⊢
      split at ok
      · split_ifs at ok ⊢ with full more more
        · omega
        · have := ih (len / 2) ok
          omega
      · simp

@[simp] theorem offer_zero (tcp : Tcp) : tcp.offer 0 = (.ok, 0, tcp) := rfl

@[simp] theorem taken_zero (tcp : Tcp) : tcp.taken 0 = 0 := rfl

/-- TCP takes no more than it is offered, whatever its answers. -/
theorem taken_le (tcp : Tcp) (length : Nat) : tcp.taken length ≤ length := by
  have bound := writeLoop_le tcp.sndBuf (tcp.clamp length) tcp.outcomes
  have clamped : tcp.clamp length ≤ length := by
    unfold Tcp.clamp
    omega
  simp only [Tcp.taken, Tcp.offer]
  split_ifs with empty ok
  · simp
  · exact (bound ok).trans clamped
  · simp

/-- With an error nothing was taken. -/
theorem taken_of_err {tcp : Tcp} {length : Nat} (err : (tcp.offer length).1 ≠ .ok) :
    tcp.taken length = 0 := by
  simp only [Tcp.taken, Tcp.offer] at err ⊢
  split_ifs at err ⊢ <;> simp_all

end Offer

namespace Http

/-- `extHttpWrite`: the error it returns and the length it reports. -/
def extHttpWrite (ss : Session) (ptr : Bytes) (length : Nat) : Session × TcpErr × Nat :=
  let (err, len, tcp) := ss.io.tcp.offer length
  ({ ss with io := { ss.io with tcp, accepted := ss.io.accepted ++ ptr.take len } }, err, len)

section Write

variable (ss : Session) (ptr : Bytes) (length : Nat)

@[simp] theorem extHttpWrite_mhc : (extHttpWrite ss ptr length).1.mhc = ss.mhc := rfl

@[simp] theorem extHttpWrite_err :
    (extHttpWrite ss ptr length).2.1 = (ss.io.tcp.offer length).1 := rfl

@[simp] theorem extHttpWrite_len :
    (extHttpWrite ss ptr length).2.2 = ss.io.tcp.taken length := rfl

@[simp] theorem extHttpWrite_tcp :
    (extHttpWrite ss ptr length).1.io.tcp = (ss.io.tcp.offer length).2.2 := rfl

@[simp] theorem extHttpWrite_accepted :
    (extHttpWrite ss ptr length).1.io.accepted =
      ss.io.accepted ++ ptr.take (ss.io.tcp.taken length) := rfl

@[simp] theorem extHttpWrite_firmware :
    (extHttpWrite ss ptr length).1.io.firmware = ss.io.firmware := rfl

@[simp] theorem extHttpWrite_dataFaults :
    (extHttpWrite ss ptr length).1.io.dataFaults = ss.io.dataFaults := rfl

end Write

end Http

end LwipExt
