import LwipExt.Lib.Run
import LwipExt.Tftp.Transfer

/-!
The pending timeouts of `_tftpTmr`.

A request starts the timeout before it is looked at, and a refused one leaves it behind. So a
second timeout is started exactly by a request that comes while no transfer is open and the
timeout of an earlier one is still pending (`onePending_iff`).
-/

namespace LwipExt.Tftp

open Http (Pbuf totLen)

/-- `_tftpTmr` is pending once at most, and once while a transfer is open. -/
structure OneTimeout (s : TftpState) : Prop where
  once : s.timeouts ≤ 1
  running : s.handle = true → s.timeouts = 1

/-- A request for which `_tftpRecv` starts the timeout. -/
def Starts (s : TftpState) : TftpEvent → Prop
  | .recv p addr port => ¬ otherPeer s addr port ∧
      (opcodeOf p = Opcode.rrq.code ∨ opcodeOf p = Opcode.wrq.code) ∧ s.handle = false
  | .tick => False

instance (s : TftpState) (e : TftpEvent) : Decidable (Starts s e) :=
  match e with
  | .recv _ _ _ => inferInstanceAs (Decidable (_ ∧ _))
  | .tick => inferInstanceAs (Decidable False)

/-- The most timeouts that are pending until an event has been handled. The timeout that has
expired is no longer pending when `_tftpTmr` starts it again. -/
def mostPending (s : TftpState) (e : TftpEvent) : Nat :=
  if Starts s e then s.timeouts + 1 else s.timeouts

/-- At any time of a run one timeout is pending at most, and one is while a transfer is open. -/
def OnePending (board : Board) : TftpState → List TftpEvent → Prop :=
  Lib.Along (TftpState.step board) fun s e =>
    mostPending s e ≤ 1 ∧ OneTimeout (TftpState.step board s e)

/-- No request comes between a refused one and the expiry of its timeout. -/
def RequestsApart (board : Board) : TftpState → List TftpEvent → Prop :=
  Lib.Along (TftpState.step board) fun s e => Starts s e → s.timeouts = 0

/-! ### Invariants of the handlers -/

/-- What messages, the end of a transfer and the bookkeeping of the server preserve. -/
structure Robust (Inv : TftpState → Prop) : Prop where
  frame : ∀ {s s' : TftpState}, Inv s → s'.handle = s.handle → s'.timeouts = s.timeouts →
    s'.lastData = s.lastData → s'.sent = s.sent → Inv s'
  error : ∀ {s : TftpState} (addr : UInt32) (port : UInt16) (code : TftpError) (text : Bytes),
    Inv s → Inv (tftpSendError s addr port code text)
  ack : ∀ {s : TftpState} (blknum : UInt16), Inv s → Inv (tftpSendAck s blknum)
  close : ∀ {s : TftpState}, Inv s → Inv (tftpCloseHandle s)

namespace Robust

variable {Inv : TftpState → Prop} {s : TftpState} {addr : UInt32} {port : UInt16} {p : Pbuf}

/-- The file cannot be read. -/
theorem sendData (robust : Robust Inv) (inv : Inv s)
    (noPbuf : Inv { s with pbufAllocs := s.pbufAllocs.tail, lastData := none }) :
    Inv (tftpSendData s) := by
  simp only [tftpSendData]
  split_ifs
  · exact robust.close (robust.error _ _ _ _ (robust.frame inv rfl rfl rfl rfl))
  · exact noPbuf

theorem recvData (robust : Robust Inv) (inv : Inv s) : Inv (recvData s p addr port) := by
  unfold Tftp.recvData
  by_cases opened : s.handle = true
  · by_cases writing : s.modeWrite = true
    · rw [if_neg (not_not.mpr opened), if_neg (not_not.mpr writing)]
      dsimp only
      generalize extTftpWrite s.firmware (dataPayload p) = result
      obtain ⟨firmware, ok⟩ := result
      have stored : Inv { s with firmware := firmware } := robust.frame inv rfl rfl rfl rfl
      dsimp only
      have answered : Inv
          (if ¬ ok = true then
            tftpCloseHandle (tftpSendError { s with firmware := firmware } addr port
              .accessViolation (str "error writing file"))
          else tftpSendAck { s with firmware := firmware } (blknumOf p)) := by
        split_ifs
        · exact robust.ack _ stored
        · exact robust.close (robust.error _ _ _ _ stored)
      by_cases short : totLen (dataPayload p) < tftpMaxPayloadSize
      · rw [if_pos short]
        exact robust.close answered
      · rw [if_neg short]
        exact answered
    · rw [if_neg (not_not.mpr opened), if_pos writing]
      exact robust.error _ _ _ _ inv
  · rw [if_pos opened]
    exact robust.error _ _ _ _ inv

theorem recvAck (robust : Robust Inv) (inv : Inv s)
    (noPbuf : ∀ s', s'.handle = s.handle → s'.timeouts = s.timeouts → s'.sent = s.sent →
      s'.lastData = none → Inv s') : Inv (recvAck s p addr port) := by
  unfold Tftp.recvAck
  split_ifs
  · exact robust.error _ _ _ _ inv
  · exact robust.error _ _ _ _ inv
  · exact robust.close inv
  · exact robust.sendData (robust.frame inv rfl rfl rfl rfl) (noPbuf _ rfl rfl rfl rfl)
  · exact robust.error _ _ _ _ inv

/-- A packet, when a request is served as it should be. -/
theorem recv (robust : Robust Inv) {board : Board} (inv : Inv s)
    (request : ∀ isWrite, ¬ otherPeer s addr port →
      (opcodeOf p = Opcode.rrq.code ∨ opcodeOf p = Opcode.wrq.code) →
      Inv { s with lastPkt := s.timer, retries := 0 } →
      Inv (recvRequest board { s with lastPkt := s.timer, retries := 0 } p addr port isWrite))
    (noPbuf : ∀ s', s'.handle = s.handle → s'.timeouts = s.timeouts → s'.sent = s.sent →
      s'.lastData = none → Inv s') : Inv (tftpRecv board s p addr port) := by
  have heard : Inv { s with lastPkt := s.timer, retries := 0 } := robust.frame inv rfl rfl rfl rfl
  unfold tftpRecv
  split_ifs with other rrq wrq
  · exact robust.error _ _ _ _ inv
  · exact request false other (.inl rrq) heard
  · exact request true other (.inr wrq) heard
  · exact robust.recvData heard
  · exact robust.recvAck heard noPbuf
  · exact robust.error _ _ _ _ heard

end Robust

/-! ### What the functions do to the timeouts -/

section Steps

variable {s s' : TftpState} {board : Board} {addr : UInt32} {port : UInt16}

theorem OneTimeout.same (one : OneTimeout s) (handle : s'.handle = s.handle)
    (timeouts : s'.timeouts = s.timeouts) : OneTimeout s' := by
  constructor
  · rw [timeouts]
    exact one.once
  · rw [timeouts, handle]
    exact one.running

theorem OneTimeout.send (one : OneTimeout s) (addr : UInt32) (port : UInt16) (payload : Bytes) :
    OneTimeout (s.send addr port payload) := by
  rw [send_eq]
  exact one.same rfl rfl

theorem tftpCloseHandle_timeouts (s : TftpState) :
    (tftpCloseHandle s).timeouts = s.timeouts - 1 := by
  unfold tftpCloseHandle
  simp only
  split_ifs <;> rfl

/-- The timeout of a transfer that is closed is cancelled. -/
theorem OneTimeout.close (one : OneTimeout s) : OneTimeout (tftpCloseHandle s) := by
  constructor
  · rw [tftpCloseHandle_timeouts]
    exact (Nat.sub_le _ _).trans one.once
  · rw [tftpCloseHandle_handle]
    exact nofun

theorem robust_oneTimeout : Robust OneTimeout where
  frame := fun one handle timeouts _ _ => one.same handle timeouts
  error := fun _ _ _ _ one => one.send _ _ _
  ack := fun _ one => one.send _ _ _
  close := OneTimeout.close

theorem oneTimeout_tick (one : OneTimeout s) : OneTimeout (tftpTick s) := by
  unfold tftpTick
  split_ifs with none_
  · exact one
  -- the timeout that expires is the only one, and it is started again while a transfer is open
  have last : s.timeouts = 1 := by
    have once := one.once
    omega
  simp only [tftpTmr, last]
  split_ifs with running late retry
  · have again : OneTimeout { s with timer := s.timer + 1, timeouts := 1 } :=
      ⟨Nat.le_refl 1, fun _ => rfl⟩
    exact (again.send _ _ _).same rfl rfl
  · exact OneTimeout.close ⟨Nat.le_refl 1, fun _ => rfl⟩
  · exact ⟨Nat.le_refl 1, fun _ => rfl⟩
  · exact ⟨Nat.zero_le _, fun opened => absurd opened running⟩

/-- A request that is let in while no timeout is pending starts one. It is left behind if the
request is refused, and cancelled if the file cannot be read. -/
theorem oneTimeout_request {p : Pbuf} (isWrite : Bool) (one : OneTimeout s)
    (apart : s.handle = false → s.timeouts = 0) :
    OneTimeout (recvRequest board s p addr port isWrite) := by
  unfold recvRequest
  by_cases busy : s.handle = true
  · rw [if_pos busy]
    exact one.send _ _ _
  have idle : s.handle = false := Bool.eq_false_iff.mpr busy
  have started : OneTimeout { s with timeouts := s.timeouts + 1 } := by
    constructor
    · exact (apart idle).symm ▸ Nat.le_refl 1
    · exact fun running => absurd running busy
  rw [if_neg busy]
  dsimp only
  split_ifs
  · exact started.send _ _ _
  · exact started.send _ _ _
  · exact started.send _ _ _
  · refine OneTimeout.send ?_ _ _ _
    exact ⟨started.once, fun _ => congrArg (· + 1) (apart idle)⟩
  · exact robust_oneTimeout.sendData ⟨started.once, fun _ => congrArg (· + 1) (apart idle)⟩
      ⟨started.once, fun _ => congrArg (· + 1) (apart idle)⟩

/-- An event leaves one timeout, unless it is a request that comes too early. -/
theorem oneTimeout_step {e : TftpEvent} (one : OneTimeout s)
    (apart : Starts s e → s.timeouts = 0) : OneTimeout (TftpState.step board s e) := by
  cases e with
  | tick => exact oneTimeout_tick one
  | recv p addr port =>
      refine robust_oneTimeout.recv one (fun isWrite own request heard => ?_)
        fun s' handle timeouts _ _ => one.same handle timeouts
      exact oneTimeout_request isWrite heard fun idle => apart ⟨own, request, idle⟩

end Steps

/-! ### Runs -/

/-- `tftp_init`, over a firmware store and memory. -/
def tftpInit (firmware : Firmware) (pbufAllocs : List Bool) : TftpState :=
  { firmware := firmware, pbufAllocs := pbufAllocs }

theorem oneTimeout_init (firmware : Firmware) (pbufAllocs : List Bool) :
    OneTimeout (tftpInit firmware pbufAllocs) := ⟨Nat.zero_le 1, nofun⟩

/-- The most timeouts are pending when a request starts one. -/
theorem mostPending_le_one_iff {s : TftpState} {e : TftpEvent} (one : OneTimeout s) :
    mostPending s e ≤ 1 ↔ (Starts s e → s.timeouts = 0) := by
  have once := one.once
  unfold mostPending
  split_ifs with starts
  · constructor
    · exact fun le _ => by omega
    · exact fun none_ => (none_ starts).symm ▸ Nat.le_refl 1
  · exact iff_of_true once fun starts' => absurd starts' starts

/-- **One timeout.** In a run from `tftp_init`, one timeout of `_tftpTmr` is pending at most at
any time and one is while a transfer is open, exactly if every request that comes while no
transfer is open finds no timeout pending. -/
theorem onePending_iff (board : Board) (firmware : Firmware) (pbufAllocs : List Bool)
    (es : List TftpEvent) :
    OnePending board (tftpInit firmware pbufAllocs) es ↔
      RequestsApart board (tftpInit firmware pbufAllocs) es := by
  refine Lib.along_iff_of_inv OneTimeout (fun s e one => ?_) (fun s e _ next => next.2)
    (oneTimeout_init firmware pbufAllocs) es
  rw [mostPending_le_one_iff one]
  exact and_iff_left_of_imp (oneTimeout_step one)

/-- A request whose file name has no end, and a write request. -/
def refusedThenAccepted : List TftpEvent :=
  [.recv [Opcode.rrq.code ++ List.replicate 30 65] 1 1, .recv writeRequest 1 1]

/-- Two timeouts are pending while the second request is served. -/
theorem not_onePending :
    ¬ ∀ (board : Board) (firmware : Firmware) (pbufAllocs : List Bool) (es : List TftpEvent),
      OnePending board (tftpInit firmware pbufAllocs) es := by
  intro all
  have pending := (all .extt {} [] refusedThenAccepted).2.1.2.running
  exact absurd (pending (by decide +kernel)) (by decide +kernel)

end LwipExt.Tftp
