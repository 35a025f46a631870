import LwipExt.Lib.Run
import LwipExt.Tftp.Timeouts

/-!
Read requests.

`_extTftpRead` fails on every call, so a read request is answered with an error, or not at all
while there is no memory. No DATA packet is ever sent (`dataless_run`), and no file is ever read
through the server (`not_readDelivers`).
-/

namespace LwipExt.Tftp

open Http (Pbuf totLen)

/-! ### What a client receives -/

/-- A datagram for a client that is a DATA packet: its number and its payload. -/
def dataTo (addr : UInt32) (port : UInt16) (d : Sent) : Option (UInt16 × Bytes) :=
  if d.addr = addr ∧ d.port = port ∧ Opcode.data.code <+: d.payload then
    some (blknumOf [d.payload], d.payload.drop tftpHeaderLength)
  else none

/-- The DATA packets carry a file: its blocks, numbered from 1, each of them once or more often in
a row. -/
def Carries (file : Bytes) (packets : List (UInt16 × Bytes)) : Prop :=
  ∃ (blocks : List Bytes) (copies : Nat → Nat), IsFile blocks ∧ blocks.flatten = file ∧
    (∀ i, 0 < copies i) ∧
    packets = (blocks.zipIdx.map fun block =>
      List.replicate (copies block.2) (UInt16.ofNat (block.2 + 1), block.1)).flatten

/-- A packet of the client is an ACK of a block. -/
def Acknowledges (addr : UInt32) (port : UInt16) (n : UInt16) : TftpEvent → Prop
  | .recv p addr' port' => addr' = addr ∧ port' = port ∧ opcodeOf p = Opcode.ack.code ∧
      blknumOf p = n
  | .tick => False

/-- What is sent while events are handled. -/
def sentIn (board : Board) (s : TftpState) (es : List TftpEvent) : List Sent :=
  (Lib.run (TftpState.step board) s es).sent.drop s.sent.length

/-- Every block that is sent is acknowledged later, however many packets are lost. -/
def AllAcknowledged (board : Board) (s : TftpState) (addr : UInt32) (port : UInt16)
    (es : List TftpEvent) : Prop :=
  ∀ before after, es = before ++ after →
    ∀ packet ∈ (sentIn board s before).filterMap (dataTo addr port),
      ∃ e ∈ after, Acknowledges addr port packet.1 e

/-- A read request is served: if the client acknowledges every block, it receives the file. -/
def ReadDelivers (board : Board) (s : TftpState) (request : Pbuf) (addr : UInt32) (port : UInt16)
    (file : Bytes) (es : List TftpEvent) : Prop :=
  let es := .recv request addr port :: es
  AllAcknowledged board s addr port es →
    Carries file ((sentIn board s es).filterMap (dataTo addr port))

/-! ### No DATA packet is sent -/

/-- No DATA packet was sent or is kept to be sent again. -/
structure Dataless (s : TftpState) : Prop where
  lastData : s.lastData = none
  sent : ∀ d ∈ s.sent, ¬ Opcode.data.code <+: d.payload

section Steps

variable {s : TftpState} {board : Board} {addr : UInt32} {port : UInt16}

theorem Dataless.send (dataless : Dataless s) {payload : Bytes}
    (other : ¬ Opcode.data.code <+: payload) : Dataless (s.send addr port payload) := by
  rw [send_eq]
  refine ⟨dataless.lastData, ?_⟩
  dsimp only
  split_ifs
  · exact List.forall_mem_append.mpr ⟨dataless.sent, List.forall_mem_singleton.mpr other⟩
  · exact dataless.sent

theorem other_than_data {code rest : Bytes} (other : code ≠ Opcode.data.code)
    (two : code.length = 2) : ¬ Opcode.data.code <+: code ++ rest := by
  intro isData
  exact other (List.IsPrefix.eq_of_length
    (List.prefix_of_prefix_length_le isData (List.prefix_append code rest) (by rw [two]; rfl))
    two.symm).symm

theorem Dataless.error (dataless : Dataless s) (code : TftpError) (text : Bytes) :
    Dataless (tftpSendError s addr port code text) := by
  unfold tftpSendError
  rw [List.append_assoc, List.append_assoc]
  exact dataless.send (other_than_data (by decide) rfl)

theorem robust_dataless : Robust Dataless where
  frame := fun dataless _ _ lastData sent =>
    ⟨lastData.trans dataless.lastData, sent ▸ dataless.sent⟩
  error := fun _ _ code text dataless => dataless.error code text
  ack := fun _ dataless => dataless.send (other_than_data (by decide) rfl)
  close := by
    intro s dataless
    unfold tftpCloseHandle
    dsimp only
    split_ifs
    · exact ⟨rfl, dataless.sent⟩
    · exact ⟨rfl, dataless.sent⟩

/-- There is nothing that could be sent again. -/
theorem dataless_tick (dataless : Dataless s) : Dataless (tftpTick s) := by
  unfold tftpTick
  split_ifs
  · exact dataless
  have nothing : ¬ s.lastData.isSome = true := by
    rw [dataless.lastData]
    exact nofun
  simp only [tftpTmr]
  split_ifs with running late retry
  · exact absurd retry.1 nothing
  · exact robust_dataless.close ⟨dataless.lastData, dataless.sent⟩
  · exact ⟨dataless.lastData, dataless.sent⟩
  · exact ⟨dataless.lastData, dataless.sent⟩

theorem dataless_request {p : Pbuf} (dataless : Dataless s) (isWrite : Bool) :
    Dataless (recvRequest board s p addr port isWrite) := by
  have started : Dataless { s with timeouts := s.timeouts + 1 } :=
    ⟨dataless.lastData, dataless.sent⟩
  unfold recvRequest
  dsimp only
  split_ifs
  · exact dataless.error _ _
  · exact started.error _ _
  · exact started.error _ _
  · exact started.error _ _
  · exact robust_dataless.ack _ ⟨dataless.lastData, dataless.sent⟩
  · exact robust_dataless.sendData ⟨dataless.lastData, dataless.sent⟩ ⟨rfl, dataless.sent⟩

theorem dataless_step {e : TftpEvent} (dataless : Dataless s) :
    Dataless (TftpState.step board s e) := by
  cases e with
  | tick => exact dataless_tick dataless
  | recv p addr port =>
      refine robust_dataless.recv dataless (fun isWrite _ _ heard => ?_)
        fun s' _ _ sent none_ => ⟨none_, sent ▸ dataless.sent⟩
      exact dataless_request heard isWrite

end Steps

/-! ### Runs -/

theorem dataless_init (firmware : Firmware) (pbufAllocs : List Bool) :
    Dataless (tftpInit firmware pbufAllocs) := ⟨rfl, nofun⟩

/-- No DATA packet is sent in a run. -/
theorem dataless_run {s : TftpState} (dataless : Dataless s) (board : Board)
    (es : List TftpEvent) : Dataless (Lib.run (TftpState.step board) s es) :=
  Lib.run_invariant_of_step Dataless (fun _ _ => dataless_step) dataless es

theorem sentIn_dataless {s : TftpState} (dataless : Dataless s) (board : Board) (addr : UInt32)
    (port : UInt16) (es : List TftpEvent) :
    (sentIn board s es).filterMap (dataTo addr port) = [] := by
  rw [List.filterMap_eq_nil_iff]
  intro d mem
  have other := (dataless_run dataless board es).sent d (List.mem_of_mem_drop mem)
  exact if_neg fun isData => other isData.2.2

/-- Packets that carry a file are at least one, even for an empty file. -/
theorem Carries.ne_nil {file : Bytes} {packets : List (UInt16 × Bytes)}
    (carries : Carries file packets) : packets ≠ [] := by
  obtain ⟨blocks, copies, ⟨full, last, rfl, -, -⟩, -, positive, rfl⟩ := carries
  intro none_
  rw [List.flatten_eq_nil_iff] at none_
  have mem : (last, full.length) ∈ (full ++ [last]).zipIdx := by
    rw [List.mem_zipIdx_iff_getElem?]
    simp
  have empty := none_ _ (List.mem_map_of_mem mem)
  exact absurd ((List.replicate_eq_nil_iff _).mp empty) (positive _).ne'

/-- **No file is read through the server.** In no state that the server reaches is a read request
served, whatever the file and whatever happens afterwards. -/
theorem not_readDelivers (board : Board) (firmware : Firmware) (pbufAllocs : List Bool)
    (before : List TftpEvent) (request : Pbuf) (addr : UInt32) (port : UInt16) (file : Bytes)
    (es : List TftpEvent) :
    ¬ ReadDelivers board (Lib.run (TftpState.step board) (tftpInit firmware pbufAllocs) before)
      request addr port file es := by
  have dataless := dataless_run (dataless_init firmware pbufAllocs) board before
  intro delivers
  have none_ := sentIn_dataless dataless board addr port
  refine (delivers ?_).ne_nil (none_ _)
  intro sent after _ packet mem
  rw [none_ sent] at mem
  exact absurd mem List.not_mem_nil

/-- A read request for the operating system. -/
def readRequest : Pbuf := [Opcode.rrq.code ++ imageOsName ++ [0] ++ str "octet" ++ [0]]

/-- The server is asked for a file of three bytes. -/
theorem readRequest_not_served :
    ¬ ∀ (board : Board) (request : Pbuf) (addr : UInt32) (port : UInt16) (file : Bytes)
      (es : List TftpEvent), opcodeOf request = Opcode.rrq.code →
      ReadDelivers board (tftpInit {} []) request addr port file es := by
  intro all
  have delivers := all .extt readRequest 1 1 [1, 2, 3] [] (by decide)
  have none_ := sentIn_dataless (dataless_init {} []) .extt 1 1
  refine (delivers ?_).ne_nil (none_ _)
  intro sent after _ packet mem
  rw [none_ sent] at mem
  exact absurd mem List.not_mem_nil

end LwipExt.Tftp
