import LwipExt.Lib.Run
import LwipExt.Lib.Words
import LwipExt.Tftp.Server

/-!
A write transfer: the blocks of a file, the network, and what is written.

The network may lose, repeat and reorder the DATA packets of the client, other peers may
send what they like, and the flash may refuse a write. The server writes the payloads in
the order they come in (`opened_run`). So what is written is the file exactly if they
happen to come in as the blocks of the file do, and no other peer can get in between
(`delivers_iff`).
-/

namespace LwipExt.Tftp

open Http (Pbuf totLen)

/-! ### Files and packets -/

/-- The blocks of a file: all but the last are full. -/
def IsFile (blocks : List Bytes) : Prop :=
  ∃ full last, blocks = full ++ [last] ∧ (∀ b ∈ full, b.length = tftpMaxPayloadSize) ∧
    last.length < tftpMaxPayloadSize

/-- A chain is the DATA packet with a number and a payload; its header is in one pbuf. -/
def IsData (n : UInt16) (payload : Bytes) (p : Pbuf) : Prop :=
  tftpHeaderLength ≤ (p.headD []).length ∧
    p.flatten = Opcode.data.code ++ blockBytes n ++ payload

/-- The packets are DATA packets of the file, in whatever order. -/
def Schedule (blocks : List Bytes) (arrivals : List Pbuf) : Prop :=
  ∀ p ∈ arrivals, ∃ i payload, blocks[i]? = some payload ∧ IsData (UInt16.ofNat (i + 1)) payload p

/-- What a DATA packet carries. -/
def payloadOf (p : Pbuf) : Bytes := (dataPayload p).flatten

/-- A packet of the client. -/
def packetOf (addr : UInt32) (port : UInt16) : TftpEvent → Option Pbuf
  | .recv p addr' port' => if addr' = addr ∧ port' = port then some p else none
  | .tick => none

/-- What was written since the store was opened. -/
def written (ops : List FlashOp) : Bytes :=
  ops.foldl
    (fun bytes op =>
      match op with
      | .init _ => []
      | .write data => bytes ++ data
      | .flush | .cfgSave => bytes) []

/-- The event is a short DATA packet that is written: the transfer is complete. -/
def Completes (s : TftpState) : TftpEvent → Prop
  | .recv p addr port => ¬ otherPeer s addr port ∧ opcodeOf p = Opcode.data.code ∧
      s.handle = true ∧ s.modeWrite = true ∧ (extTftpWrite s.firmware (dataPayload p)).2 = true ∧
      totLen (dataPayload p) < tftpMaxPayloadSize
  | .tick => False

/-- The handle is open before each event. -/
def StaysOpen (board : Board) : TftpState → List TftpEvent → Prop :=
  Lib.Along (TftpState.step board) fun s _ => s.handle = true

/-- Whatever other peers send in between, whatever the timers and the flash do: when the
transfer of a client is complete, the blocks have been written. `arrivals` are the packets
of the client in the order they come in. -/
def Delivers (board : Board) (s : TftpState) (addr : UInt32) (port : UInt16)
    (blocks : List Bytes) (arrivals : List Pbuf) : Prop :=
  ∀ flashOk es e, (es ++ [e]).filterMap (packetOf addr port) <+: arrivals →
    let s := { s with firmware := { s.firmware with flashOk := flashOk } }
    StaysOpen board s (es ++ [e]) → Completes (Lib.run (TftpState.step board) s es) e →
    written (Lib.run (TftpState.step board) s (es ++ [e])).firmware.ops = blocks.flatten

/-- The first short packet. -/
def FirstShort (arrivals : List Pbuf) (n : Nat) : Prop :=
  (∃ p, arrivals[n]? = some p ∧ (payloadOf p).length < tftpMaxPayloadSize) ∧
    ∀ p ∈ arrivals.take n, tftpMaxPayloadSize ≤ (payloadOf p).length

/-! ### Writing -/

theorem written_append (ops ops' : List FlashOp) (noInit : ∀ t, .init t ∉ ops') :
    written (ops ++ ops') = written ops ++ written ops' := by
  unfold written
  rw [List.foldl_append]
  generalize ops.foldl _ [] = bytes
  induction ops' using List.reverseRecOn with
  | nil => simp
  | append_singleton ops' op ih =>
      have ih := ih fun t mem => noInit t (List.mem_append_left _ mem)
      rw [List.foldl_append, List.foldl_append, ih]
      cases op with
      | init t => exact absurd (List.mem_append_right _ (List.mem_singleton_self _)) (noInit t)
      | write data => simp
      | flush => rfl
      | cfgSave => rfl

theorem written_close (fw : Firmware) : written (extTftpClose fw).ops = written fw.ops := by
  unfold extTftpClose firmwareUpdateEnd
  simp only
  split
  · simp [written, List.foldl_append]
  · simp [written, List.foldl_append]

theorem written_open (fw : Firmware) (fname : Bytes) : written (extTftpOpen fw fname).ops = [] := by
  simp [extTftpOpen, firmwareUpdateInit, written, List.foldl_append]

theorem extTftpWrite_cons (fw : Firmware) (payload : Bytes) (p : Pbuf) :
    extTftpWrite fw (payload :: p) =
      if fw.flashOk.headD true then
        extTftpWrite { fw with
          size := fw.size + payload.length
          flashOk := fw.flashOk.tail
          ops := fw.ops ++ [.write payload] } p
      else ({ fw with flashOk := fw.flashOk.tail, ops := fw.ops ++ [.write payload] }, false) := by
  rw [extTftpWrite, bspSpiFlashWrite]
  cases fw.flashOk.headD true with
  | false => rfl
  | true => rfl

/-- A chain that is taken is written. -/
theorem extTftpWrite_written {fw : Firmware} {p : Pbuf} (ok : (extTftpWrite fw p).2 = true) :
    written (extTftpWrite fw p).1.ops = written fw.ops ++ p.flatten := by
  induction p generalizing fw with
  | nil => simp [extTftpWrite]
  | cons payload p ih =>
      rw [extTftpWrite_cons] at ok ⊢
      by_cases taken : fw.flashOk.headD true = true
      · rw [if_pos taken] at ok ⊢
        rw [ih ok]
        simp [written, List.foldl_append]
      · rw [if_neg taken] at ok
        cases ok

/-- With a flash that takes everything, a chain is taken. -/
theorem extTftpWrite_ok {fw : Firmware} {p : Pbuf} (flash : fw.flashOk = []) :
    (extTftpWrite fw p).2 = true ∧ (extTftpWrite fw p).1.flashOk = [] := by
  induction p generalizing fw with
  | nil => exact ⟨rfl, flash⟩
  | cons payload p ih =>
      rw [extTftpWrite_cons, flash]
      exact ih rfl

/-! ### One event of an open transfer -/

/-- A write transfer of a peer is open. -/
structure Opened (s : TftpState) (addr : UInt32) (port : UInt16) : Prop where
  handle : s.handle = true
  modeWrite : s.modeWrite = true
  addr_eq : s.addr = addr
  port_eq : s.port = port

theorem send_eq (s : TftpState) (addr : UInt32) (port : UInt16) (payload : Bytes) :
    s.send addr port payload =
      { s with
        pbufAllocs := s.pbufAllocs.tail
        sent := if s.pbufAllocs.headD true then s.sent ++ [⟨addr, port, payload⟩] else s.sent } := by
  unfold TftpState.send
  simp only
  split <;> rfl

theorem tftpCloseHandle_handle (s : TftpState) : (tftpCloseHandle s).handle = false := by
  unfold tftpCloseHandle
  simp only
  split
  · rfl
  · rename_i closed
    simpa using closed

@[simp]
theorem tftpSendError_handle (s : TftpState) (addr : UInt32) (port : UInt16) (code : TftpError)
    (text : Bytes) : (tftpSendError s addr port code text).handle = s.handle := by
  rw [tftpSendError, send_eq]

/-- A timeout leaves an open transfer alone or closes it. -/
theorem tftpTick_opened {s : TftpState} {addr : UInt32} {port : UInt16}
    (opened : Opened s addr port) (still : (tftpTick s).handle = true) :
    Opened (tftpTick s) addr port ∧ (tftpTick s).firmware = s.firmware := by
  obtain ⟨handle, modeWrite, addr_eq, port_eq⟩ := opened
  unfold tftpTick tftpTmr tftpResendData at *
  split at still
  · rename_i none_
    rw [if_pos none_]
    exact ⟨⟨handle, modeWrite, addr_eq, port_eq⟩, rfl⟩
  rename_i pending
  rw [if_neg pending]
  simp only [handle, not_true_eq_false, if_false, send_eq] at still ⊢
  split at still
  · split at still
    · rename_i late retry
      rw [if_pos late, if_pos retry]
      exact ⟨⟨rfl, modeWrite, addr_eq, port_eq⟩, rfl⟩
    · rw [tftpCloseHandle_handle] at still
      cases still
  · rename_i early
    rw [if_neg early]
    exact ⟨⟨rfl, modeWrite, addr_eq, port_eq⟩, rfl⟩

/-- What another peer sends changes nothing but what is sent. -/
theorem tftpRecv_other {board : Board} {s : TftpState} {p : Pbuf} {addr : UInt32} {port : UInt16}
    (other : otherPeer s addr port) :
    ∃ allocs sent, tftpRecv board s p addr port = { s with pbufAllocs := allocs, sent := sent } := by
  unfold tftpRecv tftpSendError
  rw [if_pos other, send_eq]
  exact ⟨_, _, rfl⟩

/-- A DATA packet that is let in while a write transfer is open. -/
theorem tftpRecv_data {board : Board} {s : TftpState} {p : Pbuf} {addr : UInt32} {port : UInt16}
    (letIn : ¬ otherPeer s addr port) (data : opcodeOf p = Opcode.data.code) :
    tftpRecv board s p addr port =
      recvData { s with lastPkt := s.timer, retries := 0 } p addr port := by
  unfold tftpRecv
  rw [if_neg letIn, data]
  rfl

/-- While a transfer stays open, a DATA packet is full and is written. -/
theorem recvData_opened {s : TftpState} {p : Pbuf} {addr addr' : UInt32} {port port' : UInt16}
    (opened : Opened s addr port) (still : (recvData s p addr' port').handle = true) :
    Opened (recvData s p addr' port') addr port ∧
      written (recvData s p addr' port').firmware.ops = written s.firmware.ops ++ payloadOf p ∧
      tftpMaxPayloadSize ≤ (payloadOf p).length := by
  obtain ⟨handle, modeWrite, addr_eq, port_eq⟩ := opened
  unfold recvData tftpSendAck at *
  simp only [handle, modeWrite, not_true_eq_false, if_false, send_eq] at still ⊢
  by_cases ok : (extTftpWrite s.firmware (dataPayload p)).2 = true
  · simp only [ok, not_true_eq_false, if_false] at still ⊢
    split at still
    · rw [tftpCloseHandle_handle] at still
      cases still
    · rename_i full
      rw [if_neg full]
      refine ⟨⟨rfl, rfl, addr_eq, port_eq⟩, extTftpWrite_written ok, ?_⟩
      unfold totLen at full
      exact Nat.le_of_not_lt full
  · simp only [ok, Bool.false_eq_true, not_false_eq_true, if_true] at still
    split at still
    · rw [tftpCloseHandle_handle] at still
      cases still
    · rw [tftpCloseHandle_handle] at still
      cases still

/-- A short DATA packet that is written completes the transfer. -/
theorem recvData_short {s : TftpState} {p : Pbuf} {addr : UInt32} {port : UInt16}
    (handle : s.handle = true) (modeWrite : s.modeWrite = true)
    (ok : (extTftpWrite s.firmware (dataPayload p)).2 = true)
    (short : totLen (dataPayload p) < tftpMaxPayloadSize) :
    written (recvData s p addr port).firmware.ops = written s.firmware.ops ++ payloadOf p := by
  unfold recvData tftpSendAck
  simp only [handle, modeWrite, ok, short, not_true_eq_false, if_false, if_true, send_eq,
    tftpCloseHandle, written_close]
  exact extTftpWrite_written ok

/-- With a flash that takes everything, a full DATA packet keeps the transfer open. -/
theorem recvData_full {s : TftpState} {p : Pbuf} {addr addr' : UInt32} {port port' : UInt16}
    (opened : Opened s addr port) (flash : s.firmware.flashOk = [])
    (full : tftpMaxPayloadSize ≤ (payloadOf p).length) :
    (recvData s p addr' port').handle = true ∧
      (recvData s p addr' port').firmware.flashOk = [] := by
  obtain ⟨handle, modeWrite, addr_eq, port_eq⟩ := opened
  obtain ⟨ok, flash'⟩ := extTftpWrite_ok (p := dataPayload p) flash
  have notShort : ¬ totLen (dataPayload p) < tftpMaxPayloadSize := Nat.not_lt.mpr full
  unfold recvData tftpSendAck
  simp only [handle, modeWrite, ok, notShort, not_true_eq_false, if_false, send_eq]
  exact ⟨trivial, flash'⟩

theorem Opened.heard {s : TftpState} {addr : UInt32} {port : UInt16} (opened : Opened s addr port) :
    Opened { s with lastPkt := s.timer, retries := 0 } addr port :=
  ⟨opened.handle, opened.modeWrite, opened.addr_eq, opened.port_eq⟩

/-- What a write request that is accepted leaves. -/
theorem tftpRecv_opens {board : Board} {s : TftpState} {w : Pbuf} {addr : UInt32} {port : UInt16}
    (idle : s.handle = false) (request : opcodeOf w = Opcode.wrq.code)
    (accepted : (tftpRecv board s w addr port).handle = true) :
    Opened (tftpRecv board s w addr port) addr port ∧
      written (tftpRecv board s w addr port).firmware.ops = [] := by
  have isWrite : Opcode.wrq.code ≠ Opcode.rrq.code := by decide
  unfold tftpRecv recvRequest at *
  split at accepted
  · rw [tftpSendError_handle, idle] at accepted
    cases accepted
  rename_i letIn
  rw [if_neg letIn]
  simp only [request, isWrite, idle, if_false, if_true, Bool.false_eq_true] at accepted ⊢
  split at accepted
  · rw [tftpSendError_handle] at accepted
    cases accepted
  rename_i named
  rw [if_neg named]
  split at accepted
  · rw [tftpSendError_handle] at accepted
    cases accepted
  rename_i mode
  rw [if_neg mode]
  split at accepted
  · rw [tftpSendError_handle] at accepted
    cases accepted
  rename_i known
  rw [if_neg known]
  simp only [tftpSendAck, send_eq]
  exact ⟨⟨rfl, rfl, rfl, rfl⟩, written_open _ _⟩

/-! ### The packets of the client -/

theorem isData_opcode {n : UInt16} {payload : Bytes} {p : Pbuf} (data : IsData n payload p) :
    opcodeOf p = Opcode.data.code := by
  obtain ⟨long, content⟩ := data
  cases p with
  | nil => cases long
  | cons head p =>
      simp only [List.headD_cons, tftpHeaderLength] at long
      have start (i : Nat) (lt : i < 4) : head.getD i 0 =
          (Opcode.data.code ++ blockBytes n ++ payload).getD i 0 := by
        rw [← content, List.flatten_cons, List.getD_eq_getElem?_getD, List.getD_eq_getElem?_getD,
          List.getElem?_append_left (by omega)]
      unfold opcodeOf headerByte
      rw [List.headD_cons, start 0 (by decide), start 1 (by decide)]
      rfl

theorem isData_payload {n : UInt16} {payload : Bytes} {p : Pbuf} (data : IsData n payload p) :
    payloadOf p = payload := by
  obtain ⟨long, content⟩ := data
  cases p with
  | nil => cases long
  | cons head p =>
      simp only [List.headD_cons] at long
      have stripped : payloadOf (head :: p) = (head :: p).flatten.drop tftpHeaderLength := by
        rw [payloadOf, dataPayload, if_pos long, List.flatten_cons, List.flatten_cons,
          List.drop_append_of_le_length long]
      rw [stripped, content]
      rfl

/-- The packets that are let in while a peer has the transfer. -/
def admitted (addr : UInt32) (port : UInt16) : TftpEvent → Option Pbuf
  | .recv p addr' port' =>
      if (port ≠ 0 ∧ port' ≠ port) ∨ (addr ≠ 0 ∧ addr ≠ addr') then none else some p
  | .tick => none

theorem admitted_recv (addr addr' : UInt32) (port port' : UInt16) (p : Pbuf) :
    admitted addr port (.recv p addr' port') =
      if (port ≠ 0 ∧ port' ≠ port) ∨ (addr ≠ 0 ∧ addr ≠ addr') then none else some p := rfl

theorem admitted_self {addr : UInt32} {port : UInt16} (p : Pbuf) :
    admitted addr port (.recv p addr port) = some p := by
  rw [admitted_recv]
  simp

/-- With an address and a port, only the packets of the client are let in. -/
theorem admitted_eq_packetOf {addr : UInt32} {port : UInt16} (hasAddr : addr ≠ 0)
    (hasPort : port ≠ 0) : admitted addr port = packetOf addr port := by
  funext e
  cases e with
  | tick => rfl
  | recv p addr' port' =>
      by_cases mine : addr' = addr ∧ port' = port
      · obtain ⟨rfl, rfl⟩ := mine
        simp [admitted_recv, packetOf]
      · have foreign : packetOf addr port (.recv p addr' port') = none := if_neg mine
        rw [foreign, admitted_recv]
        refine if_pos ?_
        by_cases samePort : port' = port
        · exact .inr ⟨hasAddr, fun same => mine ⟨same.symm, samePort⟩⟩
        · exact .inl ⟨hasPort, samePort⟩

theorem Opened.admitted_eq {s : TftpState} {addr : UInt32} {port : UInt16}
    (opened : Opened s addr port) (addr' : UInt32) (port' : UInt16) (p : Pbuf) :
    admitted addr port (.recv p addr' port') =
      if otherPeer s addr' port' then none else some p := by
  rw [admitted_recv, ← opened.addr_eq, ← opened.port_eq]
  rfl

/-- A packet that is let in is not one of another peer. -/
theorem Opened.letIn {s : TftpState} {addr addr' : UInt32} {port port' : UInt16} {p q : Pbuf}
    (opened : Opened s addr port) (letIn : admitted addr port (.recv p addr' port') = some q) :
    p = q ∧ ¬ otherPeer s addr' port' := by
  rw [opened.admitted_eq] at letIn
  split at letIn
  · cases letIn
  · rename_i mine
    exact ⟨Option.some.inj letIn, mine⟩

/-- One event: while the transfer stays open, what is let in is written. -/
theorem opened_step {board : Board} {s : TftpState} {addr : UInt32} {port : UInt16}
    (opened : Opened s addr port) {e : TftpEvent}
    (data : ∀ p ∈ admitted addr port e, opcodeOf p = Opcode.data.code)
    (still : (s.step board e).handle = true) :
    Opened (s.step board e) addr port ∧
      written (s.step board e).firmware.ops =
        written s.firmware.ops ++ ((admitted addr port e).toList.map payloadOf).flatten ∧
      ∀ p ∈ admitted addr port e, tftpMaxPayloadSize ≤ (payloadOf p).length := by
  cases e with
  | tick =>
      obtain ⟨opened', same⟩ := tftpTick_opened opened still
      refine ⟨opened', ?_, fun p mem => by cases mem⟩
      simp only [TftpState.step, same, admitted]
      simp
  | recv p addr' port' =>
      simp only [TftpState.step] at still ⊢
      by_cases other : otherPeer s addr' port'
      · obtain ⟨allocs, sent, same⟩ := @tftpRecv_other board s p addr' port' other
        rw [same, opened.admitted_eq, if_pos other]
        exact ⟨⟨opened.handle, opened.modeWrite, opened.addr_eq, opened.port_eq⟩, by simp,
          fun p mem => by cases mem⟩
      · rw [opened.admitted_eq, if_neg other] at data ⊢
        rw [tftpRecv_data other (data p rfl)] at still ⊢
        obtain ⟨opened', content, full⟩ := recvData_opened opened.heard still
        refine ⟨opened', ?_, ?_⟩
        · simpa using content
        · rintro q mem
          cases mem
          exact full

/-- While the transfer stays open, what is let in is written, in the order it comes in. -/
theorem opened_run {board : Board} {s : TftpState} {addr : UInt32} {port : UInt16}
    (opened : Opened s addr port) {es : List TftpEvent}
    (data : ∀ p ∈ es.filterMap (admitted addr port), opcodeOf p = Opcode.data.code)
    (staysOpen : StaysOpen board s es)
    (still : (Lib.run (TftpState.step board) s es).handle = true) :
    Opened (Lib.run (TftpState.step board) s es) addr port ∧
      written (Lib.run (TftpState.step board) s es).firmware.ops =
        written s.firmware.ops ++ ((es.filterMap (admitted addr port)).map payloadOf).flatten ∧
      ∀ p ∈ es.filterMap (admitted addr port), tftpMaxPayloadSize ≤ (payloadOf p).length := by
  induction es generalizing s with
  | nil => exact ⟨opened, by simp, fun p mem => by cases mem⟩
  | cons e es ih =>
      obtain ⟨-, rest⟩ := staysOpen
      have open_ : (s.step board e).handle = true := by
        cases es with
        | nil => exact still
        | cons e' es => exact rest.1
      have packets : (e :: es).filterMap (admitted addr port) =
          (admitted addr port e).toList ++ es.filterMap (admitted addr port) := by
        rw [List.filterMap_cons]
        cases admitted addr port e <;> rfl
      rw [packets] at data ⊢
      obtain ⟨opened', content, full⟩ := opened_step opened
        (fun p mem => data p (List.mem_append_left _ (by simpa using mem))) open_
      obtain ⟨opened'', content', full'⟩ := ih opened'
        (fun p mem => data p (List.mem_append_right _ mem)) rest still
      refine ⟨opened'', ?_, ?_⟩
      · rw [Lib.run_cons, content', content, List.map_append, List.flatten_append,
          List.append_assoc]
      · intro p mem
        rcases List.mem_append.mp mem with first | later
        · exact full p (by simpa using first)
        · exact full' p later

/-! ### Whole transfers -/

/-- A full DATA packet that is let in. -/
def IsFullBlock (addr : UInt32) (port : UInt16) (e : TftpEvent) : Prop :=
  ∃ p, admitted addr port e = some p ∧ opcodeOf p = Opcode.data.code ∧
    tftpMaxPayloadSize ≤ (payloadOf p).length

/-- With a flash that takes everything, full DATA packets keep the transfer open. -/
theorem fullBlocks_run {board : Board} {s : TftpState} {addr : UInt32} {port : UInt16}
    (opened : Opened s addr port) (flash : s.firmware.flashOk = []) {es : List TftpEvent}
    (full : ∀ e ∈ es, IsFullBlock addr port e) :
    StaysOpen board s es ∧ (Lib.run (TftpState.step board) s es).handle = true ∧
      (Lib.run (TftpState.step board) s es).firmware.flashOk = [] := by
  induction es generalizing s with
  | nil => exact ⟨trivial, opened.handle, flash⟩
  | cons e es ih =>
      obtain ⟨p, letIn, data, long⟩ := full e List.mem_cons_self
      have next : (s.step board e).handle = true ∧ (s.step board e).firmware.flashOk = [] := by
        cases e with
        | tick => cases letIn
        | recv q addr' port' =>
            obtain ⟨rfl, mine⟩ := opened.letIn letIn
            rw [TftpState.step, tftpRecv_data mine data]
            exact recvData_full opened.heard flash long
      obtain ⟨open_, flash'⟩ := next
      have allData : ∀ q ∈ admitted addr port e, opcodeOf q = Opcode.data.code := by
        intro q mem
        rw [letIn] at mem
        cases mem
        exact data
      obtain ⟨opened', -⟩ := opened_step opened allData open_
      obtain ⟨stays, rest⟩ := ih opened' flash' fun e' mem => full e' (List.mem_cons_of_mem _ mem)
      exact ⟨⟨opened.handle, stays⟩, rest⟩

/-- Full DATA packets and then a short one complete the transfer, and are what is written. -/
theorem completed_run {board : Board} {s : TftpState} {addr : UInt32} {port : UInt16}
    (opened : Opened s addr port) (flash : s.firmware.flashOk = []) {es : List TftpEvent}
    (full : ∀ e ∈ es, IsFullBlock addr port e) {p : Pbuf} {addr' : UInt32} {port' : UInt16}
    (letIn : admitted addr port (.recv p addr' port') = some p)
    (data : opcodeOf p = Opcode.data.code) (short : (payloadOf p).length < tftpMaxPayloadSize) :
    StaysOpen board s (es ++ [.recv p addr' port']) ∧
      Completes (Lib.run (TftpState.step board) s es) (.recv p addr' port') ∧
      written (Lib.run (TftpState.step board) s (es ++ [.recv p addr' port'])).firmware.ops =
        written s.firmware.ops ++
          ((es.filterMap (admitted addr port) ++ [p]).map payloadOf).flatten := by
  obtain ⟨stays, open_, flash'⟩ := @fullBlocks_run board s addr port opened flash es full
  have allData : ∀ p ∈ es.filterMap (admitted addr port), opcodeOf p = Opcode.data.code := by
    intro q mem
    obtain ⟨e, mem, letIn⟩ := List.mem_filterMap.mp mem
    obtain ⟨q', letIn', data, -⟩ := full e mem
    rw [letIn] at letIn'
    cases letIn'
    exact data
  obtain ⟨opened', content, -⟩ := opened_run opened allData stays open_
  obtain ⟨-, mine⟩ := opened'.letIn letIn
  obtain ⟨ok, -⟩ := extTftpWrite_ok (p := dataPayload p) flash'
  refine ⟨?_, ⟨mine, data, open_, opened'.modeWrite, ok, short⟩, ?_⟩
  · rw [StaysOpen, Lib.along_append]
    exact ⟨stays, open_, trivial⟩
  · rw [Lib.run_append, Lib.run_cons, Lib.run_nil, TftpState.step, tftpRecv_data mine data,
      recvData_short (by exact open_) (by exact opened'.modeWrite) (by exact ok) short]
    simp [content]

/-- The payloads of full DATA packets and a last short one are the blocks of a file only if they
are these blocks. -/
theorem payloads_eq_blocks {blocks : List Bytes} (file : IsFile blocks) {ps : List Pbuf} {p : Pbuf}
    (full : ∀ q ∈ ps, (payloadOf q).length = tftpMaxPayloadSize)
    (short : (payloadOf p).length < tftpMaxPayloadSize)
    (same : ((ps ++ [p]).map payloadOf).flatten = blocks.flatten) :
    (ps ++ [p]).map payloadOf = blocks := by
  obtain ⟨xs, last, rfl, fullBlocks, shortLast⟩ := file
  rw [List.map_append, List.map_singleton] at same ⊢
  obtain ⟨first, last_eq⟩ := Lib.blocks_unique
    (List.forall_mem_map.mpr full) fullBlocks short shortLast same
  rw [first, last_eq]

theorem Schedule.isData {blocks : List Bytes} {arrivals : List Pbuf}
    (schedule : Schedule blocks arrivals) {p : Pbuf} (mem : p ∈ arrivals) :
    opcodeOf p = Opcode.data.code := by
  obtain ⟨i, payload, -, data⟩ := schedule p mem
  exact isData_opcode data

theorem Schedule.length_le {blocks : List Bytes} {arrivals : List Pbuf} (file : IsFile blocks)
    (schedule : Schedule blocks arrivals) {p : Pbuf} (mem : p ∈ arrivals) :
    (payloadOf p).length ≤ tftpMaxPayloadSize := by
  obtain ⟨i, payload, block, data⟩ := schedule p mem
  obtain ⟨full, last, rfl, fullBlocks, shortLast⟩ := file
  rw [isData_payload data]
  rcases List.mem_append.mp (List.mem_of_getElem? block) with first | atEnd
  · exact (fullBlocks payload first).le
  · rw [List.mem_singleton.mp atEnd]
    exact shortLast.le

/-- A DATA packet in one pbuf. -/
def dataPacket (n : UInt16) (payload : Bytes) : Pbuf :=
  [Opcode.data.code ++ blockBytes n ++ payload]

theorem isData_dataPacket (n : UInt16) (payload : Bytes) :
    IsData n payload (dataPacket n payload) :=
  ⟨by simp [dataPacket, Opcode.code, blockBytes, tftpHeaderLength], by simp [dataPacket]⟩

/-- A peer without an address or without a port does not keep the others out. -/
theorem admitted_intruder {addr : UInt32} {port : UInt16} (missing : ¬ (addr ≠ 0 ∧ port ≠ 0)) :
    ∃ addr' port', ¬ (addr' = addr ∧ port' = port) ∧
      ∀ p, admitted addr port (.recv p addr' port') = some p := by
  by_cases hasAddr : addr = 0
  · subst hasAddr
    refine ⟨1, port, by simp, fun p => ?_⟩
    rw [admitted_recv]
    simp
  · have noPort : port = 0 := by_contra fun hasPort => missing ⟨hasAddr, hasPort⟩
    subst noPort
    refine ⟨addr, 1, by simp, fun p => ?_⟩
    rw [admitted_recv]
    simp

/-- The client's packets, nothing in between. -/
def ownEvents (addr : UInt32) (port : UInt16) (ps : List Pbuf) : List TftpEvent :=
  ps.map fun p => .recv p addr port

theorem filterMap_ownEvents {addr : UInt32} {port : UInt16} {f : TftpEvent → Option Pbuf}
    (own : ∀ p, f (.recv p addr port) = some p) (ps : List Pbuf) :
    (ownEvents addr port ps).filterMap f = ps := by
  rw [ownEvents, List.filterMap_map, show f ∘ (fun p => .recv p addr port) = some from funext own,
    List.filterMap_some]

/-! ### When a file is delivered -/

section Delivery

variable {board : Board} {s : TftpState} {addr : UInt32} {port : UInt16} {blocks : List Bytes}
  {arrivals : List Pbuf}

/-- In order and from a client with an address and a port, a file is delivered. -/
theorem delivers_of (opened : Opened s addr port) (empty : written s.firmware.ops = [])
    (schedule : Schedule blocks arrivals) (hasAddr : addr ≠ 0) (hasPort : port ≠ 0)
    (inOrder : ∀ n, FirstShort arrivals n → (arrivals.take (n + 1)).map payloadOf = blocks) :
    Delivers board s addr port blocks arrivals := by
  intro flashOk es e initial s' stays completes
  have opened' : Opened s' addr port :=
    ⟨opened.handle, opened.modeWrite, opened.addr_eq, opened.port_eq⟩
  rw [StaysOpen, Lib.along_append] at stays
  obtain ⟨stays, open_, -⟩ := stays
  have packets := admitted_eq_packetOf hasAddr hasPort
  obtain ⟨rest, arrivals_eq⟩ := initial
  have isData : ∀ p ∈ es.filterMap (admitted addr port), opcodeOf p = Opcode.data.code := by
    intro p mem
    refine schedule.isData (p := p) ?_
    rw [← arrivals_eq, List.filterMap_append, ← packets]
    exact List.mem_append_left _ (List.mem_append_left _ mem)
  obtain ⟨opened'', content, full⟩ := opened_run opened' isData stays open_
  cases e with
  | tick => cases completes
  | recv p addr' port' =>
      obtain ⟨mine, data, handle, modeWrite, ok, short⟩ := completes
      have letIn : admitted addr port (.recv p addr' port') = some p := by
        rw [opened''.admitted_eq, if_neg mine]
      -- the packets of the client up to this one are the first short one and those before it
      have received : arrivals = (es.filterMap (admitted addr port) ++ [p]) ++ rest := by
        rw [← arrivals_eq, List.filterMap_append, ← packets, List.filterMap_cons_some letIn,
          List.filterMap_nil]
      have first : FirstShort arrivals (es.filterMap (admitted addr port)).length := by
        rw [received]
        refine ⟨⟨p, by simp, short⟩, ?_⟩
        rw [List.append_assoc, List.take_left]
        exact full
      have whole := inOrder _ first
      rw [received, List.take_left' (by simp)] at whole
      rw [Lib.run_append, Lib.run_cons, Lib.run_nil, TftpState.step, tftpRecv_data mine data,
        recvData_short (by exact handle) (by exact modeWrite) (by exact ok) short, ← whole]
      simp only [content]
      rw [show s'.firmware.ops = s.firmware.ops from rfl, empty]
      simp

/-- A file that is delivered comes in in order. -/
theorem inOrder_of_delivers (opened : Opened s addr port) (empty : written s.firmware.ops = [])
    (file : IsFile blocks) (schedule : Schedule blocks arrivals)
    (delivers : Delivers board s addr port blocks arrivals) {n : Nat}
    (first : FirstShort arrivals n) : (arrivals.take (n + 1)).map payloadOf = blocks := by
  obtain ⟨⟨p, at_n, short⟩, before⟩ := first
  have mem : p ∈ arrivals := List.mem_of_getElem? at_n
  have upTo : arrivals.take (n + 1) = arrivals.take n ++ [p] := by
    rw [List.take_add_one, at_n]
    rfl
  have opened' : Opened { s with firmware := { s.firmware with flashOk := [] } } addr port :=
    ⟨opened.handle, opened.modeWrite, opened.addr_eq, opened.port_eq⟩
  have full : ∀ e ∈ ownEvents addr port (arrivals.take n), IsFullBlock addr port e := by
    intro e isOwn
    obtain ⟨q, early, rfl⟩ := List.mem_map.mp isOwn
    exact ⟨q, admitted_self q, schedule.isData (List.mem_of_mem_take early), before q early⟩
  obtain ⟨stays, completes, content⟩ := @completed_run board _ addr port opened' rfl _ full p
    addr port (admitted_self p) (schedule.isData mem) short
  have initial : (ownEvents addr port (arrivals.take n) ++ [TftpEvent.recv p addr port]).filterMap
      (packetOf addr port) <+: arrivals := by
    have own (q : Pbuf) : packetOf addr port (.recv q addr port) = some q := by simp [packetOf]
    rw [List.filterMap_append, filterMap_ownEvents own, List.filterMap_cons_some (own p),
      List.filterMap_nil, ← upTo]
    exact List.take_prefix _ _
  have whole := delivers [] _ _ initial stays completes
  rw [content, filterMap_ownEvents admitted_self, show written _ = [] from empty,
    List.nil_append] at whole
  rw [upTo]
  refine payloads_eq_blocks file (fun q mem => ?_) short whole
  exact Nat.le_antisymm (schedule.length_le file (List.mem_of_mem_take mem)) (before q mem)

/-- A peer that is not kept out can complete the transfer with what it likes. -/
theorem hasAddr_of_delivers (opened : Opened s addr port) (empty : written s.firmware.ops = [])
    (delivers : Delivers board s addr port blocks arrivals) : addr ≠ 0 ∧ port ≠ 0 := by
  by_contra missing
  obtain ⟨addr', port', foreign, letIn⟩ := admitted_intruder missing
  have opened' : Opened { s with firmware := { s.firmware with flashOk := [] } } addr port :=
    ⟨opened.handle, opened.modeWrite, opened.addr_eq, opened.port_eq⟩
  have taken (payload : Bytes) (short : payload.length < tftpMaxPayloadSize) :
      payload = blocks.flatten := by
    have data := isData_dataPacket 1 payload
    have payload_eq := isData_payload data
    obtain ⟨stays, completes, content⟩ := @completed_run board _ addr port opened' rfl []
      (fun e mem => by cases mem) (dataPacket 1 payload) addr' port' (letIn _)
      (isData_opcode data) (by rw [payload_eq]; exact short)
    have initial : ([] ++ [TftpEvent.recv (dataPacket 1 payload) addr' port']).filterMap
        (packetOf addr port) <+: arrivals := by
      have notOwn : packetOf addr port (.recv (dataPacket 1 payload) addr' port') = none :=
        if_neg foreign
      rw [List.nil_append, List.filterMap_cons_none notOwn]
      exact List.nil_prefix
    have whole := delivers [] [] _ initial stays completes
    rw [content, show written _ = [] from empty] at whole
    simpa [payload_eq] using whole
  have same := (taken [] (by decide)).trans (taken [0] (by decide)).symm
  cases same

end Delivery

/-- The server does not look at the block numbers: a file of a client is delivered exactly when
its packets, up to the first short one, come in as its blocks do, and the client has an address
and a port by which the packets of others are told apart. -/
theorem delivers_iff (board : Board) (s₀ : TftpState) (request : Pbuf) (addr : UInt32)
    (port : UInt16) (blocks : List Bytes) (arrivals : List Pbuf) (idle : s₀.handle = false)
    (isWrite : opcodeOf request = Opcode.wrq.code)
    (accepted : (tftpRecv board s₀ request addr port).handle = true) (file : IsFile blocks)
    (schedule : Schedule blocks arrivals) :
    Delivers board (tftpRecv board s₀ request addr port) addr port blocks arrivals ↔
      addr ≠ 0 ∧ port ≠ 0 ∧
        ∀ n, FirstShort arrivals n → (arrivals.take (n + 1)).map payloadOf = blocks := by
  obtain ⟨opened, empty⟩ := tftpRecv_opens idle isWrite accepted
  constructor
  · intro delivers
    obtain ⟨hasAddr, hasPort⟩ := hasAddr_of_delivers opened empty delivers
    exact ⟨hasAddr, hasPort, fun n first =>
      inOrder_of_delivers opened empty file schedule delivers first⟩
  · rintro ⟨hasAddr, hasPort, inOrder⟩
    exact delivers_of opened empty schedule hasAddr hasPort inOrder

/-- A write request for the RTOS image. -/
def writeRequest : Pbuf := [Opcode.wrq.code ++ imageOsName ++ [0] ++ str "octet" ++ [0]]

/-- A file of one short block is delivered. -/
theorem delivers_iff_short :
    Delivers .other (tftpRecv .other {} writeRequest 1 7) 1 7 [[42]] [dataPacket 1 [42]] := by
  have schedule : Schedule [[42]] [dataPacket 1 [42]] := by
    intro p mem
    rw [List.mem_singleton.mp mem]
    exact ⟨0, [42], rfl, isData_dataPacket 1 [42]⟩
  refine (delivers_iff .other {} writeRequest 1 7 [[42]] [dataPacket 1 [42]] rfl
    (by decide +kernel) (by decide +kernel) ⟨[], [42], rfl, by simp, by decide⟩ schedule).mpr
    ⟨by decide, by decide, ?_⟩
  rintro n ⟨⟨p, at_n, -⟩, -⟩
  obtain ⟨lt, -⟩ := List.getElem?_eq_some_iff.mp at_n
  have : n = 0 := Nat.lt_one_iff.mp lt
  rw [this]
  rfl

/-- A file of two blocks the first of which is sent twice is not delivered. -/
theorem repeated_not_delivered {block : Bytes} (long : block.length = tftpMaxPayloadSize) :
    ¬ Delivers .other (tftpRecv .other {} writeRequest 1 7) 1 7 [block, [42]]
      [dataPacket 1 block, dataPacket 1 block, dataPacket 2 [42]] := by
  intro delivers
  have block_eq : payloadOf (dataPacket 1 block) = block :=
    isData_payload (isData_dataPacket 1 block)
  have last_eq : payloadOf (dataPacket 2 [42]) = [42] := isData_payload (isData_dataPacket 2 [42])
  obtain ⟨opened, empty⟩ := @tftpRecv_opens .other {} writeRequest 1 7 rfl (by decide +kernel)
    (by decide +kernel)
  have file : IsFile [block, [42]] := ⟨[block], [42], rfl, by simp [long], by decide⟩
  have schedule : Schedule [block, [42]] [dataPacket 1 block, dataPacket 1 block,
      dataPacket 2 [42]] := by
    have first := isData_dataPacket 1 block
    simp only [Schedule, List.forall_mem_cons]
    exact ⟨⟨0, block, rfl, first⟩, ⟨0, block, rfl, first⟩,
      ⟨1, [42], rfl, isData_dataPacket 2 [42]⟩, by simp⟩
  have first : FirstShort [dataPacket 1 block, dataPacket 1 block, dataPacket 2 [42]] 2 := by
    refine ⟨⟨_, rfl, by rw [last_eq]; decide⟩, ?_⟩
    simp [block_eq, long]
  have inOrder := congrArg List.length
    (inOrder_of_delivers opened empty file schedule delivers first)
  simp at inOrder

/-- The first block is sent again because its ACK is lost, and written twice. -/
theorem retransmission_written_twice :
    ¬ Delivers .other (tftpRecv .other {} writeRequest 1 7) 1 7 [List.replicate 512 0, [42]]
      [dataPacket 1 (List.replicate 512 0), dataPacket 1 (List.replicate 512 0),
        dataPacket 2 [42]] :=
  repeated_not_delivered List.length_replicate

end LwipExt.Tftp
