import LwipExt.Http.Lifetime
import LwipExt.Lib.Outbox
import Mathlib.Data.List.Flatten

/-!
Upgraded connections: what the replies to websocket frames look like on the wire.

A frame leaves its reply in `mhc->data`; sent and poll callbacks offer it to TCP, whole
and from the start, as often as they run. The abstract sender is `Lib.Outbox`: a reply
is sent at most once. The code is such a sender only as long as TCP answers the first
callback that takes anything with the whole reply, and takes nothing after that
(`WritesOnce`); `replies_in_order` is the law for the runs in which it does.
-/

namespace LwipExt.Http

open Lib (Outbox Registry)

/-- The reply that waits in `mhc->data`. -/
def ExtHttpConn.pending (mhc : ExtHttpConn) : Bytes := bufRead mhc.data 0 mhc.dataSendIndex

/-- The payload length of a frame, in 7 or 16 bits. -/
def framePayloadLen (p : Pbuf) : Nat :=
  let data := p.headD []
  if (data.getD 1 0 &&& 0x7f).toNat = 126 then (data.getD 2 0).toNat * 256 + (data.getD 3 0).toNat
  else (data.getD 1 0 &&& 0x7f).toNat

/-- The segment is a text or binary frame that is answered. -/
def IsDataFrame (p : Pbuf) : Prop :=
  1 < totLen p ∧ firstByte p &&& 0x80 ≠ 0 ∧
    (firstByte p &&& 0x0f = 0x01 ∨ firstByte p &&& 0x0f = 0x02) ∧ 6 < (p.headD []).length ∧
    ((p.headD []).getD 1 0 &&& 0x7f).toNat ≠ 127 ∧ framePayloadLen p ≤ totLen p

instance (p : Pbuf) : Decidable (IsDataFrame p) := inferInstanceAs (Decidable (_ ∧ _))

section Parse

variable (mhc : ExtHttpConn) {p : Pbuf}

/-- A data frame leaves its reply, to be sent. -/
theorem parseFrame_of_dataFrame (isData : IsDataFrame p) :
    (extHttpWebSocketParseFrame mhc p).1.reqType = mhc.reqType ∧
      (extHttpWebSocketParseFrame mhc p).1.httpStatusCode = webResRequestOk ∧
      (extHttpWebSocketParseFrame mhc p).2 = .ok := by
  obtain ⟨long, fin, opcode, len, short, fits⟩ := isData
  have notTooLong : ¬ totLen p < framePayloadLen p := Nat.not_lt.mpr fits
  simp only [framePayloadLen] at notTooLong
  unfold extHttpWebSocketParseFrame
  rw [if_pos long, if_neg fin, if_pos opcode]
  unfold parseDataFrame
  dsimp only
  rw [if_pos len, if_neg short, if_neg notTooLong]
  exact ⟨rfl, rfl, rfl⟩

/-- Any other segment leaves the connection as it is. -/
theorem parseFrame_of_not_dataFrame (other : ¬ IsDataFrame p) :
    (extHttpWebSocketParseFrame mhc p).1 = mhc := by
  unfold extHttpWebSocketParseFrame
  split_ifs with long fin opcode
  · rfl
  · unfold parseDataFrame
    dsimp only
    by_cases len : 6 < (p.headD []).length
    · by_cases short : ((p.headD []).getD 1 0 &&& 0x7f).toNat = 127
      · rw [if_pos len, if_pos short]
      · have tooLong : totLen p < framePayloadLen p := by
          by_contra fits
          exact other ⟨long, fin, opcode, len, short, Nat.le_of_not_lt fits⟩
        rw [if_pos len, if_neg short]
        exact congrArg Prod.fst (if_pos tooLong)
    · rw [if_neg len]
  all_goals rfl

end Parse

/-! ### The connection under each callback -/

/-- A callback of an upgraded connection. -/
inductive SocketEvent where
  | frame (env : Env) (segment : Pbuf)
  | sent (env : Env)
  | poll (env : Env)

/-- The callback on the pcb of the connection. -/
def SocketEvent.event (p : PcbId) : SocketEvent → Event
  | .frame env segment => ⟨env, .recv p (some segment) false []⟩
  | .sent env => ⟨env, .sent p⟩
  | .poll env => ⟨env, .poll p⟩

/-- The upgraded connection `c` is open, on the pcb `p`. -/
structure SocketOpen (s : Server) (c : ConnId) (p : PcbId) : Prop where
  sound : s.registry.Sound
  live : (s.mem c).live
  home : (s.mem c).pcb = p
  socket : (s.mem c).conn.reqType = .webSocket

/-- The connection `c` is gone, and the pcb `p` passes nothing. -/
structure SocketEnded (s : Server) (c : ConnId) (p : PcbId) : Prop where
  dead : (s.mem c).live = false
  home : (s.mem c).pcb = p
  unused : (s.pcbs p).arg = none
  quiet : (s.pcbs p).registered = false

section Socket

variable {s : Server} {c : ConnId} {p : PcbId}

theorem SocketOpen.congr {t : Server} (isOpen : SocketOpen s c p) (same : t.registry = s.registry)
    (socket : (t.mem c).conn.reqType = .webSocket) : SocketOpen t c p where
  sound := same ▸ isOpen.sound
  live := Server.live_of_registry same isOpen.live
  home := (Server.pcb_of_registry same).trans isOpen.home
  socket := socket

theorem SocketEnded.congr {t : Server} (ended : SocketEnded s c p)
    (same : t.registry = s.registry) : SocketEnded t c p where
  dead := (congrArg (fun r : Registry ConnId PcbId => r.live c) same).trans ended.dead
  home := (Server.pcb_of_registry same).trans ended.home
  unused := (congrArg (fun r : Registry ConnId PcbId => r.arg p) same).trans ended.unused
  quiet := (congrArg (fun r : Registry ConnId PcbId => r.heard p) same).trans ended.quiet

/-- What the pcb of an open connection passes to its callbacks. -/
theorem SocketOpen.passed (isOpen : SocketOpen s c p) :
    (s.pcbs p).arg = some c ∧ (s.pcbs p).registered ∧ (s.pcbs p).poll := by
  obtain ⟨sound, live, home, _⟩ := isOpen
  have passed : (s.pcbs p).arg = some c := home ▸ sound.arg_of_live c live
  have some : (s.registry.arg p).isSome := by
    rw [show s.registry.arg p = _ from passed]
    rfl
  exact ⟨passed, (sound.heard_eq p).trans some, sound.polled_of_arg p some⟩

end Socket

namespace Server

variable {s : Server} {c : ConnId} {p : PcbId}

theorem arm_accepted (env : Env) : (s.arm env).accepted c = s.accepted c := rfl

theorem arm_tcp (env : Env) : ((s.arm env).session c).io.tcp = env.tcp (s.mem c).pcb := rfl

/-- Closing an upgraded connection sends the close frame, if TCP takes it. -/
theorem extHttpConnClose_socket (isOpen : SocketOpen s c p) :
    SocketEnded (s.extHttpConnClose (some c) p) c p ∧
      ∃ tail, (s.extHttpConnClose (some c) p).accepted c = s.accepted c ++ tail ∧
        (tail = [] ∨ tail = closeFrame) := by
  obtain ⟨_, live, home, socket⟩ := isOpen
  obtain ⟨timer, closed⟩ := extHttpConnCloseOrAbort_registry s c p false
  have view {α : Type} (f : Registry ConnId PcbId → α) :
      f (s.extHttpConnClose (some c) p).registry = f (s.registry.closed c p timer) :=
    congrArg f closed
  refine ⟨⟨?_, ?_, ?_, ?_⟩, ?_⟩
  · exact extHttpConnCloseOrAbort_live s c p false
  · exact (view fun r => r.home c).trans home
  · exact (view fun r => r.arg p).trans (by simp [Registry.closed, Registry.reset])
  · exact (view fun r => r.heard p).trans (by simp [Registry.closed, Registry.reset])
  · have finished := extHttpPostDataFinished_sameSend (s.session c)
    set before := if (s.session c).mhc.postDataLeft ≠ 0 then extHttpPostDataFinished (s.session c)
      else s.session c with before_eq
    have same : (s.session c).SameSend before := by
      rw [before_eq]
      split_ifs
      · exact finished
      · exact .refl _
    have isSocket : before.mhc.reqType = .webSocket := same.reqType.trans socket
    have sends : (s.extHttpConnClose (some c) p).accepted c =
        (extHttpWebSocketSendClose before).1.io.accepted := by
      rw [extHttpConnClose, extHttpConnCloseOrAbort_accepted]
      simp only [finishBeforeClose, ← before_eq, isSocket, if_true]
    rw [sends]
    simp only [extHttpWebSocketSendClose, tcpWriteDirect, same.accepted]
    refine ⟨_, rfl, ?_⟩
    split_ifs
    · exact .inr (List.take_length ..)
    · exact .inl rfl

/-- A call of `extHttpSend` on an upgraded connection offers the pending reply and
leaves the connection as it is. -/
theorem extHttpSend_socket (isOpen : SocketOpen s c p) :
    SocketOpen (s.extHttpSend c).1 c p ∧
      ((s.extHttpSend c).1.mem c).conn = (s.mem c).conn ∧
      (s.extHttpSend c).1.accepted c = s.accepted c ++
        (if (s.mem c).conn.httpStatusCode = webResRequestOk then
          (s.mem c).conn.pending.take
            ((s.session c).io.tcp.taken (s.mem c).conn.dataSendIndex) else []) := by
  obtain ⟨sound, live, home, socket⟩ := isOpen
  have eq : (s.extHttpSend c).1 = (s.sendWebSocket c).1 := by
    simp [extHttpSend, touch_of_live s c live, socket]
  rw [eq]
  unfold sendWebSocket
  dsimp only
  rw [touch_of_live s c live]
  split_ifs
  · refine ⟨⟨?_, ?_, ?_, ?_⟩, ?_, ?_⟩
    · rwa [onConn_registry]
    · simpa using live
    · simpa using home
    · simpa using socket
    · simp
    · simp [ExtHttpConn.pending, session_accepted]
  · exact ⟨⟨sound, live, home, socket⟩, rfl, by simp⟩

/-- Of a received segment only a close frame ends the connection; nothing else is
sent. -/
theorem recvWebSocket_socket (isOpen : SocketOpen s c p) (segment : Pbuf) :
    let s' := s.recvWebSocket c p segment
    (IsCloseFrame segment → SocketEnded s' c p ∧
      ∃ tail, s'.accepted c = s.accepted c ++ tail ∧ (tail = [] ∨ tail = closeFrame)) ∧
    (¬ IsCloseFrame segment → SocketOpen s' c p ∧ s'.accepted c = s.accepted c ∧
      (s'.mem c).conn =
        { (extHttpWebSocketParseFrame (s.mem c).conn segment).1 with retries := 0 }) := by
  set parse := parseSegment segment with parse_eq
  have same := onConn_registry s c parse
  have closes : (s.onConn c parse).2 = .clsd ↔ IsCloseFrame segment := by
    rw [onConn_snd]
    exact extHttpWebSocketParseFrame_clsd (s.mem c).conn segment
  have keeps : (extHttpWebSocketParseFrame (s.mem c).conn segment).1.reqType = .webSocket := by
    by_cases isData : IsDataFrame segment
    · exact (parseFrame_of_dataFrame (s.mem c).conn isData).1.trans isOpen.socket
    · rw [parseFrame_of_not_dataFrame (s.mem c).conn isData]
      exact isOpen.socket
  have conn : ((s.onConn c parse).1.mem c).conn =
      (extHttpWebSocketParseFrame (s.mem c).conn segment).1 := by
    simp [parse_eq, parseSegment]
  have accepted : (s.onConn c parse).1.accepted c = s.accepted c := by
    simp [parse_eq, parseSegment, session_accepted]
  have parsed : SocketOpen (s.onConn c parse).1 c p :=
    isOpen.congr same (by rw [conn, keeps])
  simp only [recvWebSocket_eq, ← parse_eq, closes]
  constructor
  · intro isClose
    rw [if_pos isClose]
    obtain ⟨ended, tail, sends, isTail⟩ := extHttpConnClose_socket parsed
    refine ⟨ended.congr (assign_registry _ c _), tail, ?_, isTail⟩
    rw [assign_accepted, sends, accepted]
  · intro isOther
    rw [if_neg isOther]
    refine ⟨parsed.congr (assign_registry _ c _) ?_, ?_, ?_⟩
    · rw [assign_conn, conn]
      exact keeps
    · rw [assign_accepted, accepted]
    · rw [assign_conn, conn]

/-- A request that asks for the upgrade leaves an open upgraded connection. -/
theorem handshake_opens (site : Site) (sound : s.registry.Sound) (live : (s.mem c).live)
    (home : (s.mem c).pcb = p) (segment : Pbuf) (stale : Bytes)
    (ok : (extHttpRequestParse site (s.session c) segment stale).2 = .ok)
    (upgrade : (extHttpRequestParse site (s.session c) segment stale).1.mhc.reqType =
      .webSocket) :
    SocketOpen (s.recvRequest site c p segment stale) c p := by
  set parse : Session → Session × TcpErr := fun ss => extHttpRequestParse site ss segment stale
    with parse_eq
  set t := (s.onConn c parse).1.assign c fun mhc => { mhc with req := none } with t_eq
  have same : t.registry = s.registry := by
    rw [t_eq, assign_registry, onConn_registry]
  have parsed : (s.onConn c parse).2 = .ok := (onConn_snd s c parse).trans ok
  have eq : s.recvRequest site c p segment stale = (t.extHttpSend c).1 := by
    simp only [recvRequest, ← parse_eq, ← t_eq, parsed]
    rfl
  have socket : SocketOpen t c p := by
    refine ⟨same ▸ sound, live_of_registry same live, (pcb_of_registry same).trans home, ?_⟩
    rw [t_eq, assign_conn, onConn_conn]
    exact upgrade
  rw [eq]
  exact (extHttpSend_socket socket).1

/-- A callback on a pcb whose connection is gone sends nothing. -/
theorem step_ended (site : Site) (ended : SocketEnded s c p) (e : SocketEvent) :
    SocketEnded (s.step site (e.event p)) c p ∧
      (s.step site (e.event p)).accepted c = s.accepted c := by
  have idle (env : Env) : SocketEnded (s.arm env) c p ∧ (s.arm env).accepted c = s.accepted c :=
    ⟨ended.congr (arm_registry s env), rfl⟩
  have quiet (env : Env) : ((s.arm env).pcbs p).registered = false := ended.quiet
  cases e with
  | frame env segment => simpa [step, SocketEvent.event, deliver, quiet] using idle env
  | sent env => simpa [step, SocketEvent.event, deliver, quiet] using idle env
  | poll env =>
      have unused : ((s.arm env).pcbs p).arg = none := ended.unused
      simp only [step, SocketEvent.event, deliver, unused, extHttpPoll]
      split_ifs
      · obtain ⟨timer, reset⟩ := extHttpConnClose_none_registry (s.arm env) p
        have view {α : Type} (f : Registry ConnId PcbId → α) :
            f ((s.arm env).extHttpConnClose none p).registry =
              f ((s.arm env).registry.reset p timer) := congrArg f reset
        refine ⟨⟨(view fun r => r.live c).trans ended.dead, (view fun r => r.home c).trans ended.home,
          (view fun r => r.arg p).trans ?_, (view fun r => r.heard p).trans ?_⟩, ?_⟩
        · simp [Registry.reset]
        · simp [Registry.reset]
        · simp only [extHttpConnClose, extHttpConnCloseOrAbort, Bool.false_eq_true, if_false,
            tcpClose_accepted, resetCallbacks_accepted]
          rfl
      · exact idle env

end Server

/-! ### Runs -/

/-- A server with the replies that were left on the connection so far. -/
structure Watched where
  server : Server
  box : Outbox UInt8

/-- One callback. A data frame puts its reply into the outbox; a callback during which
TCP takes anything sends it. -/
def watch (site : Site) (c : ConnId) (p : PcbId) (w : Watched) (e : SocketEvent) : Watched :=
  let server := w.server.step site (e.event p)
  match e with
  | .frame _ segment =>
      if (server.mem c).live ∧ IsDataFrame segment then
        ⟨server, w.box.put (server.mem c).conn.pending⟩
      else ⟨server, w.box⟩
  | .sent _ | .poll _ =>
      ⟨server, { w.box with due := w.box.due && server.accepted c = w.server.accepted c }⟩

/-- TCP takes nothing of the pending reply, or all of it when it was not sent yet. -/
def OfferedOnce (c : ConnId) (p : PcbId) (w : Watched) (env : Env) : Prop :=
  let mhc := (w.server.mem c).conn
  let taken := (env.tcp p).taken mhc.dataSendIndex
  mhc.httpStatusCode = webResRequestOk → taken = 0 ∨ w.box.due ∧ taken = mhc.dataSendIndex

/-- A callback sends the pending reply at most once, and whole. A poll callback that
closes the connection does not offer it. -/
def WritesOnce (c : ConnId) (p : PcbId) (w : Watched) : SocketEvent → Prop
  | .frame _ _ => True
  | .sent env => (w.server.mem c).live → OfferedOnce c p w env
  | .poll env => (w.server.mem c).live →
      ((w.server.mem c).conn.retries + 1) % 256 ≠ maxRetries → OfferedOnce c p w env

instance (c : ConnId) (p : PcbId) (w : Watched) (env : Env) : Decidable (OfferedOnce c p w env) :=
  inferInstanceAs (Decidable (_ → _))

instance (c : ConnId) (p : PcbId) (w : Watched) (e : SocketEvent) :
    Decidable (WritesOnce c p w e) := by
  cases e <;> unfold WritesOnce <;> infer_instance

/-- What TCP accepted since the connection was upgraded, behind `before`, is some of
the replies, in order; when the connection is gone, a close frame may follow. -/
inductive Orderly (before : Bytes) (c : ConnId) (p : PcbId) (w : Watched) : Prop where
  | isOpen (socket : SocketOpen w.server c p) (out : Bytes)
      (sent : w.server.accepted c = before ++ out) (ordered : w.box.InOrder out)
      (waits : w.box.due → (w.server.mem c).conn.httpStatusCode = webResRequestOk ∧
        w.box.items.getLast? = some (w.server.mem c).conn.pending)
  | ended (gone : SocketEnded w.server c p) (out tail : Bytes)
      (sent : w.server.accepted c = before ++ out ++ tail) (ordered : w.box.InOrder out)
      (isTail : tail = [] ∨ tail = closeFrame)

section Run

variable {before : Bytes} {c : ConnId} {p : PcbId} {w : Watched}

/-- As long as nothing is accepted, the last reply stays due. -/
theorem due_of_same {b : Bool} {x y : Bytes} (same : x = y) : (b && decide (x = y)) = b := by
  simp [same]

/-- A call of `extHttpSend` that offers the pending reply, in a server `s` that differs
from the watched one in the retries of the connection. -/
theorem orderly_send {s : Server} {retries : Nat} {env : Env} (socket : SocketOpen s c p)
    (conn : (s.mem c).conn = { (w.server.mem c).conn with retries })
    (tcp : (s.session c).io.tcp = env.tcp p) (accepted : s.accepted c = w.server.accepted c)
    {out : Bytes} (sent : w.server.accepted c = before ++ out) (ordered : w.box.InOrder out)
    (waits : w.box.due → (w.server.mem c).conn.httpStatusCode = webResRequestOk ∧
      w.box.items.getLast? = some (w.server.mem c).conn.pending)
    (once : OfferedOnce c p w env) :
    Orderly before c p ⟨(s.extHttpSend c).1,
      { w.box with
        due := w.box.due && (s.extHttpSend c).1.accepted c = w.server.accepted c }⟩ := by
  obtain ⟨socket', conn', accepted'⟩ := Server.extHttpSend_socket socket
  have pending : (s.mem c).conn.pending = (w.server.mem c).conn.pending := by
    rw [conn]
    rfl
  have status : (s.mem c).conn.httpStatusCode = (w.server.mem c).conn.httpStatusCode := by
    rw [conn]
  have index : (s.mem c).conn.dataSendIndex = (w.server.mem c).conn.dataSendIndex := by
    rw [conn]
  rw [pending, status, index, tcp, accepted] at accepted'
  have unchanged : (s.extHttpSend c).1.accepted c = w.server.accepted c →
      Orderly before c p ⟨(s.extHttpSend c).1,
        { w.box with
          due := w.box.due && (s.extHttpSend c).1.accepted c = w.server.accepted c }⟩ := by
    intro same
    rw [due_of_same same]
    refine .isOpen socket' out (same.trans sent) ordered ?_
    rw [conn', status, pending]
    exact waits
  by_cases ready : (w.server.mem c).conn.httpStatusCode = webResRequestOk
  · rw [if_pos ready] at accepted'
    obtain nothing | ⟨due, whole⟩ := once ready
    · rw [nothing, List.take_zero, List.append_nil] at accepted'
      exact unchanged accepted'
    · have length : (w.server.mem c).conn.pending.length =
          (w.server.mem c).conn.dataSendIndex := length_bufRead _ _ _
      rw [whole, ← length, List.take_length] at accepted'
      by_cases empty : (w.server.mem c).conn.pending = []
      · exact unchanged (by rw [accepted', empty, List.append_nil])
      · have changed : (s.extHttpSend c).1.accepted c ≠ w.server.accepted c := by
          rw [accepted']
          simpa using empty
        have notDue : (w.box.due && decide ((s.extHttpSend c).1.accepted c =
            w.server.accepted c)) = false := by simp [changed]
        rw [notDue]
        refine .isOpen socket' (out ++ (w.server.mem c).conn.pending) ?_
          (ordered.send due (waits due).2) (fun h => absurd h (by simp))
        rw [accepted', sent, List.append_assoc]
  · rw [if_neg ready, List.append_nil] at accepted'
    exact unchanged accepted'

theorem orderly_frame (site : Site) (env : Env) (segment : Pbuf)
    (socket : SocketOpen w.server c p) {out : Bytes}
    (sent : w.server.accepted c = before ++ out) (ordered : w.box.InOrder out)
    (waits : w.box.due → (w.server.mem c).conn.httpStatusCode = webResRequestOk ∧
      w.box.items.getLast? = some (w.server.mem c).conn.pending) :
    Orderly before c p (watch site c p w (.frame env segment)) := by
  set s := w.server.arm env with s_eq
  have socket' : SocketOpen s c p := socket.congr (Server.arm_registry _ env) socket.socket
  obtain ⟨passed, registered, _⟩ := socket'.passed
  have step_eq : w.server.step site ((SocketEvent.frame env segment).event p) =
      s.recvWebSocket c p segment := by
    simp [Server.step, SocketEvent.event, Server.deliver, ← s_eq, registered, passed,
      Server.extHttpRecv, Server.touch_of_live s c socket'.live, socket'.socket]
  obtain ⟨closes, stays⟩ := Server.recvWebSocket_socket socket' segment
  simp only [watch, step_eq]
  by_cases isClose : IsCloseFrame segment
  · obtain ⟨gone, tail, accepted, isTail⟩ := closes isClose
    rw [if_neg (by simp [gone.dead])]
    exact .ended gone out tail (accepted.trans (congrArg (· ++ tail) sent)) ordered isTail
  · obtain ⟨socket'', accepted, conn⟩ := stays isClose
    have sent' := accepted.trans sent
    by_cases isData : IsDataFrame segment
    · rw [if_pos ⟨socket''.live, isData⟩]
      refine .isOpen socket'' out sent' (ordered.put _) fun _ => ⟨?_, by simp [Outbox.put]⟩
      rw [conn]
      exact (parseFrame_of_dataFrame _ isData).2.1
    · rw [if_neg fun h => isData h.2]
      refine .isOpen socket'' out sent' ordered ?_
      rw [conn, parseFrame_of_not_dataFrame _ isData]
      exact waits

/-- One callback keeps the replies in order. -/
theorem orderly_step (site : Site) (e : SocketEvent) (orderly : Orderly before c p w)
    (once : WritesOnce c p w e) : Orderly before c p (watch site c p w e) := by
  cases orderly with
  | ended gone out tail sent ordered isTail =>
      obtain ⟨gone', same⟩ := Server.step_ended site gone e
      have still : Orderly before c p ⟨w.server.step site (e.event p), w.box⟩ :=
        .ended gone' out tail (same.trans sent) ordered isTail
      cases e with
      | frame env segment => simpa [watch, gone'.dead] using still
      | sent env => simpa [watch, same] using still
      | poll env => simpa [watch, same] using still
  | isOpen socket out sent ordered waits =>
      have socket' (env : Env) : SocketOpen (w.server.arm env) c p :=
        socket.congr (Server.arm_registry _ env) socket.socket
      have tcp (env : Env) : ((w.server.arm env).session c).io.tcp = env.tcp p :=
        congrArg env.tcp socket.home
      -- the retries are assigned before the reply is offered
      have assigned (env : Env) (g : ExtHttpConn → ExtHttpConn)
          (keeps : (g (w.server.mem c).conn).reqType = (w.server.mem c).conn.reqType) :
          SocketOpen ((w.server.arm env).assign c g) c p :=
        (socket' env).congr (Server.assign_registry _ c g)
          (by rw [Server.assign_conn]; exact keeps.trans socket.socket)
      cases e with
      | frame env segment => exact orderly_frame site env segment socket sent ordered waits
      | sent env =>
          obtain ⟨passed, registered, _⟩ := (socket' env).passed
          simp only [watch, Server.step, SocketEvent.event, Server.deliver, registered, if_true,
            passed, Server.extHttpSent]
          refine orderly_send (assigned env _ rfl) (Server.assign_conn _ c _) ?_ ?_ sent ordered
            waits (once socket.live)
          · rw [Server.assign_session]
            exact tcp env
          · rw [Server.assign_accepted]
            rfl
      | poll env =>
          obtain ⟨passed, _, timer⟩ := (socket' env).passed
          simp only [watch, Server.step, SocketEvent.event, Server.deliver, timer, if_true,
            passed, Server.extHttpPoll, Server.assign_conn]
          have socket'' := assigned env
            (fun mhc => { mhc with retries := (mhc.retries + 1) % 256 }) rfl
          have accepted : ((w.server.arm env).assign c fun mhc =>
              { mhc with retries := (mhc.retries + 1) % 256 }).accepted c =
                w.server.accepted c := by
            rw [Server.assign_accepted]
            rfl
          have retries : ((w.server.arm env).mem c).conn.retries =
              (w.server.mem c).conn.retries := rfl
          rw [retries]
          by_cases tooMany : ((w.server.mem c).conn.retries + 1) % 256 = maxRetries
          · obtain ⟨gone, tail, closed, isTail⟩ := Server.extHttpConnClose_socket socket''
            simp only [tooMany, if_true]
            refine .ended gone out tail ?_ (ordered.giveUp _) isTail
            rw [closed, accepted, sent]
          · simp only [tooMany, if_false]
            refine orderly_send socket'' (Server.assign_conn _ c _) ?_ accepted sent ordered
              waits (once socket.live tooMany)
            rw [Server.assign_session]
            exact tcp env

end Run

/-- In every run of an upgraded connection that sends each reply at most once, and
whole, what TCP accepts behind the handshake is some of the replies, in order and each
once; when the connection is gone, a close frame may follow. -/
theorem replies_in_order (site : Site) (s : Server) (c : ConnId) (p : PcbId)
    (es : List SocketEvent) (upgraded : SocketOpen s c p)
    (once : Lib.Along (watch site c p) (WritesOnce c p) ⟨s, {}⟩ es) :
    let w := Lib.run (watch site c p) ⟨s, {}⟩ es
    ∃ (kept : List Bytes) (tail : Bytes), kept.Sublist w.box.items ∧
      w.server.accepted c = s.accepted c ++ kept.flatten ++ tail ∧
      (tail = [] ∨ tail = closeFrame ∧ (w.server.mem c).live = false) := by
  intro w
  have start : Orderly (s.accepted c) c p ⟨s, {}⟩ :=
    .isOpen upgraded [] (by simp) Outbox.inOrder_nil (by simp)
  have orderly : Orderly (s.accepted c) c p w :=
    Lib.run_invariant (fun w e ordered once => orderly_step site e ordered once) start once
  cases orderly with
  | isOpen socket out sent ordered waits =>
      obtain ⟨kept, sub, eq⟩ := ordered
      exact ⟨kept, [], sub.trans w.box.past_sublist, by simp [sent, eq], .inl rfl⟩
  | ended gone out tail sent ordered isTail =>
      obtain ⟨kept, sub, eq⟩ := ordered
      refine ⟨kept, tail, sub.trans w.box.past_sublist, by rw [sent, eq], ?_⟩
      obtain none | closing := isTail
      · exact .inl none
      · exact .inr ⟨closing, gone.dead⟩

/-- A connection that was accepted and upgraded. -/
def upgradedServer : Server :=
  Lib.run (Server.step shortSite) {}
    [⟨roomyEnv, .accept 1 false (some 1) none⟩,
      ⟨roomyEnv, .recv 1 (some [str "GET / HTTP/1.1" ++ crlf ++ webSocketHeader ++ webSocketKey ++
        str "abc" ++ crlfcrlf]) false []⟩]

theorem upgradedServer_open : SocketOpen upgradedServer 1 1 where
  sound := Lib.run_invariant_of_step (fun s : Server => s.registry.Sound)
    (fun _ e sound => (Server.step_delivered shortSite sound e).sound)
    Server.registry_sound_init _
  live := by decide +kernel
  home := by decide +kernel
  socket := by decide +kernel

/-- A masked text frame with the payload `hi`. -/
def hiFrame : Pbuf := [[0x81, 0x82, 1, 2, 3, 4, 0x69, 0x6b]]

/-- A frame and two acknowledgements: the second sends the reply again. -/
theorem reply_sent_twice :
    ¬ ∀ (site : Site) (s : Server) (c : ConnId) (p : PcbId) (es : List SocketEvent),
      SocketOpen s c p →
        let w := Lib.run (watch site c p) ⟨s, {}⟩ es
        ∃ (kept : List Bytes) (tail : Bytes), kept.Sublist w.box.items ∧
          w.server.accepted c = s.accepted c ++ kept.flatten ++ tail ∧
          (tail = [] ∨ tail = closeFrame ∧ (w.server.mem c).live = false) := by
  intro inOrder
  obtain ⟨kept, tail, sub, sent, isTail⟩ := inOrder shortSite upgradedServer 1 1
    [.frame roomyEnv hiFrame, .sent roomyEnv, .sent roomyEnv] upgradedServer_open
  have items : (Lib.run (watch shortSite 1 1) ⟨upgradedServer, {}⟩
      [.frame roomyEnv hiFrame, .sent roomyEnv, .sent roomyEnv]).box.items.flatten.length = 4 := by
    decide +kernel
  have total : ((Lib.run (watch shortSite 1 1) ⟨upgradedServer, {}⟩
      [.frame roomyEnv hiFrame, .sent roomyEnv, .sent roomyEnv]).server.accepted 1).length =
        (upgradedServer.accepted 1).length + 8 := by decide +kernel
  have live : ((Lib.run (watch shortSite 1 1) ⟨upgradedServer, {}⟩
      [.frame roomyEnv hiFrame, .sent roomyEnv, .sent roomyEnv]).server.mem 1).live := by
    decide +kernel
  have open' : tail = [] := by
    obtain none | ⟨_, dead⟩ := isTail
    · exact none
    · rw [live] at dead
      exact absurd dead (by decide)
  have short := sub.flatten.length_le
  rw [items] at short
  have long := congrArg List.length sent
  rw [total, open', List.append_nil, List.length_append] at long
  omega

/-- A frame, an acknowledgement during which TCP takes the reply, and one during which
it takes nothing. -/
theorem reply_sent_once :
    let es := [.frame roomyEnv hiFrame, .sent roomyEnv,
      SocketEvent.sent ⟨fun _ => .roomy 0 1460, fun _ => true, []⟩]
    let w := Lib.run (watch shortSite 1 1) ⟨upgradedServer, {}⟩ es
    ∃ (kept : List Bytes) (tail : Bytes), kept.Sublist w.box.items ∧
      w.server.accepted 1 = upgradedServer.accepted 1 ++ kept.flatten ++ tail ∧
      (tail = [] ∨ tail = closeFrame ∧ (w.server.mem 1).live = false) :=
  replies_in_order shortSite upgradedServer 1 1 _ upgradedServer_open (by decide +kernel)

end LwipExt.Http
