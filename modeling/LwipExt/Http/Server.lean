import LwipExt.Http.Request
import LwipExt.Lib.Run

/-!
The connections of the server and how they end: `exts/http/extHttpConns.c`.

`Server` holds the heap cells of the `ExtHttpConn` structures, the list of live
connections, and what each pcb calls back. A cell that was freed keeps its stale
contents. Every access goes through `touch`, which records `useAfterFree` when the
cell is not allocated, and a NULL connection argument that is used records
`nullConn`; the run goes on, so that a fault is a fact about the state it leaves.

The singly linked list `_extHttpConns` is the list of its nodes, newest first. A
traversal touches the nodes it visits.
-/

namespace LwipExt.Http

/-- Address of an `ExtHttpConn`. -/
abbrev ConnId := Nat

/-- Address of a `tcp_pcb`. -/
abbrev PcbId := Nat

/-- A heap block that holds, or held, an `ExtHttpConn`, with its `pcb` field. -/
structure Cell where
  live : Bool := false
  pcb : PcbId := 0
  conn : ExtHttpConn := {}
  deriving DecidableEq, Repr

/-- A pcb: the argument of its callbacks, whether `recv`, `sent` and `err` are
registered, whether `poll` is, what the coming `tcp_close` returns, and its send
side. -/
structure Pcb where
  arg : Option ConnId := none
  registered : Bool := false
  poll : Bool := false
  closeOk : Bool := true
  tcp : Tcp := ⟨0, 0, []⟩
  accepted : Bytes := []
  deriving DecidableEq, Repr

/-- An access to an `ExtHttpConn` that must never be made. -/
inductive Fault where
  | useAfterFree (c : ConnId)
  | nullConn
  deriving DecidableEq, Repr

/-- State of the HTTP server. -/
structure Server where
  mem : ConnId → Cell := fun _ => {}
  conns : List ConnId := []
  pcbs : PcbId → Pcb := fun _ => {}
  firmware : Firmware := {}
  currentHttpConns : Int := 0
  dataFaults : List DataFault := []
  faults : List Fault := []

/-- The part of `_extHttpConnCloseOrAbort` before the callbacks are reset. -/
def finishBeforeClose (ss : Session) : Session :=
  let ss := if ss.mhc.postDataLeft ≠ 0 then extHttpPostDataFinished ss else ss
  if ss.mhc.reqType = .webSocket then (extHttpWebSocketSendClose ss).1 else ss

namespace Server

/-! ### Access to connections -/

/-- Access to a field of a connection. -/
def touch (s : Server) (c : ConnId) : Server :=
  if (s.mem c).live then s else { s with faults := s.faults ++ [.useAfterFree c] }

/-- The structure of a connection together with what its code reaches. -/
def session (s : Server) (c : ConnId) : Session :=
  let pcb := s.pcbs (s.mem c).pcb
  { io := ⟨pcb.tcp, pcb.accepted, s.firmware, s.dataFaults⟩, mhc := (s.mem c).conn }

/-- Store what the code of a connection computed. -/
def store (s : Server) (c : ConnId) (ss : Session) : Server :=
  let pcb := (s.mem c).pcb
  { s with
    mem := Function.update s.mem c { s.mem c with conn := ss.mhc }
    pcbs := Function.update s.pcbs pcb
      { s.pcbs pcb with tcp := ss.io.tcp, accepted := ss.io.accepted }
    firmware := ss.io.firmware
    dataFaults := ss.io.dataFaults }

/-- Run code on a connection. -/
def onConn {α : Type} (s : Server) (c : ConnId) (f : Session → Session × α) : Server × α :=
  let s := s.touch c
  let (ss, a) := f (s.session c)
  (s.store c ss, a)

/-- Assign fields of a connection. -/
def assign (s : Server) (c : ConnId) (f : ExtHttpConn → ExtHttpConn) : Server :=
  (s.onConn c fun ss => (ss.set f, ())).1

/-- Change a pcb. -/
def setPcb (s : Server) (p : PcbId) (f : Pcb → Pcb) : Server :=
  { s with pcbs := Function.update s.pcbs p (f (s.pcbs p)) }

/-! ### The connection list -/

/-- `_addConnection`. -/
def addConnection (s : Server) (c : ConnId) : Server :=
  let s := s.touch c
  { s with conns := c :: s.conns }

/-- `_removeConnection`: walk to the connection and unlink it. -/
def removeConnection (s : Server) (c : ConnId) : Server :=
  let visited := s.conns.takeWhile (· ≠ c)
  let s := visited.foldl touch s
  if c ∈ s.conns then
    let s := s.touch c
    { s with conns := s.conns.erase c }
  else s

/-- `_extHttpStateEof` and `HTTP_FREE_HTTP_STATE`: close the file, free the request
queue, free the structure. -/
def extHttpConnFree (s : Server) (c : ConnId) : Server :=
  let s := s.assign c fun mhc => { mhc with handle := none, req := none }
  let s := s.removeConnection c
  { s with mem := Function.update s.mem c { s.mem c with live := false } }

/-! ### Closing -/

/-- The callbacks of a pcb are reset. -/
def resetCallbacks (s : Server) (p : PcbId) : Server :=
  s.setPcb p fun pcb => { pcb with arg := none, registered := false, poll := false }

/-- `tcp_close` at the end of `_extHttpConnCloseOrAbort`. When it fails, `extHttpPoll`
is registered again, without an argument. -/
def tcpClose (s : Server) (p : PcbId) : Server :=
  let s := { s with currentHttpConns := s.currentHttpConns - 1 }
  if (s.pcbs p).closeOk then s else s.setPcb p fun pcb => { pcb with poll := true }

/-- `_extHttpConnCloseOrAbort`. A NULL connection is used all the same, for its
`nodeInfo`. -/
def extHttpConnCloseOrAbort (s : Server) (conn : Option ConnId) (p : PcbId) (abort : Bool) :
    Server :=
  let s := match conn with
    | some c => (s.onConn c fun ss => (finishBeforeClose ss, ())).1
    | none => { s with faults := s.faults ++ [Fault.nullConn] }
  let s := s.resetCallbacks p
  let s := match conn with
    | some c => s.extHttpConnFree c
    | none => s
  if abort then s else s.tcpClose p

/-- `extHttpConnClose`. -/
def extHttpConnClose (s : Server) (conn : Option ConnId) (p : PcbId) : Server :=
  s.extHttpConnCloseOrAbort conn p false

/-- `extHttpConnEof`; there is no keep-alive. -/
def extHttpConnEof (s : Server) (c : ConnId) : Server :=
  let s := s.touch c
  s.extHttpConnClose (some c) (s.mem c).pcb

/-- `_killOldestConnection`: with two connections or more, abort the last of the
list. -/
def killOldestConnection (s : Server) : Server :=
  let s := s.conns.foldl touch s
  match s.conns with
  | _ :: rest =>
      match rest.getLast? with
      | some oldest => s.extHttpConnCloseOrAbort (some oldest) (s.mem oldest).pcb true
      | none => s
  | [] => s

/-- `mem_malloc`: the block at `c`, when the allocator hands it out. -/
def malloc (s : Server) : Option ConnId → Option ConnId
  | some c => if (s.mem c).live then none else some c
  | none => none

/-- `extHttpConnAlloc`. `first` and `second` are what `mem_malloc` has to offer before
and after the eviction of the oldest connection. -/
def extHttpConnAlloc (s : Server) (p : PcbId) (first second : Option ConnId) :
    Server × Option ConnId :=
  let (s, block) := match s.malloc first with
    | some c => (s, some c)
    | none =>
        let s := s.killOldestConnection
        (s, s.malloc second)
  match block with
  | none => (s, none)
  | some c =>
      let s := { s with
        mem := Function.update s.mem c { live := true, pcb := p, conn := extHttpStateInit } }
      (s.addConnection c, some c)

/-! ### What an access changes

`touch` changes nothing but the record of faults, and nothing at all on a live
connection. Code run on a connection changes that connection, its pcb and the
firmware store. -/

section Frame

variable (s : Server) (c : ConnId)

@[simp] theorem touch_mem : (s.touch c).mem = s.mem := by unfold touch; split <;> rfl

@[simp] theorem touch_conns : (s.touch c).conns = s.conns := by unfold touch; split <;> rfl

@[simp] theorem touch_pcbs : (s.touch c).pcbs = s.pcbs := by unfold touch; split <;> rfl

@[simp] theorem touch_firmware : (s.touch c).firmware = s.firmware := by
  unfold touch; split <;> rfl

@[simp] theorem touch_dataFaults : (s.touch c).dataFaults = s.dataFaults := by
  unfold touch; split <;> rfl

@[simp] theorem touch_session (d : ConnId) : (s.touch c).session d = s.session d := by
  simp [session]

theorem touch_of_live (live : (s.mem c).live) : s.touch c = s := by simp [touch, live]

/-- A traversal changes nothing but the record of faults. -/
theorem foldl_touch_frame (l : List ConnId) :
    (l.foldl touch s).mem = s.mem ∧ (l.foldl touch s).conns = s.conns ∧
      (l.foldl touch s).pcbs = s.pcbs ∧ (l.foldl touch s).firmware = s.firmware ∧
      (l.foldl touch s).dataFaults = s.dataFaults := by
  induction l generalizing s with
  | nil => simp
  | cons d l ih => simpa using ih (s.touch d)

/-- A traversal of live connections changes nothing. -/
theorem foldl_touch_of_live {l : List ConnId} (live : ∀ d ∈ l, (s.mem d).live) :
    l.foldl touch s = s := by
  induction l with
  | nil => rfl
  | cons d l ih =>
      rw [List.foldl_cons, touch_of_live s d (live d List.mem_cons_self)]
      exact ih fun e mem => live e (List.mem_cons_of_mem d mem)

@[simp] theorem session_mhc : (s.session c).mhc = (s.mem c).conn := rfl

/-- What was stored is read back. -/
@[simp] theorem session_store (ss : Session) : (s.store c ss).session c = ss := by
  simp [session, store]

@[simp] theorem store_mem_self (ss : Session) :
    (s.store c ss).mem c = { s.mem c with conn := ss.mhc } := by
  simp [store]

@[simp] theorem store_conns (ss : Session) : (s.store c ss).conns = s.conns := rfl

@[simp] theorem store_faults (ss : Session) : (s.store c ss).faults = s.faults := rfl

theorem store_live (ss : Session) (d : ConnId) : ((s.store c ss).mem d).live = (s.mem d).live := by
  by_cases same : d = c
  · subst same; simp
  · simp [store, Function.update_of_ne same]

variable {α : Type} (f : Session → Session × α)

@[simp] theorem onConn_session : (s.onConn c f).1.session c = (f (s.session c)).1 := by
  simp [onConn]

@[simp] theorem onConn_snd : (s.onConn c f).2 = (f (s.session c)).2 := by simp [onConn]

@[simp] theorem onConn_conns : (s.onConn c f).1.conns = s.conns := by simp [onConn]

@[simp] theorem onConn_live (d : ConnId) : ((s.onConn c f).1.mem d).live = (s.mem d).live := by
  simp [onConn, store_live]

@[simp] theorem onConn_conn : ((s.onConn c f).1.mem c).conn = (f (s.session c)).1.mhc := by
  simp [onConn]

@[simp] theorem onConn_pcb : ((s.onConn c f).1.mem c).pcb = (s.mem c).pcb := by simp [onConn]

theorem onConn_faults (live : (s.mem c).live) : (s.onConn c f).1.faults = s.faults := by
  simp [onConn, touch_of_live s c live]

variable (g : ExtHttpConn → ExtHttpConn)

@[simp] theorem assign_session : (s.assign c g).session c = (s.session c).set g := by
  simp [assign]

@[simp] theorem assign_conn : ((s.assign c g).mem c).conn = g (s.mem c).conn := by
  simp [assign]

@[simp] theorem assign_live (d : ConnId) : ((s.assign c g).mem d).live = (s.mem d).live := by
  simp [assign]

@[simp] theorem assign_pcb : ((s.assign c g).mem c).pcb = (s.mem c).pcb := by simp [assign]

/-! ### What closing a connection does -/

/-- Unlinking a connection changes the list and the record of faults. -/
theorem removeConnection_frame :
    (s.removeConnection c).mem = s.mem ∧ (s.removeConnection c).pcbs = s.pcbs ∧
      (s.removeConnection c).firmware = s.firmware ∧
      (s.removeConnection c).dataFaults = s.dataFaults := by
  obtain ⟨mem, _, pcbs, firmware, data⟩ := foldl_touch_frame s (s.conns.takeWhile (· ≠ c))
  unfold removeConnection
  dsimp only
  split_ifs
  · simp only [touch_mem, touch_pcbs, touch_firmware, touch_dataFaults]
    exact ⟨mem, pcbs, firmware, data⟩
  · exact ⟨mem, pcbs, firmware, data⟩

/-- The bytes the pcb of a connection has accepted. -/
def accepted (s : Server) (c : ConnId) : Bytes := (s.pcbs (s.mem c).pcb).accepted

theorem session_accepted : (s.session c).io.accepted = s.accepted c := rfl

@[simp] theorem touch_accepted (d : ConnId) : (s.touch c).accepted d = s.accepted d := by
  simp [accepted]

@[simp] theorem onConn_accepted :
    (s.onConn c f).1.accepted c = (f (s.session c)).1.io.accepted := by
  rw [← session_accepted, onConn_session]

@[simp] theorem assign_accepted : (s.assign c g).accepted c = s.accepted c := by
  rw [← session_accepted, assign_session]
  rfl

@[simp] theorem extHttpConnFree_live : ((s.extHttpConnFree c).mem c).live = false := by
  simp [extHttpConnFree]

@[simp] theorem extHttpConnFree_accepted : (s.extHttpConnFree c).accepted c = s.accepted c := by
  obtain ⟨mem, pcbs, _, _⟩ :=
    removeConnection_frame (s.assign c fun mhc => { mhc with handle := none, req := none }) c
  have kept := assign_accepted s c fun mhc => { mhc with handle := none, req := none }
  rw [← kept]
  simp [extHttpConnFree, accepted, mem, pcbs]

variable (p : PcbId) (abort : Bool)

/-- Registering and resetting callbacks sends nothing. -/
theorem setPcb_accepted {h : Pcb → Pcb} (same : ∀ pcb, (h pcb).accepted = pcb.accepted) :
    (s.setPcb p h).accepted c = s.accepted c := by
  unfold setPcb accepted
  by_cases here : (s.mem c).pcb = p
  · simp [here, same]
  · simp [Function.update_of_ne here]

@[simp] theorem resetCallbacks_accepted : (s.resetCallbacks p).accepted c = s.accepted c :=
  setPcb_accepted s c p fun _ => rfl

@[simp] theorem tcpClose_mem : (s.tcpClose p).mem = s.mem := by
  unfold tcpClose
  dsimp only
  split_ifs <;> rfl

@[simp] theorem tcpClose_conns : (s.tcpClose p).conns = s.conns := by
  unfold tcpClose
  dsimp only
  split_ifs <;> rfl

@[simp] theorem tcpClose_faults : (s.tcpClose p).faults = s.faults := by
  unfold tcpClose
  dsimp only
  split_ifs <;> rfl

@[simp] theorem tcpClose_accepted : (s.tcpClose p).accepted c = s.accepted c := by
  unfold tcpClose
  dsimp only
  split_ifs
  · rfl
  · exact setPcb_accepted _ c p fun _ => rfl

/-- A closed connection is freed. -/
@[simp] theorem extHttpConnCloseOrAbort_live :
    ((s.extHttpConnCloseOrAbort (some c) p abort).mem c).live = false := by
  unfold extHttpConnCloseOrAbort
  dsimp only
  split_ifs <;> simp

/-- Closing a connection sends nothing but what `finishBeforeClose` sends. -/
theorem extHttpConnCloseOrAbort_accepted :
    (s.extHttpConnCloseOrAbort (some c) p abort).accepted c =
      (finishBeforeClose (s.session c)).io.accepted := by
  unfold extHttpConnCloseOrAbort
  dsimp only
  split_ifs <;> simp

@[simp] theorem extHttpConnEof_live : ((s.extHttpConnEof c).mem c).live = false := by
  simp [extHttpConnEof, extHttpConnClose]

theorem extHttpConnEof_accepted :
    (s.extHttpConnEof c).accepted c = (finishBeforeClose (s.session c)).io.accepted := by
  simp [extHttpConnEof, extHttpConnClose, extHttpConnCloseOrAbort_accepted]

end Frame

end Server

/-! ### What finishing a POST leaves alone -/

/-- The send side, the bytes sent and the kind of request are the same. -/
structure Session.SameSend (ss ss' : Session) : Prop where
  tcp : ss'.io.tcp = ss.io.tcp
  accepted : ss'.io.accepted = ss.io.accepted
  reqType : ss'.mhc.reqType = ss.mhc.reqType

namespace Session.SameSend

variable {ss ss' ss'' : Session}

theorem refl (ss : Session) : SameSend ss ss := ⟨rfl, rfl, rfl⟩

theorem trans (h : SameSend ss ss') (h' : SameSend ss' ss'') : SameSend ss ss'' :=
  ⟨h'.tcp.trans h.tcp, h'.accepted.trans h.accepted, h'.reqType.trans h.reqType⟩

/-- Assigning other fields. -/
theorem set (ss : Session) (f : ExtHttpConn → ExtHttpConn)
    (same : (f ss.mhc).reqType = ss.mhc.reqType) : SameSend ss (ss.set f) :=
  ⟨rfl, rfl, same⟩

theorem viaUploadCtx {call : Session → Session} (h : SameSend ss (call ss)) :
    SameSend ss (ss.viaUploadCtx call) := by
  unfold Session.viaUploadCtx
  split_ifs
  · exact h
  · exact ⟨rfl, rfl, rfl⟩

end Session.SameSend

section Finish

variable (ss : Session)

theorem extUploadWrite_sameSend (size : Nat) : ss.SameSend (extUploadWrite ss size).1 := by
  unfold extUploadWrite
  dsimp only
  split_ifs <;> exact ⟨rfl, rfl, rfl⟩

theorem findEndingBoundary_sameSend : ss.SameSend (findEndingBoundary ss).1 := by
  unfold findEndingBoundary
  dsimp only
  split <;> exact ⟨rfl, rfl, rfl⟩

/-- Finishing an upload or a REST POST sends nothing. -/
theorem extHttpPostDataFinished_sameSend : ss.SameSend (extHttpPostDataFinished ss) := by
  unfold extHttpPostDataFinished
  split_ifs with rest handled
  · exact .set _ _ (by simp [extNmosPostDataFinished, extHttpRestError, rest])
  · exact .refl _
  · refine .trans ?_ (.set _ _ rfl)
    refine .trans ?_ (.viaUploadCtx ⟨rfl, rfl, rfl⟩)
    refine .trans ?_ (.viaUploadCtx (extUploadWrite_sameSend _ _))
    refine .trans (findEndingBoundary_sameSend ss) (.set _ _ ?_)
    split_ifs <;> rfl

/-- Before a connection that is not a websocket is closed, nothing is sent. -/
theorem finishBeforeClose_accepted (plain : ss.mhc.reqType ≠ .webSocket) :
    (finishBeforeClose ss).io.accepted = ss.io.accepted := by
  have finished := extHttpPostDataFinished_sameSend ss
  unfold finishBeforeClose
  dsimp only
  split_ifs with pending isSocket
  · exact absurd (finished.reqType ▸ isSocket) plain
  · exact finished.accepted
  · rfl

end Finish

/-- The end of a connection that is not a websocket sends nothing. -/
theorem Server.extHttpConnEof_accepted_of_plain (s : Server) (c : ConnId)
    (plain : (s.mem c).conn.reqType ≠ .webSocket) :
    (s.extHttpConnEof c).accepted c = s.accepted c := by
  rw [extHttpConnEof_accepted, finishBeforeClose_accepted _ plain, session_accepted]

end LwipExt.Http
