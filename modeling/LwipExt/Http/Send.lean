import LwipExt.Http.Server

/-!
`exts/http/extHttpSend.c`: send what a connection has to send, as far as TCP takes it.

Every branch of `extHttpSend` may end the connection through `extHttpConnEof`, which
frees its structure; the statements behind such a call are kept, with their accesses.
-/

namespace LwipExt.Http

/-- `MHTTP_NO_DATA_TO_SEND`. -/
def noDataToSend : Nat := 0

/-- `MHTTP_DATA_TO_SEND_CONTINUE`. -/
def dataToSendContinue : Nat := 1

/-- `_extHttpSendOneHeader`: the number of header bytes TCP took. A header longer than
the send buffer was is not tried. -/
def extHttpSendOneHeader (ss : Session) (hdr : Bytes) (sndBufSize : Nat) : Session × Nat :=
  if sndBufSize < hdr.length then (ss, 0)
  else
    let (ss, err, len) := extHttpWrite ss hdr hdr.length
    if err = .ok then (ss, len) else (ss, 0)

/-- `extHttpWrite` where only the length it reports is used. -/
def writeSome (ss : Session) (ptr : Bytes) (length : Nat) : Session × Nat :=
  ((extHttpWrite ss ptr length).1, (extHttpWrite ss ptr length).2.2)

/-- The Content-Length header of `_mHttpSendRest`. -/
def contentLengthLine (contentLength : Nat) : Bytes :=
  contentLengthHeader ++ decimal contentLength ++ crlfcrlf

/-- The headers of `_mHttpSendRest`, each offered once. -/
def sendRestHeaders (ss : Session) : Session :=
  let sndBufSize := ss.io.tcp.sndBuf
  let (ss, len) := extHttpSendOneHeader ss (extHttpFindStatusHeader ss.mhc.httpStatusCode) sndBufSize
  let sndBufSize := sub16 sndBufSize len
  let (ss, len) := extHttpSendOneHeader ss httpCommonHeader sndBufSize
  let sndBufSize := sub16 sndBufSize len
  (extHttpSendOneHeader ss (contentLengthLine ss.mhc.contentLength) sndBufSize).1

/-- The write of the body in `_mHttpSendRest`; whether it succeeded. -/
def sendRestBody (ss : Session) : Session × Bool :=
  let len := sub16 ss.mhc.contentLength ss.mhc.dataSendIndex
  let (ss, err, len) := extHttpWrite ss (bufRead ss.mhc.data ss.mhc.dataSendIndex len) len
  if err = .ok then
    (ss.set fun mhc => { mhc with dataSendIndex := u16 (mhc.dataSendIndex + len) }, true)
  else (ss, false)

/-- `_mHttpSendRest` up to the test for the end: the headers when nothing of the body
was sent yet, then the rest of the body. -/
def sendRestData (ss : Session) : Session × Bool :=
  sendRestBody (if ss.mhc.dataSendIndex = 0 then sendRestHeaders ss else ss)

/-- The write of `_mHttpSendFile`; the result is `data_to_send`. -/
def sendFileData (ss : Session) : Session × Nat :=
  let file := ss.mhc.file.getD []
  let (ss, err, len) := extHttpWrite ss file (min ss.mhc.left 0xffff)
  if err = .ok then
    (ss.set fun mhc => { mhc with
      file := mhc.file.map (·.drop len), left := mhc.left - len }, dataToSendContinue)
  else (ss, noDataToSend)

namespace Server

/-- `_extHttpSendCheckEof`: without a block to read next, the file is finished. The
result is whether there is more to send. -/
def extHttpSendCheckEof (s : Server) (c : ConnId) : Server × Bool :=
  let s := s.touch c
  match (s.mem c).conn.handle with
  | none => (s.extHttpConnEof c, false)
  | some file => if mfsBytesLeft file ≤ 0 then (s.extHttpConnEof c, false) else (s, true)

/-- `_mHttpSendFile`. -/
def mHttpSendFile (s : Server) (c : ConnId) : Server × Nat :=
  let s := s.touch c
  let (s, more) := if (s.mem c).conn.left = 0 then s.extHttpSendCheckEof c else (s, true)
  if more then
    let (s, ret) := s.onConn c sendFileData
    let s := s.touch c
    let bytesLeft := ((s.mem c).conn.handle.map mfsBytesLeft).getD 0
    if (s.mem c).conn.left = 0 ∧ bytesLeft ≤ 0 then (s.extHttpConnEof c, noDataToSend)
    else (s, ret)
  else (s, noDataToSend)

/-- `_mHttpSendRest`; whether it returned `EXIT_SUCCESS`. -/
def mHttpSendRest (s : Server) (c : ConnId) : Server × Bool :=
  let s := s.touch c
  let mhc := (s.mem c).conn
  if mhc.contentLength = mhc.dataSendIndex ∨ mhc.contentLength = 0 then (s, true)
  else
    let (s, success) := s.onConn c sendRestData
    if success then
      let s := s.touch c
      let mhc := (s.mem c).conn
      if mhc.contentLength = mhc.dataSendIndex then (s.extHttpConnEof c, true) else (s, true)
    else (s, false)

/-- The websocket branch of `extHttpSend`. The reply is offered whole, on every call. -/
def sendWebSocket (s : Server) (c : ConnId) : Server × Nat :=
  let s := s.touch c
  if (s.mem c).conn.httpStatusCode = webResRequestOk then
    s.onConn c fun ss =>
      let len := ss.mhc.dataSendIndex
      ((extHttpWrite ss (bufRead ss.mhc.data 0 len) len).1, dataToSendContinue)
  else (s, noDataToSend)

/-- The CGI branch of `extHttpSend`. The write starts at `mhc->data` on every call,
and `dataSendIndex` is assigned behind `extHttpConnEof`, too. -/
def sendCgi (s : Server) (c : ConnId) : Server × Nat :=
  let s := s.touch c
  let rest := ((s.mem c).conn.contentLength : Int) - (s.mem c).conn.dataSendIndex
  let len := sub16 (s.mem c).conn.contentLength (s.mem c).conn.dataSendIndex
  let (s, taken) := s.onConn c fun ss => writeSome ss (bufRead ss.mhc.data 0 len) len
  let (s, ret) := if (taken : Int) < rest then (s, dataToSendContinue)
    else (s.extHttpConnEof c, noDataToSend)
  (s.assign c fun mhc => { mhc with dataSendIndex := u16 (mhc.dataSendIndex + taken) }, ret)

/-- The upload branch of `extHttpSend`. The result page counts as sent after one
write, and `updateLength` is assigned behind `extHttpConnEof`, too. -/
def sendUpload (s : Server) (c : ConnId) : Server × Nat :=
  let s := s.touch c
  let rest := ((s.mem c).conn.updateLength : Int) - (s.mem c).conn.updateIndex
  let len := sub16 (s.mem c).conn.updateLength (s.mem c).conn.updateIndex
  let s := if 0 < len then
      let (s, taken) := s.onConn c fun ss => writeSome ss (bufRead ss.mhc.updateProgress 0 len) len
      if (taken : Int) < rest then s else s.extHttpConnEof c
    else s
  (s.assign c fun mhc => { mhc with updateLength := 0 }, dataToSendContinue)

/-- `extHttpSend`. -/
def extHttpSend (s : Server) (c : ConnId) : Server × Nat :=
  let s := s.touch c
  let mhc := (s.mem c).conn
  if mhc.reqType = .rest ∧ mhc.isFinished then
    let (s, success) := s.mHttpSendRest c
    (s, if success then dataToSendContinue else noDataToSend)
  else if mhc.reqType = .file then s.mHttpSendFile c
  else if mhc.reqType = .webSocket then s.sendWebSocket c
  else if mhc.reqType = .cgi then s.sendCgi c
  else if mhc.reqType = .upload ∧ 1 ≤ mhc.uploadStatus.rank then s.sendUpload c
  else (s, noDataToSend)

/-! ### Calls of `extHttpSend` -/

/-- The structure at `c` holds `mhc`, for a connection on the pcb `p`. -/
def withConn (s : Server) (c : ConnId) (p : PcbId) (mhc : ExtHttpConn) : Server :=
  { s with mem := Function.update s.mem c { live := true, pcb := p, conn := mhc } }

/-- The send side of the pcb of a connection is `tcp`. -/
def withTcp (s : Server) (c : ConnId) (tcp : Tcp) : Server :=
  s.setPcb (s.mem c).pcb fun pcb => { pcb with tcp }

/-- One call of `extHttpSend` during which TCP answers as `tcp`. The callbacks make it
as long as the connection exists. -/
def sendCall (s : Server) (c : ConnId) (tcp : Tcp) : Server :=
  if (s.mem c).live then ((s.withTcp c tcp).extHttpSend c).1 else s

section Calls

variable (s : Server) (c : ConnId)

@[simp] theorem withConn_mem (p : PcbId) (mhc : ExtHttpConn) :
    (s.withConn c p mhc).mem c = { live := true, pcb := p, conn := mhc } := by
  simp [withConn]

@[simp] theorem withTcp_mem (tcp : Tcp) : (s.withTcp c tcp).mem = s.mem := rfl

@[simp] theorem withTcp_accepted (tcp : Tcp) : (s.withTcp c tcp).accepted c = s.accepted c :=
  setPcb_accepted s c _ fun _ => rfl

@[simp] theorem withTcp_tcp (tcp : Tcp) : ((s.withTcp c tcp).session c).io.tcp = tcp := by
  simp [withTcp, session, setPcb]

theorem sendCall_of_live (tcp : Tcp) (live : (s.mem c).live) :
    s.sendCall c tcp = ((s.withTcp c tcp).extHttpSend c).1 := by
  simp [sendCall, live]

theorem sendCall_of_dead (tcp : Tcp) (dead : (s.mem c).live = false) :
    s.sendCall c tcp = s := by
  simp [sendCall, dead]

end Calls

end Server

end LwipExt.Http
