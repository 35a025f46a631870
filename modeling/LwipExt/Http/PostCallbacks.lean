import LwipExt.Http.PostEnd
import LwipExt.Http.Main

/-!
The callbacks of a connection that receives a POST.

`extHttpPostRequest_begins` says that the request leaves a connection at the start of a `PostRun`,
or behind its first segment; the other theorems say that each callback of the server takes the
connection some events further along a run. `Follows` relates the server to the run: as long as the
connection is open both hold the same structure, and the flash and the NULL pointers are the same
to the end.
-/

namespace LwipExt.Http

open Lib PostRun

/-- The connection `c` of the server is where the run is. -/
structure Follows (s : Server) (c : ConnId) (st : PostRun) : Prop where
  live : (s.mem c).live = st.live
  session : st.live → s.session c = st.ss
  firmware : s.firmware = st.ss.io.firmware
  dataFaults : s.dataFaults = st.ss.io.dataFaults

namespace Follows

variable {s : Server} {c : ConnId} {st : PostRun}

section Frame

variable (s c)

theorem onConn_firmware {α : Type} (f : Session → Session × α) :
    (s.onConn c f).1.firmware = (f (s.session c)).1.io.firmware := by
  simp [Server.onConn, Server.store]

theorem onConn_dataFaults {α : Type} (f : Session → Session × α) :
    (s.onConn c f).1.dataFaults = (f (s.session c)).1.io.dataFaults := by
  simp [Server.onConn, Server.store]

theorem free_firmware :
    (s.extHttpConnFree c).firmware = s.firmware ∧
      (s.extHttpConnFree c).dataFaults = s.dataFaults := by
  obtain ⟨-, -, firmware, faults⟩ := Server.removeConnection_frame
    (s.assign c fun mhc => { mhc with handle := none, req := none }) c
  exact ⟨firmware.trans (onConn_firmware s c _), faults.trans (onConn_dataFaults s c _)⟩

theorem tcpClose_firmware (p : PcbId) :
    (s.tcpClose p).firmware = s.firmware ∧ (s.tcpClose p).dataFaults = s.dataFaults := by
  unfold Server.tcpClose
  dsimp only
  split
  · exact ⟨rfl, rfl⟩
  · exact ⟨rfl, rfl⟩

/-- Closing a connection reaches the flash only through `finishBeforeClose`. -/
theorem closeOrAbort_firmware (p : PcbId) (abort : Bool) :
    (s.extHttpConnCloseOrAbort (some c) p abort).firmware =
        (finishBeforeClose (s.session c)).io.firmware ∧
      (s.extHttpConnCloseOrAbort (some c) p abort).dataFaults =
        (finishBeforeClose (s.session c)).io.dataFaults := by
  have finished := onConn_firmware s c fun ss => (finishBeforeClose ss, ())
  have finished' := onConn_dataFaults s c fun ss => (finishBeforeClose ss, ())
  obtain ⟨freed, freed'⟩ := free_firmware
    ((s.onConn c fun ss => (finishBeforeClose ss, ())).1.resetCallbacks p) c
  unfold Server.extHttpConnCloseOrAbort
  dsimp only
  split
  · exact ⟨freed.trans finished, freed'.trans finished'⟩
  · obtain ⟨closed, closed'⟩ := tcpClose_firmware
      (((s.onConn c fun ss => (finishBeforeClose ss, ())).1.resetCallbacks p).extHttpConnFree c) p
    exact ⟨closed.trans (freed.trans finished), closed'.trans (freed'.trans finished')⟩

end Frame

/-- Code that is run on the connection. -/
theorem onConn (follows : Follows s c st) (live : st.live) {α : Type}
    (f : Session → Session × α) : Follows (s.onConn c f).1 c { st with ss := (f st.ss).1 } where
  live := (Server.onConn_live s c f c).trans follows.live
  session _ := by rw [Server.onConn_session, follows.session live]
  firmware := by rw [onConn_firmware, follows.session live]
  dataFaults := by rw [onConn_dataFaults, follows.session live]

/-- The connection is closed. -/
theorem closed (follows : Follows s c st) (live : st.live) (p : PcbId) (abort : Bool) :
    Follows (s.extHttpConnCloseOrAbort (some c) p abort) c (st.step .close) := by
  obtain ⟨firmware, faults⟩ := closeOrAbort_firmware s c p abort
  rw [close_step live]
  rw [follows.session live] at firmware faults
  exact ⟨Server.extHttpConnCloseOrAbort_live s c p abort, nofun, firmware, faults⟩

/-- The connection ends itself. -/
theorem eof (follows : Follows s c st) (live : st.live) :
    Follows (s.extHttpConnEof c) c (st.step .close) := by
  have open_ : (s.mem c).live := follows.live.trans live
  unfold Server.extHttpConnEof
  rw [Server.touch_of_live s c open_]
  exact follows.closed live _ false

/-- A field that is assigned behind the end of the connection changes nothing else. -/
theorem assign_closed (follows : Follows s c st) (closed : st.live = false)
    (g : ExtHttpConn → ExtHttpConn) : Follows (s.assign c g) c st where
  live := (Server.assign_live s c g c).trans follows.live
  session live := by
    rw [closed] at live
    cases live
  firmware := (onConn_firmware s c _).trans follows.firmware
  dataFaults := (onConn_dataFaults s c _).trans follows.dataFaults

/-- Events of a call of `extHttpSend` behind the write. -/
def Sends (es : List PostEvent) : Prop := ∀ e ∈ es, e = .pageSent ∨ e = .close

section Send

variable (follows : Follows s c st) (live : st.live)

include follows live

theorem conn_eq : (s.mem c).conn = st.ss.mhc := congrArg Session.mhc (follows.session live)

/-- `_mHttpSendRest`. -/
theorem sendRest (rest : st.ss.mhc.reqType = .rest ∧ st.ss.mhc.isFinished) :
    ∃ es, Sends es ∧
      Follows (s.mHttpSendRest c).1 c (run step { st with ss := sendPost st.ss } es) := by
  have open_ : (s.mem c).live := follows.live.trans live
  unfold sendPost Server.mHttpSendRest
  rw [if_pos rest, Server.touch_of_live s c open_]
  dsimp only
  rw [follows.conn_eq live]
  split
  · exact ⟨[], nofun, follows⟩
  · have wrote := follows.onConn live sendRestData
    generalize s.onConn c sendRestData = written at wrote
    obtain ⟨t, ok⟩ := written
    dsimp only at wrote ⊢
    have open' : (t.mem c).live := wrote.live.trans live
    split
    · rw [Server.touch_of_live t c open']
      split
      · exact ⟨[.close], by simp [Sends], wrote.eof live⟩
      · exact ⟨[], nofun, wrote⟩
    · exact ⟨[], nofun, wrote⟩

/-- The upload branch of `extHttpSend`. -/
theorem sendUpload (upload : st.ss.mhc.reqType = .upload ∧ 1 ≤ st.ss.mhc.uploadStatus.rank) :
    ∃ es, Sends es ∧
      Follows (s.sendUpload c).1 c (run step { st with ss := sendPost st.ss } es) := by
  have open_ : (s.mem c).live := follows.live.trans live
  have notRest : ¬ (st.ss.mhc.reqType = .rest ∧ st.ss.mhc.isFinished) := by
    rw [upload.1]
    exact fun rest => nomatch rest.1
  unfold sendPost Server.sendUpload
  rw [if_neg notRest, if_pos upload, Server.touch_of_live s c open_]
  dsimp only
  rw [follows.conn_eq live]
  split
  · set len := sub16 st.ss.mhc.updateLength st.ss.mhc.updateIndex
    have wrote := follows.onConn live fun ss =>
      writeSome ss (bufRead ss.mhc.updateProgress 0 len) len
    generalize s.onConn c _ = written at wrote
    obtain ⟨t, taken⟩ := written
    dsimp only at wrote ⊢
    split
    · refine ⟨[.pageSent], by simp [Sends], ?_⟩
      rw [run_cons, run_nil, step, if_pos live]
      exact wrote.onConn live _
    · refine ⟨[.close], by simp [Sends], ?_⟩
      exact (wrote.eof live).assign_closed (close_live live) _
  · refine ⟨[.pageSent], by simp [Sends], ?_⟩
    rw [run_cons, run_nil, step, if_pos live]
    exact follows.onConn live _

/-- A call of `extHttpSend`. -/
theorem send (kind : st.ss.mhc.reqType = .rest ∨ st.ss.mhc.reqType = .upload) :
    ∃ es, Sends es ∧
      Follows (s.extHttpSend c).1 c (run step st (.send st.ss.io.tcp :: es)) := by
  have open_ : (s.mem c).live := follows.live.trans live
  have stepped : st.step (.send st.ss.io.tcp) = { st with ss := sendPost st.ss } := if_pos live
  have only (kind' : ReqType) (other : kind' ≠ .rest ∧ kind' ≠ .upload) :
      ¬ st.ss.mhc.reqType = kind' := by
    rintro rfl
    exact kind.elim other.1 other.2
  unfold Server.extHttpSend
  rw [Server.touch_of_live s c open_]
  dsimp only
  rw [follows.conn_eq live, if_neg (only .file ⟨nofun, nofun⟩),
    if_neg (only .webSocket ⟨nofun, nofun⟩), if_neg (only .cgi ⟨nofun, nofun⟩)]
  simp only [run_cons, stepped]
  split
  · rename_i rest
    exact follows.sendRest live rest
  · rename_i notRest
    split
    · rename_i upload
      exact follows.sendUpload live upload
    · rename_i notUpload
      refine ⟨[], nofun, ?_⟩
      rw [run_nil, sendPost, if_neg notRest, if_neg notUpload]
      exact follows

end Send

/-! ### The callbacks -/

theorem retries_step (live : st.live) (n : Nat) :
    st.step (.retries n) = { st with ss := st.ss.set fun mhc => { mhc with retries := n } } :=
  if_pos live

/-- Data does not change the kind of the request. -/
theorem rxDataPbuf_kind {ss : Session} (p : Pbuf)
    (kind : ss.mhc.reqType = .rest ∨ ss.mhc.reqType = .upload) :
    (extHttpPostRxDataPbuf ss p).1.mhc.reqType = .rest ∨
      (extHttpPostRxDataPbuf ss p).1.mhc.reqType = .upload := by
  rcases kind with rest | upload
  · exact .inl (segment_rest rest p).1
  right
  have kept := (extHttpPostDataRecv_uploads (counted ss p) p upload).1.reqType.trans upload
  generalize received : extHttpPostDataRecv (counted ss p) p = result at kept
  obtain ⟨ss', ok⟩ := result
  cases ok with
  | false =>
      rw [(rxDataPbuf_refused received).1]
      exact kept
  | true =>
      by_cases more : ss'.mhc.postDataLeft ≠ 0
      · rw [(rxDataPbuf_more received more).1]
        exact kept
      · rw [(rxDataPbuf_done received (not_not.mp more)).1]
        exact (extHttpPostDataFinished_sameSend ss').reqType.trans kept

section Callbacks

variable (follows : Follows s c st) (live : st.live)
  (kind : st.ss.mhc.reqType = .rest ∨ st.ss.mhc.reqType = .upload)

include follows live

theorem retries (n : Nat) :
    Follows (s.assign c fun mhc => { mhc with retries := n }) c (st.step (.retries n)) := by
  rw [retries_step live]
  exact follows.onConn live _

theorem segment (p : Pbuf) :
    Follows (s.onConn c fun ss => extHttpPostRxDataPbuf ss p).1 c (st.step (.segment p)) := by
  have received := follows.onConn live fun ss => extHttpPostRxDataPbuf ss p
  rw [segment_step live]
  exact ⟨received.live, received.session, received.firmware, received.dataFaults⟩

include kind

/-- `__extHttpSent`. -/
theorem sent :
    ∃ es, Sends es ∧ Follows (s.extHttpSent (some c)) c
      (run step st (.retries 0 :: .send st.ss.io.tcp :: es)) := by
  have counted := follows.retries live 0
  rw [retries_step live] at counted
  obtain ⟨es, only, sends⟩ := counted.send live kind
  refine ⟨es, only, ?_⟩
  rw [run_cons, retries_step live]
  exact sends

/-- `extHttpPoll`. -/
theorem poll (p : PcbId) :
    ∃ es, (es = [.close] ∨ ∃ rest, Sends rest ∧ es = .send st.ss.io.tcp :: rest) ∧
      Follows (s.extHttpPoll (some c) p) c
        (run step st (.retries ((st.ss.mhc.retries + 1) % 256) :: es)) := by
  have counted : Follows (s.assign c fun mhc => { mhc with retries := (mhc.retries + 1) % 256 }) c
      (st.step (.retries ((st.ss.mhc.retries + 1) % 256))) := by
    rw [retries_step live]
    exact follows.onConn live _
  rw [retries_step live] at counted
  unfold Server.extHttpPoll
  dsimp only
  split
  · refine ⟨[.close], .inl rfl, ?_⟩
    rw [run_cons, retries_step live]
    exact counted.closed live p false
  · obtain ⟨es, only, sends⟩ := counted.send live kind
    refine ⟨.send st.ss.io.tcp :: es, .inr ⟨es, only, rfl⟩, ?_⟩
    rw [run_cons, retries_step live]
    exact sends

/-- `__extHttpRecv` with a segment. -/
theorem recv (p : Pbuf) :
    ∃ tcp es, Sends es ∧ Follows (s.recvPost c p) c
      (run step st (.retries 0 :: .segment p :: .send tcp :: es)) := by
  have counted := follows.retries live 0
  have received := counted.segment (by rw [retries_step live]; exact live) p
  have live' : ((st.step (.retries 0)).step (.segment p)).live := by
    rw [segment_step (by rw [retries_step live]; exact live), retries_step live]
    exact live
  have kind' : ((st.step (.retries 0)).step (.segment p)).ss.mhc.reqType = .rest ∨
      ((st.step (.retries 0)).step (.segment p)).ss.mhc.reqType = .upload := by
    rw [segment_step (by rw [retries_step live]; exact live), retries_step live]
    exact rxDataPbuf_kind p kind
  obtain ⟨es, only, sends⟩ := received.send live' kind'
  exact ⟨_, es, only, sends⟩

end Callbacks

end Follows

/-! ### The request -/

/-- The structure of a connection before its first request. -/
structure Fresh (ss : Session) : Prop where
  reqType : ss.mhc.reqType = .rest
  index : ss.mhc.dataSendIndex < 65536

/-- The session is at the start of a run, or behind its first segment. -/
def Begun (ss : Session) : Prop :=
  ∃ start, Accepted start ∧ (ss = start ∨ ∃ p, ss = ((begin start).step (.segment p)).ss)

theorem begun_of_accepted {ss : Session} (accepted : Accepted ss) : Begun ss :=
  ⟨ss, accepted, .inl rfl⟩

theorem passFirstData_begun {ss : Session} (accepted : Accepted ss) (dataOffset contentLen : Nat) :
    Begun (passFirstData ss dataOffset contentLen).1 := by
  have counted : Accepted (ss.set fun mhc => { mhc with postDataLeft := contentLen }) :=
    ⟨accepted.kind, accepted.index⟩
  unfold passFirstData
  dsimp only
  split
  · refine ⟨_, ?_, .inr ⟨_, (begin_segment _ _).symm⟩⟩
    exact ⟨accepted.kind, accepted.index⟩
  · split
    · exact ⟨_, counted, .inr ⟨[[]], (begin_segment _ [[]]).symm⟩⟩
    · exact begun_of_accepted counted

theorem extHttpParseContentLength_fresh {ss : Session} (fresh : Fresh ss) (data : Bytes)
    (headerEnd : Nat) :
    Fresh { ss with mhc := (extHttpParseContentLength ss.mhc data headerEnd).1 } := by
  have refused (text : Bytes) :
      Fresh { ss with mhc := extHttpRestError ss.mhc webResBadRequest text } :=
    ⟨rfl, Nat.zero_lt_succ _⟩
  unfold extHttpParseContentLength
  dsimp only
  split
  · exact refused _
  · split
    · exact refused _
    · split
      · exact refused _
      · exact fresh

/-- The request leaves the connection at the start of a run, or behind its first segment. -/
theorem extHttpPostRequest_begun {ss : Session} (fresh : Fresh ss) (data : Bytes) :
    Begun (extHttpPostRequest ss data).1 := by
  unfold extHttpPostRequest
  dsimp only
  split
  · exact begun_of_accepted ⟨.inl fresh.reqType, fresh.index⟩
  · rename_i headerEnd _
    have parsed := extHttpParseContentLength_fresh fresh data headerEnd
    generalize extHttpParseContentLength ss.mhc data headerEnd = result at parsed
    obtain ⟨mhc, length⟩ := result
    cases length with
    | none => exact begun_of_accepted ⟨.inl parsed.reqType, parsed.index⟩
    | some contentLen =>
        dsimp only at parsed ⊢
        split
        · rename_i position _
          generalize snprintf uriBufSize (boundaryAt (data.drop (position + 9))) = boundary
          split
          · refine passFirstData_begun ?_ _ contentLen
            exact ⟨.inr ⟨rfl, .inl rfl⟩, parsed.index⟩
          · exact begun_of_accepted ⟨.inr ⟨rfl, .inr rfl⟩, parsed.index⟩
        · split
          · rename_i begins
            obtain rfl := extNmosPostDataBegin_true begins
            refine passFirstData_begun ?_ _ contentLen
            exact ⟨.inl rfl, parsed.index⟩
          · rename_i refused
            refine begun_of_accepted ?_
            have answered := refused
            unfold extNmosPostDataBegin at answered
            split at answered
            · cases answered
            · obtain ⟨rfl, -⟩ := Prod.mk.inj answered
              exact ⟨.inl rfl, Nat.zero_lt_succ _⟩

end LwipExt.Http
