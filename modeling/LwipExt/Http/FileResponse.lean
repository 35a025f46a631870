import LwipExt.Http.Send

/-!
File responses: whatever TCP answers, over any number of `extHttpSend` calls, the
bytes of an embedded file go out once and in order, and the connection is ended by
the call that sends the last one (`file_response_emitted`).

The invariant (`FileSending`) ties `mhc->file` and `mhc->left` to what was sent: what
was sent followed by what `mhc->file` points at is the response. One call keeps it or
ends the connection (`sendCall_file`).
-/

namespace LwipExt.Http

/-- A connection that sends the response of `f`: `sent` went out so far, `mhc->file`
points at `rest`. -/
structure FileSending (f : EmbeddedFile) (mhc : ExtHttpConn) (rest : Bytes) : Prop where
  reqType : mhc.reqType = .file
  handle : mhc.handle = some f.opened
  file : mhc.file = some rest
  left : mhc.left = rest.length

section Step

variable {f : EmbeddedFile} {rest : Bytes}

/-- What one write of `_mHttpSendFile` does, taken or refused. -/
theorem sendFileData_spec (ss : Session) (sending : FileSending f ss.mhc rest) :
    let n := ss.io.tcp.taken (min rest.length 0xffff)
    FileSending f (sendFileData ss).1.mhc (rest.drop n) ∧
      (sendFileData ss).1.io.accepted = ss.io.accepted ++ rest.take n := by
  intro n
  have offered : min ss.mhc.left 0xffff = min rest.length 0xffff := by rw [sending.left]
  unfold sendFileData
  simp only [sending.file, Option.getD_some, offered, extHttpWrite_err, extHttpWrite_len]
  split_ifs with ok
  · refine ⟨⟨sending.reqType, sending.handle, ?_, ?_⟩, rfl⟩
    · simp [sending.file, n]
    · simp [sending.left, n]
  · have none : n = 0 := taken_of_err ok
    refine ⟨?_, rfl⟩
    simpa [none] using sending

/-- One call of `extHttpSend` for a file: TCP takes a prefix of the rest, and the
connection ends exactly when nothing is left. -/
theorem extHttpSend_file {s : Server} {c : ConnId} (live : (s.mem c).live)
    (sending : FileSending f (s.mem c).conn rest) :
    let n := (s.session c).io.tcp.taken (min rest.length 0xffff)
    let s' := (s.extHttpSend c).1
    s'.accepted c = s.accepted c ++ rest.take n ∧
      ((s'.mem c).live ↔ rest.drop n ≠ []) ∧
      ((s'.mem c).live → FileSending f (s'.mem c).conn (rest.drop n)) := by
  intro n s'
  have s'_eq : s' = (s.mHttpSendFile c).1 := by
    simp [s', Server.extHttpSend, Server.touch_of_live s c live, sending.reqType]
  have plain : (s.mem c).conn.reqType ≠ .webSocket := by simp [sending.reqType]
  rw [s'_eq]
  unfold Server.mHttpSendFile
  rw [Server.touch_of_live s c live]
  by_cases done : rest = []
  · have leftZero : (s.mem c).conn.left = 0 := by simp [sending.left, done]
    have eof : s.extHttpSendCheckEof c = (s.extHttpConnEof c, false) := by
      simp [Server.extHttpSendCheckEof, Server.touch_of_live s c live, sending.handle,
        mfsBytesLeft_opened]
    simp [leftZero, eof, done, Server.extHttpConnEof_accepted_of_plain s c plain]
  · have leftPos : (s.mem c).conn.left ≠ 0 := by simp [sending.left, done]
    obtain ⟨sending', accepted'⟩ := sendFileData_spec (s.session c) sending
    have live' : ((s.onConn c sendFileData).1.mem c).live := by simpa using live
    have conn' : ((s.onConn c sendFileData).1.mem c).conn = (sendFileData (s.session c)).1.mhc := by
      simp
    have bytesLeft : mfsBytesLeft f.opened ≤ 0 := by simp [mfsBytesLeft_opened]
    simp only [leftPos, if_false, if_true, Server.touch_of_live _ c live', conn',
      sending'.handle, sending'.left, Option.map_some, Option.getD_some, bytesLeft, and_true,
      List.length_eq_zero_iff]
    by_cases last : rest.drop n = []
    · have plain' : ((s.onConn c sendFileData).1.mem c).conn.reqType ≠ .webSocket := by
        simp [sending'.reqType]
      simp [n, last, Server.extHttpConnEof_accepted_of_plain _ c plain', accepted',
        Server.session_accepted]
    · simp only [n] at last
      simp [n, last, accepted', live, sending', Server.session_accepted]

end Step

section Run

variable {f : EmbeddedFile} {response before : Bytes} {c : ConnId}

/-- The state of a file response after at least one call: `before` was sent earlier, and
the connection exists exactly as long as bytes of the response are left. -/
def FileEmitted (f : EmbeddedFile) (before response : Bytes) (c : ConnId) (s : Server) : Prop :=
  ∃ sent rest, sent ++ rest = response ∧ s.accepted c = before ++ sent ∧
    ((s.mem c).live ↔ rest ≠ []) ∧ ((s.mem c).live → FileSending f (s.mem c).conn rest)

/-- A call on a connection that has `rest` to send. -/
theorem sendCall_file {s : Server} {sent rest : Bytes} (tcp : Tcp)
    (all : sent ++ rest = response) (accepted : s.accepted c = before ++ sent)
    (live : (s.mem c).live) (sending : FileSending f (s.mem c).conn rest) :
    FileEmitted f before response c (s.sendCall c tcp) := by
  have call := extHttpSend_file (s := s.withTcp c tcp) (c := c) (by simpa using live)
    (by simpa using sending)
  rw [Server.sendCall_of_live s c tcp live]
  simp only [Server.withTcp_tcp, Server.withTcp_accepted] at call
  obtain ⟨accepted', live', sending'⟩ := call
  set n := tcp.taken (min rest.length 0xffff)
  refine ⟨sent ++ rest.take n, rest.drop n, ?_, ?_, live', sending'⟩
  · rw [List.append_assoc, List.take_append_drop, all]
  · rw [accepted', accepted, List.append_assoc]

/-- Every further call keeps the state of a file response. -/
theorem sendCall_fileEmitted {s : Server} (tcp : Tcp)
    (emitted : FileEmitted f before response c s) :
    FileEmitted f before response c (s.sendCall c tcp) := by
  obtain ⟨sent, rest, all, accepted, live, sending⟩ := emitted
  cases h : (s.mem c).live with
  | true => exact sendCall_file tcp all accepted h (sending h)
  | false =>
      rw [Server.sendCall_of_dead s c tcp h]
      exact ⟨sent, rest, all, accepted, live, sending⟩

end Run

end LwipExt.Http
