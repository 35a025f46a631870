import LwipExt.Http.Send
import LwipExt.Lib.Pieces

/-!
Dynamic pages: what `extHttpSend` emits of a CGI page in `mhc->data` and of the upload
result page in `mhc->updateProgress`.

The abstract sender is that of `Lib.Pieces`: it offers TCP what is left of the page
and goes on behind what was taken. The code does not refine it. Its CGI branch
reads every piece from the start of the page, and its upload branch forgets the page
after one write; `page_emitted_iff` says for which answers of TCP the two agree.
-/

namespace LwipExt.Http

/-- How many bytes TCP takes of a page over some calls of a sender that resumes. -/
def transmitted (length : Nat) (tcps : List Tcp) : Nat :=
  Lib.transmitted Tcp.taken length tcps

/-- The pieces TCP takes of a page, as offsets and lengths. -/
def pieces (length : Nat) (tcps : List Tcp) : List (Nat × Nat) :=
  Lib.pieces Tcp.taken length 0 tcps

/-- `final`, reached by the calls `tcps`, is as a sender leaves it that resumes behind
what was taken: the bytes accepted are the first of the page, and the connection is
ended when they are all of it. `before` was sent earlier. -/
structure PageEmitted (page before : Bytes) (c : ConnId) (tcps : List Tcp) (final : Server) :
    Prop where
  bytes : final.accepted c = before ++ page.take (transmitted page.length tcps)
  closed : tcps ≠ [] → ((final.mem c).live = false ↔ transmitted page.length tcps = page.length)

/-- A connection whose whole page waits to be sent. -/
inductive HoldsPage (mhc : ExtHttpConn) (page : Bytes) : Prop where
  | cgi (reqType : mhc.reqType = .cgi) (fresh : mhc.dataSendIndex = 0)
      (small : mhc.contentLength < 65536) (eq : page = bufRead mhc.data 0 mhc.contentLength)
  | upload (reqType : mhc.reqType = .upload) (begun : 1 ≤ mhc.uploadStatus.rank)
      (fresh : mhc.updateIndex = 0) (small : mhc.updateLength < 65536)
      (nonempty : 0 < mhc.updateLength)
      (eq : page = bufRead mhc.updateProgress 0 mhc.updateLength)

/-- The calls of `extHttpSend` on a connection. -/
def sends (s : Server) (c : ConnId) (tcps : List Tcp) : Server :=
  Lib.run (fun s tcp => s.sendCall c tcp) s tcps

/-- After the connection has ended there are no further calls. -/
theorem sends_of_dead {s : Server} {c : ConnId} (dead : (s.mem c).live = false)
    (tcps : List Tcp) : sends s c tcps = s := by
  induction tcps with
  | nil => rfl
  | cons tcp tcps ih =>
      rw [sends, Lib.run_cons, Server.sendCall_of_dead s c tcp dead]
      exact ih

section Cgi

variable {s : Server} {c : ConnId} {page : Bytes} {o : Nat}

/-- A connection that has sent a CGI page up to offset `o`. -/
structure CgiSending (mhc : ExtHttpConn) (page : Bytes) (o : Nat) : Prop where
  reqType : mhc.reqType = .cgi
  index : mhc.dataSendIndex = o
  length : mhc.contentLength = page.length
  small : page.length < 65536
  within : o ≤ page.length
  page_eq : page = bufRead mhc.data 0 mhc.contentLength

/-- One call for a CGI page: the first bytes of the page are written, whatever the
offset. -/
theorem extHttpSend_cgi (live : (s.mem c).live) (sending : CgiSending (s.mem c).conn page o) :
    let n := (s.session c).io.tcp.taken (page.length - o)
    let s' := (s.extHttpSend c).1
    s'.accepted c = s.accepted c ++ page.take n ∧
      ((s'.mem c).live ↔ o + n < page.length) ∧
      (o + n < page.length → CgiSending (s'.mem c).conn page (o + n)) := by
  intro n s'
  have s'_eq : s' = (s.sendCgi c).1 := by
    simp [s', Server.extHttpSend, Server.touch_of_live s c live, sending.reqType]
  rw [s'_eq]
  have le : n ≤ page.length - o := taken_le _ _
  have within := sending.within
  have small := sending.small
  have offered : sub16 (s.mem c).conn.contentLength (s.mem c).conn.dataSendIndex =
      page.length - o := by
    rw [sending.index, sending.length, sub16_of_le within small]
  have written : (bufRead (s.mem c).conn.data 0 (page.length - o)).take n = page.take n := by
    rw [take_bufRead _ _ le]
    conv_rhs => rw [sending.page_eq, sending.length]
    rw [take_bufRead _ _ (by omega)]
  have rest_eq : ((s.mem c).conn.contentLength : Int) - (s.mem c).conn.dataSendIndex =
      page.length - o := by
    rw [sending.index, sending.length]
  unfold Server.sendCgi
  simp only [Server.touch_of_live s c live, offered, rest_eq]
  set wrote := s.onConn c fun ss =>
    writeSome ss (bufRead ss.mhc.data 0 (page.length - o)) (page.length - o) with wrote_eq
  have taken : wrote.2 = n := by simp [wrote_eq, writeSome, n]
  have accepted : wrote.1.accepted c = s.accepted c ++ page.take n := by
    simp only [wrote_eq, Server.onConn_accepted, writeSome, extHttpWrite_accepted,
      Server.session_mhc, Server.session_accepted]
    rw [← written]
  have conn : (wrote.1.mem c).conn = (s.mem c).conn := by simp [wrote_eq, writeSome]
  have more_iff : (n : Int) < page.length - o ↔ o + n < page.length := by omega
  simp only [taken, more_iff]
  split_ifs with more
  · have index : u16 ((s.mem c).conn.dataSendIndex + n) = o + n := by
      rw [sending.index, u16_of_lt (by omega)]
    refine ⟨by simpa using accepted, by simp [wrote_eq, live, more], fun _ => ?_⟩
    rw [Server.assign_conn, conn, index]
    exact { sending with index := rfl, within := by omega }
  · have plain : (wrote.1.mem c).conn.reqType ≠ .webSocket := by simp [conn, sending.reqType]
    refine ⟨?_, by simp [more], fun more' => absurd more' more⟩
    rw [Server.assign_accepted, Server.extHttpConnEof_accepted_of_plain _ c plain, accepted]

/-- Over any number of calls the pieces that TCP takes are all read from the start of
the page; the connection ends with the one that makes their number complete. -/
theorem sends_cgi (live : (s.mem c).live) (sending : CgiSending (s.mem c).conn page o)
    (tcps : List Tcp) :
    let ps := Lib.pieces Tcp.taken page.length o tcps
    (sends s c tcps).accepted c = s.accepted c ++ ps.flatMap (fun p => page.take p.2) ∧
      (tcps ≠ [] → (((sends s c tcps).mem c).live = false ↔
        o + Lib.pieceTotal ps = page.length)) := by
  induction tcps generalizing s o with
  | nil => simp [sends, Lib.pieces]
  | cons tcp tcps ih =>
      have call := extHttpSend_cgi (s := s.withTcp c tcp) (by simpa using live)
        (by simpa using sending)
      simp only [Server.withTcp_tcp, Server.withTcp_accepted,
        ← Server.sendCall_of_live s c tcp live] at call
      obtain ⟨accepted, live', sending'⟩ := call
      have le := taken_le tcp (page.length - o)
      have within := sending.within
      simp only [sends, Lib.run_cons, Lib.pieces]
      split_ifs with more
      · have rest := ih (live'.mpr more) (sending' more)
        simp only [sends] at rest
        refine ⟨by simp [rest.1, accepted], fun _ => ?_⟩
        rw [Lib.pieceTotal_cons, ← Nat.add_assoc]
        cases tcps with
        | nil => simp [live'.mpr more, Lib.pieces]; omega
        | cons tcp' tcps => exact rest.2 (by simp)
      · have dead : ((s.sendCall c tcp).mem c).live = false := by simpa using mt live'.mp more
        have stays := sends_of_dead dead tcps
        simp only [sends] at stays
        simp only [stays, accepted, dead]
        refine ⟨by simp, fun _ => ?_⟩
        simp only [Lib.pieceTotal_cons, Lib.pieceTotal_nil, true_iff]
        omega

end Cgi

section Upload

variable {s : Server} {c : ConnId} {page : Bytes}

/-- A connection in the upload branch of `extHttpSend`, with `length` bytes of its
result page scheduled. -/
structure UploadSending (mhc : ExtHttpConn) (length : Nat) : Prop where
  reqType : mhc.reqType = .upload
  begun : 1 ≤ mhc.uploadStatus.rank
  index : mhc.updateIndex = 0
  scheduled : mhc.updateLength = length
  small : length < 65536

/-- With nothing scheduled, a call leaves the connection open and sends nothing. -/
theorem extHttpSend_upload_nothing (live : (s.mem c).live)
    (sending : UploadSending (s.mem c).conn 0) :
    let s' := (s.extHttpSend c).1
    s'.accepted c = s.accepted c ∧ (s'.mem c).live ∧ UploadSending (s'.mem c).conn 0 := by
  intro s'
  have s'_eq : s' = s.assign c fun mhc => { mhc with updateLength := 0 } := by
    have offered : sub16 0 0 = 0 := rfl
    simp [s', Server.extHttpSend, Server.touch_of_live s c live, sending.reqType, sending.begun,
      Server.sendUpload, sending.scheduled, sending.index, offered]
  rw [s'_eq]
  refine ⟨by simp, by simpa using live, ?_⟩
  rw [Server.assign_conn]
  exact { sending with scheduled := rfl }

/-- The one write of the result page. What TCP does not take of it is forgotten. -/
theorem extHttpSend_upload (live : (s.mem c).live) (nonempty : 0 < page.length)
    (sending : UploadSending (s.mem c).conn page.length)
    (page_eq : page = bufRead (s.mem c).conn.updateProgress 0 page.length) :
    let n := (s.session c).io.tcp.taken page.length
    let s' := (s.extHttpSend c).1
    s'.accepted c = s.accepted c ++ page.take n ∧
      ((s'.mem c).live ↔ n < page.length) ∧
      (n < page.length → UploadSending (s'.mem c).conn 0) := by
  intro n s'
  have s'_eq : s' = (s.sendUpload c).1 := by
    simp [s', Server.extHttpSend, Server.touch_of_live s c live, sending.reqType, sending.begun]
  rw [s'_eq]
  have offered : sub16 (s.mem c).conn.updateLength (s.mem c).conn.updateIndex = page.length := by
    rw [sending.index, sending.scheduled, sub16_of_le (Nat.zero_le _) sending.small, Nat.sub_zero]
  have rest_eq : ((s.mem c).conn.updateLength : Int) - (s.mem c).conn.updateIndex =
      page.length := by
    rw [sending.index, sending.scheduled]
    simp
  unfold Server.sendUpload
  simp only [Server.touch_of_live s c live, offered, rest_eq, nonempty, if_true]
  set wrote := s.onConn c fun ss =>
    writeSome ss (bufRead ss.mhc.updateProgress 0 page.length) page.length with wrote_eq
  have taken : wrote.2 = n := by simp [wrote_eq, writeSome, n]
  have accepted : wrote.1.accepted c = s.accepted c ++ page.take n := by
    simp only [wrote_eq, Server.onConn_accepted, writeSome, extHttpWrite_accepted,
      Server.session_mhc, Server.session_accepted]
    rw [← page_eq]
  have conn : (wrote.1.mem c).conn = (s.mem c).conn := by simp [wrote_eq, writeSome]
  simp only [taken, Int.ofNat_lt]
  split_ifs with more
  · refine ⟨by simpa using accepted, by simp [wrote_eq, live, more], fun _ => ?_⟩
    rw [Server.assign_conn, conn]
    exact { sending with scheduled := rfl, small := by omega }
  · have plain : (wrote.1.mem c).conn.reqType ≠ .webSocket := by simp [conn, sending.reqType]
    refine ⟨?_, by simp [more], fun more' => absurd more' more⟩
    rw [Server.assign_accepted, Server.extHttpConnEof_accepted_of_plain _ c plain, accepted]

/-- Once the page is forgotten, no number of calls sends or ends anything. -/
theorem sends_upload_nothing (live : (s.mem c).live) (sending : UploadSending (s.mem c).conn 0)
    (tcps : List Tcp) :
    (sends s c tcps).accepted c = s.accepted c ∧ ((sends s c tcps).mem c).live := by
  induction tcps generalizing s with
  | nil => exact ⟨rfl, live⟩
  | cons tcp tcps ih =>
      have call := extHttpSend_upload_nothing (s := s.withTcp c tcp) (by simpa using live)
        (by simpa using sending)
      rw [← Server.sendCall_of_live s c tcp live, Server.withTcp_accepted] at call
      obtain ⟨accepted, live', sending'⟩ := call
      rw [sends, Lib.run_cons, ← accepted]
      exact ih live' sending'

/-- Over any number of calls TCP is offered the result page once. -/
theorem sends_upload (live : (s.mem c).live) (nonempty : 0 < page.length)
    (sending : UploadSending (s.mem c).conn page.length)
    (page_eq : page = bufRead (s.mem c).conn.updateProgress 0 page.length)
    (tcp : Tcp) (tcps : List Tcp) :
    (sends s c (tcp :: tcps)).accepted c = s.accepted c ++ page.take (tcp.taken page.length) ∧
      (((sends s c (tcp :: tcps)).mem c).live ↔ tcp.taken page.length < page.length) := by
  have call := extHttpSend_upload (s := s.withTcp c tcp) (by simpa using live) nonempty
    (by simpa using sending) (by simpa using page_eq)
  simp only [Server.withTcp_tcp, Server.withTcp_accepted,
    ← Server.sendCall_of_live s c tcp live] at call
  obtain ⟨accepted, live', sending'⟩ := call
  by_cases more : tcp.taken page.length < page.length
  · obtain ⟨same, stays⟩ := sends_upload_nothing (live'.mpr more) (sending' more) tcps
    exact ⟨same.trans accepted, iff_of_true stays more⟩
  · have dead : ((s.sendCall c tcp).mem c).live = false := by simpa using mt live'.mp more
    have stays : sends s c (tcp :: tcps) = s.sendCall c tcp := sends_of_dead dead tcps
    rw [stays]
    exact ⟨accepted, live'⟩

end Upload

/-! ### When the code emits the page -/

/-- TCP cuts the page so that the code emits it. For a CGI page each piece repeats the
start of the page; of an upload result page TCP takes nothing after the first call. -/
def CutHarmlessly (reqType : ReqType) (page : Bytes) (tcps : List Tcp) : Prop :=
  match reqType with
  | .cgi => ∀ p ∈ pieces page.length tcps, page.take p.2 = (page.drop p.1).take p.2
  | _ => ∀ p ∈ (pieces page.length tcps).tail, p.2 = 0

instance (reqType : ReqType) (page : Bytes) (tcps : List Tcp) :
    Decidable (CutHarmlessly reqType page tcps) := by
  unfold CutHarmlessly
  split <;> infer_instance

theorem transmitted_le (page : Bytes) (tcps : List Tcp) :
    transmitted page.length tcps ≤ page.length := by
  simpa [transmitted, Lib.transmitted] using
    Lib.pieceTotal_le tcps taken_le (Nat.zero_le page.length)

/-- Emission of a CGI page. -/
theorem cgi_emitted_iff {s : Server} {c : ConnId} {page : Bytes} (live : (s.mem c).live)
    (sending : CgiSending (s.mem c).conn page 0) (tcps : List Tcp) :
    PageEmitted page (s.accepted c) c tcps (sends s c tcps) ↔ CutHarmlessly .cgi page tcps := by
  obtain ⟨accepted, closed⟩ := sends_cgi live sending tcps
  have repeats := Lib.restarted_eq_iff page tcps taken_le (Nat.zero_le page.length)
  rw [List.drop_zero] at repeats
  constructor
  · rintro ⟨bytes, _⟩
    exact repeats.mp (List.append_cancel_left (accepted.symm.trans bytes))
  · intro harmless
    refine ⟨accepted.trans (congrArg _ (repeats.mpr harmless)), ?_⟩
    simpa [transmitted, Lib.transmitted] using closed

/-- Emission of the upload result page. -/
theorem upload_emitted_iff {s : Server} {c : ConnId} {page : Bytes} (live : (s.mem c).live)
    (nonempty : 0 < page.length) (sending : UploadSending (s.mem c).conn page.length)
    (page_eq : page = bufRead (s.mem c).conn.updateProgress 0 page.length) (tcps : List Tcp) :
    PageEmitted page (s.accepted c) c tcps (sends s c tcps) ↔
      CutHarmlessly .upload page tcps := by
  cases tcps with
  | nil =>
      have nothing : PageEmitted page (s.accepted c) c [] (sends s c []) :=
        ⟨by simp [sends, transmitted, Lib.transmitted, Lib.pieces], fun h => absurd rfl h⟩
      simpa [CutHarmlessly, pieces, Lib.pieces] using nothing
  | cons tcp tcps =>
      obtain ⟨accepted, live'⟩ := sends_upload live nonempty sending page_eq tcp tcps
      have le := taken_le tcp page.length
      have total : transmitted page.length (tcp :: tcps) =
          tcp.taken page.length + Lib.pieceTotal (pieces page.length (tcp :: tcps)).tail := by
        simp only [transmitted, Lib.transmitted, pieces, Lib.pieces]
        split_ifs <;> simp
      have complete := transmitted_le page (tcp :: tcps)
      simp only [CutHarmlessly, ← Lib.pieceTotal_eq_zero]
      constructor
      · rintro ⟨bytes, _⟩
        have same := congrArg List.length (List.append_cancel_left (accepted.symm.trans bytes))
        simp only [List.length_take] at same
        omega
      · intro harmless
        rw [harmless, Nat.add_zero] at total
        refine ⟨by rw [total, accepted], fun _ => ?_⟩
        rw [total, ← Bool.not_eq_true, live']
        omega

/-- Over any calls of `extHttpSend` and any answers of TCP, the code emits a dynamic page
as a resuming sender does, exactly when TCP cuts it harmlessly. -/
theorem page_emitted_iff (s : Server) (c : ConnId) (p : PcbId) (mhc : ExtHttpConn) (page : Bytes)
    (tcps : List Tcp) (holds : HoldsPage mhc page) :
    PageEmitted page ((s.withConn c p mhc).accepted c) c tcps (sends (s.withConn c p mhc) c tcps) ↔
      CutHarmlessly mhc.reqType page tcps := by
  have live : ((s.withConn c p mhc).mem c).live := by simp
  cases holds with
  | cgi reqType fresh small eq =>
      have length : mhc.contentLength = page.length := by simp [eq]
      rw [reqType]
      refine cgi_emitted_iff live ?_ tcps
      rw [Server.withConn_mem]
      exact ⟨reqType, fresh, length, length ▸ small, Nat.zero_le _, eq⟩
  | upload reqType begun fresh small nonempty eq =>
      have length : mhc.updateLength = page.length := by simp [eq]
      rw [reqType]
      refine upload_emitted_iff live (length ▸ nonempty) ?_ ?_ tcps
      · rw [Server.withConn_mem]
        exact ⟨reqType, begun, fresh, length, length ▸ small⟩
      · rw [Server.withConn_mem, ← length]
        exact eq

/-- The page `_extHttpWebPageReboot` leaves, and its recorded length. -/
def rebootPage : Bytes × Nat :=
  webPage (str "<DIV class=\"title\"><H2>Reboot</H2></DIV>" ++
    str "<DIV class=\"fields-info\"><DIV class=\"field\"><DIV>Waiting.....</DIV></DIV></DIV>")

/-- A connection that holds the reboot page. -/
def rebootConn : ExtHttpConn :=
  { reqType := .cgi, httpStatusCode := webResRequestOk, data := rebootPage.1
    contentLength := rebootPage.2 }

theorem rebootConn_holdsPage :
    HoldsPage rebootConn (bufRead rebootConn.data 0 rebootConn.contentLength) :=
  .cgi rfl rfl (Nat.mod_lt _ (by decide)) rfl

/-- A send buffer of 100 bytes, and room for the rest at the next call: the second write
starts over at the beginning of the page. -/
theorem reboot_page_resent :
    ¬ ∀ (s : Server) (c : ConnId) (p : PcbId) (mhc : ExtHttpConn) (page : Bytes)
      (tcps : List Tcp), HoldsPage mhc page →
        PageEmitted page ((s.withConn c p mhc).accepted c) c tcps
          (sends (s.withConn c p mhc) c tcps) := by
  intro emitted
  have small : rebootConn.contentLength < 65536 := Nat.mod_lt _ (by decide)
  have sending : CgiSending (((({} : Server).withConn 1 1 rebootConn)).mem 1).conn
      (bufRead rebootConn.data 0 rebootConn.contentLength) 0 := by
    rw [Server.withConn_mem]
    exact ⟨rfl, rfl, (length_bufRead _ _ _).symm, by simpa using small, Nat.zero_le _, by simp⟩
  have harmless := (cgi_emitted_iff (by simp) sending [.roomy 100 1460, .roomy 2920 1460]).mp
    (emitted {} 1 1 rebootConn _ _ rebootConn_holdsPage)
  exact absurd harmless (by decide +kernel)

/-- A result page of three bytes that TCP takes at the first call. -/
theorem page_emitted_result :
    let mhc : ExtHttpConn :=
      { reqType := .upload, uploadStatus := .atEnd, updateProgress := str "end", updateLength := 3 }
    PageEmitted (str "end") ((({} : Server).withConn 1 1 mhc).accepted 1) 1 [.roomy 100 1460]
      (sends (({} : Server).withConn 1 1 mhc) 1 [.roomy 100 1460]) :=
  (page_emitted_iff {} 1 1 _ (str "end") [.roomy 100 1460]
    (.upload rfl (by decide) rfl (by decide) (by decide) (by decide))).mpr (by decide)

end LwipExt.Http
