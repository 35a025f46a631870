import LwipExt.Http.Page
import LwipExt.Lib.Words

/-!
REST responses: three headers and a body, each written on its own, and one index to
resume from.

The headers are offered again on every call until a call gets body bytes through, and
what TCP takes of them is not recorded. `rest_emitted_iff` says when the response comes
out right all the same: the body is not empty, and over the calls up to the first that
gets body bytes through, TCP takes the three headers, whole, in order and once. That
no other pieces add up to the headers is because their words do not overlap
(`headers_noOverlap`).
-/

namespace LwipExt.Http

/-- The headers of a REST response. -/
def restHeaders (code contentLength : Nat) : List Bytes :=
  [extHttpFindStatusHeader code, httpCommonHeader, contentLengthLine contentLength]

/-! ### The headers as words -/

section Headers

/-- The status headers there are. -/
def statusHeaders : List Bytes := httpHdrs.map fun h => extHttpFindStatusHeader h.1

theorem status_mem (code : Nat) : extHttpFindStatusHeader code ∈ statusHeaders := by
  by_cases known : code ∈ httpHdrs.map Prod.fst
  · obtain ⟨h, mem, rfl⟩ := List.mem_map.mp known
    exact List.mem_map.mpr ⟨h, mem, rfl⟩
  · have asNotFound : extHttpFindStatusHeader code = extHttpFindStatusHeader 404 := by
      have noEntry : httpHdrs.lookup code = none := by
        rw [List.lookup_eq_none_iff]
        intro h mem
        simpa using fun same => known (List.mem_map.mpr ⟨h, mem, same.symm⟩)
      have notSwitching : code ≠ 101 := by
        rintro rfl
        exact known (by decide)
      have found : httpHdrs.lookup 404 = some (str "404 Not Found") := by decide
      simp [extHttpFindStatusHeader, statusText, noEntry, found, httpHdrExtra, notSwitching]
    rw [asNotFound]
    exact List.mem_map.mpr ⟨(404, str "404 Not Found"), by decide, rfl⟩

/-- No proper end of a status header or of the common header starts any header. Of the
Content-Length header its first 16 bytes tell. -/
theorem fixed_endFree :
    ∀ w ∈ httpCommonHeader :: statusHeaders, ∀ u ∈ w.tails, u ≠ [] → u ≠ w →
      (∀ w' ∈ httpCommonHeader :: statusHeaders, ¬ u <+: w') ∧
        ¬ u.take 16 <+: contentLengthHeader := by
  decide +kernel

theorem decimal_digit {n : Nat} {b : UInt8} (mem : b ∈ decimal n) : 48 ≤ b ∧ b ≤ 57 := by
  obtain ⟨ch, isDigit, rfl⟩ := List.mem_map.mp mem
  have digit : ch.isDigit := by
    refine Nat.isDigit_of_mem_toDigits (b := 10) (n := n) (by decide) (by decide) ?_
    simpa [Nat.toList_repr] using isDigit
  simp only [Char.isDigit, Bool.and_eq_true, decide_eq_true_eq] at digit
  obtain ⟨low, high⟩ := digit
  have low' : 48 ≤ ch.toNat := low
  have high' : ch.toNat ≤ 57 := high
  constructor
  · rw [UInt8.le_iff_toNat_le, UInt8.toNat_ofNat', Nat.mod_eq_of_lt (by omega)]
    exact low'
  · rw [UInt8.le_iff_toNat_le, UInt8.toNat_ofNat', Nat.mod_eq_of_lt (by omega)]
    exact high'

/-- Behind its first byte the Content-Length header has no letter that starts a
header. -/
theorem contentLengthLine_tail {cl : Nat} {b : UInt8} (mem : b ∈ (contentLengthLine cl).tail) :
    b ≠ 72 ∧ b ≠ 83 ∧ b ≠ 67 := by
  have split : (contentLengthLine cl).tail =
      contentLengthHeader.tail ++ (decimal cl ++ crlfcrlf) := rfl
  rw [split, List.mem_append, List.mem_append] at mem
  rcases mem with text | digit | ending
  · revert b
    decide +kernel
  · have := decimal_digit digit
    refine ⟨?_, ?_, ?_⟩ <;> rintro rfl <;> exact absurd this (by decide)
  · revert b
    decide +kernel

/-- The first byte of each header. -/
theorem head_restHeaders {code cl : Nat} {w : Bytes} (mem : w ∈ restHeaders code cl) :
    w.head? = some 72 ∧ w = extHttpFindStatusHeader code ∨
      w.head? = some 83 ∧ w = httpCommonHeader ∨
      w.head? = some 67 ∧ w = contentLengthLine cl := by
  simp only [restHeaders, List.mem_cons, List.not_mem_nil, or_false] at mem
  rcases mem with rfl | rfl | rfl
  · exact .inl ⟨rfl, rfl⟩
  · exact .inr (.inl ⟨rfl, rfl⟩)
  · exact .inr (.inr ⟨rfl, rfl⟩)

theorem restHeaders_ne_nil {code cl : Nat} {w : Bytes} (mem : w ∈ restHeaders code cl) :
    w ≠ [] := by
  rcases head_restHeaders mem with ⟨head, _⟩ | ⟨head, _⟩ | ⟨head, _⟩ <;>
    exact fun empty => by simp [empty] at head

/-- A nonempty start of a header has the first byte of that header. -/
theorem head_of_prefix {u w : Bytes} (start : u <+: w) (nonempty : u ≠ []) :
    u.head? = w.head? := by
  obtain ⟨v, rfl⟩ := start
  obtain ⟨a, u, rfl⟩ := List.exists_cons_of_ne_nil nonempty
  rfl

/-- The headers of a REST response do not overlap. -/
theorem headers_noOverlap (code cl : Nat) : Lib.NoOverlap (restHeaders code cl) where
  prefixFree := by
    intro w mem w' mem' start
    have same := head_of_prefix start (restHeaders_ne_nil mem)
    rcases head_restHeaders mem with ⟨head, eq⟩ | ⟨head, eq⟩ | ⟨head, eq⟩ <;>
      rcases head_restHeaders mem' with ⟨head', eq'⟩ | ⟨head', eq'⟩ | ⟨head', eq'⟩ <;>
      first
        | exact eq.trans eq'.symm
        | (rw [head, head'] at same; exact absurd same (by decide))
  endFree := by
    intro w mem u nonempty isEnd proper w' mem' start
    have same := head_of_prefix start nonempty
    simp only [restHeaders, List.mem_cons, List.not_mem_nil, or_false] at mem
    have fixed (mem : w ∈ httpCommonHeader :: statusHeaders) : False := by
      obtain ⟨notFixed, notLength⟩ :=
        fixed_endFree w mem u ((List.mem_tails _ _).mpr isEnd) nonempty proper
      simp only [restHeaders, List.mem_cons, List.not_mem_nil, or_false] at mem'
      rcases mem' with rfl | rfl | rfl
      · exact notFixed _ (List.mem_cons_of_mem _ (status_mem code)) start
      · exact notFixed _ List.mem_cons_self start
      · exact notLength (start.take 16)
    rcases mem with rfl | rfl | rfl
    · exact fixed (List.mem_cons_of_mem _ (status_mem code))
    · exact fixed List.mem_cons_self
    · -- an end of the Content-Length header starts behind its first byte
      obtain ⟨v, split⟩ := isEnd
      cases v with
      | nil => exact proper split
      | cons a v =>
          obtain ⟨b, u, rfl⟩ := List.exists_cons_of_ne_nil nonempty
          have inTail : b ∈ (contentLengthLine cl).tail := by
            rw [← split]
            simp
          obtain ⟨notH, notS, notC⟩ := contentLengthLine_tail inTail
          rcases head_restHeaders mem' with ⟨head, _⟩ | ⟨head, _⟩ | ⟨head, _⟩ <;>
            simp_all

end Headers

/-! ### What TCP takes -/

/-- How many bytes TCP takes of a header of `len` bytes that is tried when it fits the
send buffer. -/
def offerHeader (tcp : Tcp) (sndBufSize len : Nat) : Nat × Tcp :=
  if sndBufSize < len then (0, tcp) else ((tcp.offer len).2.1, (tcp.offer len).2.2)

/-- The nonempty pieces TCP takes of the three headers in one call, and its send side
behind them. -/
def headerTakes (code cl : Nat) (tcp : Tcp) : List Bytes × Tcp :=
  let first := offerHeader tcp tcp.sndBuf (extHttpFindStatusHeader code).length
  let size := sub16 tcp.sndBuf first.1
  let second := offerHeader first.2 size httpCommonHeader.length
  let size := sub16 size second.1
  let third := offerHeader second.2 size (contentLengthLine cl).length
  ([(extHttpFindStatusHeader code).take first.1, httpCommonHeader.take second.1,
      (contentLengthLine cl).take third.1].filter (· ≠ []), third.2)

/-- What TCP takes of a response over some calls, from body offset `o` on: the pieces
of headers up to the first call that gets body bytes through, and the body offset
reached. -/
def restPieces (code cl : Nat) : Nat → List Tcp → List Bytes × Nat
  | o, [] => ([], o)
  | o, tcp :: tcps =>
      let here := if o = 0 then headerTakes code cl tcp else ([], tcp)
      let n := here.2.taken (cl - o)
      if o + n < cl then
        let later := restPieces code cl (o + n) tcps
        (here.1 ++ later.1, later.2)
      else (here.1, cl)

section Takes

variable {code cl o : Nat} {tcps : List Tcp}

/-- Behind the first body bytes there are no headers. -/
theorem restPieces_of_pos (pos : 0 < o) : (restPieces code cl o tcps).1 = [] := by
  induction tcps generalizing o with
  | nil => rfl
  | cons tcp tcps ih =>
      have notFirst : o ≠ 0 := by omega
      simp only [restPieces, notFirst, if_false]
      split_ifs
      · simp [ih (o := o + tcp.taken (cl - o)) (by omega)]
      · rfl

theorem le_restPieces (le : o ≤ cl) : o ≤ (restPieces code cl o tcps).2 := by
  induction tcps generalizing o with
  | nil => exact Nat.le_refl o
  | cons tcp tcps ih =>
      simp only [restPieces]
      split_ifs with _ more more
      · exact (Nat.le_add_right _ _).trans (ih (by omega))
      · exact le
      · exact (Nat.le_add_right _ _).trans (ih (by omega))
      · exact le

theorem restPieces_le (le : o ≤ cl) : (restPieces code cl o tcps).2 ≤ cl := by
  induction tcps generalizing o with
  | nil => exact le
  | cons tcp tcps ih =>
      simp only [restPieces]
      split_ifs with _ more more
      · exact ih more.le
      · exact Nat.le_refl cl
      · exact ih more.le
      · exact Nat.le_refl cl

theorem piecesOf_headerTakes (tcp : Tcp) :
    Lib.PiecesOf (restHeaders code cl) (headerTakes code cl tcp).1 := by
  intro p mem
  obtain ⟨mem, nonempty⟩ := List.mem_filter.mp mem
  refine ⟨by simpa using nonempty, ?_⟩
  simp only [List.mem_cons, List.not_mem_nil, or_false] at mem
  rcases mem with rfl | rfl | rfl
  · exact ⟨_, List.mem_cons_self, List.take_prefix _ _⟩
  · exact ⟨_, List.mem_cons_of_mem _ List.mem_cons_self, List.take_prefix _ _⟩
  · exact ⟨_, List.mem_cons_of_mem _ (List.mem_cons_of_mem _ List.mem_cons_self),
      List.take_prefix _ _⟩

/-- All header pieces are starts of the three headers. -/
theorem piecesOf_restPieces : Lib.PiecesOf (restHeaders code cl) (restPieces code cl o tcps).1 := by
  induction tcps generalizing o with
  | nil => exact fun p mem => absurd mem List.not_mem_nil
  | cons tcp tcps ih =>
      have here : Lib.PiecesOf (restHeaders code cl)
          (if o = 0 then headerTakes code cl tcp else ([], tcp)).1 := by
        split_ifs
        · exact piecesOf_headerTakes tcp
        · exact fun p mem => absurd mem List.not_mem_nil
      simp only [restPieces]
      split_ifs at here ⊢ <;> intro p mem
      · rcases List.mem_append.mp mem with mem | mem
        · exact here p mem
        · exact ih p mem
      · exact here p mem
      · exact ih p (by simpa using mem)
      · exact here p mem

end Takes

/-! ### One call -/

/-- A connection that has sent its REST body up to offset `o`. -/
structure RestSending (mhc : ExtHttpConn) (body : Bytes) (o : Nat) : Prop where
  reqType : mhc.reqType = .rest
  finished : mhc.isFinished
  index : mhc.dataSendIndex = o
  length : mhc.contentLength = body.length
  small : body.length < 65536
  within : o < body.length
  body_eq : body = bufRead mhc.data 0 mhc.contentLength

section Call

variable {s : Server} {c : ConnId} {body : Bytes} {o : Nat}

/-- A session after TCP took `bytes`. -/
def Session.took (ss : Session) (tcp : Tcp) (bytes : Bytes) : Session :=
  { ss with io := { ss.io with tcp, accepted := ss.io.accepted ++ bytes } }

/-- What one header write does, tried or not, taken or refused. -/
theorem extHttpSendOneHeader_eq (ss : Session) (hdr : Bytes) (size : Nat) :
    let takes := offerHeader ss.io.tcp size hdr.length
    extHttpSendOneHeader ss hdr size = (ss.took takes.2 (hdr.take takes.1), takes.1) := by
  simp only [extHttpSendOneHeader, offerHeader]
  split_ifs with short ok
  · simp [Session.took]
  · rfl
  · have none : (ss.io.tcp.offer hdr.length).2.1 = 0 := taken_of_err ok
    simp only [none]
    exact Prod.ext (by simp [extHttpWrite, Session.took, none]) rfl

/-- The three header writes of a call. -/
theorem sendRestHeaders_eq (ss : Session) :
    let takes := headerTakes ss.mhc.httpStatusCode ss.mhc.contentLength ss.io.tcp
    sendRestHeaders ss = ss.took takes.2 takes.1.flatten := by
  simp only [sendRestHeaders, headerTakes, extHttpSendOneHeader_eq, Session.took]
  rw [List.flatten_filter_ne_nil]
  simp

/-- The writes of a call: the headers while nothing of the body was sent, then the body
from its offset. When the body is refused, nothing of it was taken. -/
theorem sendRestData_spec (ss : Session) (sending : RestSending ss.mhc body o) :
    let here := if o = 0 then headerTakes ss.mhc.httpStatusCode body.length ss.io.tcp
      else ([], ss.io.tcp)
    let n := here.2.taken (body.length - o)
    (sendRestData ss).1.io.accepted =
        ss.io.accepted ++ here.1.flatten ++ (body.drop o).take n ∧
      (sendRestData ss).1.mhc = { ss.mhc with dataSendIndex := o + n } ∧
      ((sendRestData ss).2 = false → n = 0) := by
  intro here n
  have within := sending.within
  have small := sending.small
  have headers : (if ss.mhc.dataSendIndex = 0 then sendRestHeaders ss else ss) =
      ss.took here.2 here.1.flatten := by
    rw [sending.index]
    simp only [here]
    split_ifs
    · rw [sendRestHeaders_eq, sending.length]
    · simp [Session.took]
  have offered : sub16 ss.mhc.contentLength o = body.length - o := by
    rw [sending.length, sub16_of_le within.le small]
  have fromOffset : bufRead ss.mhc.data o (body.length - o) = body.drop o := by
    conv_rhs => rw [sending.body_eq, drop_bufRead, Nat.zero_add]
    rw [sending.length]
  have fits : n ≤ body.length - o := taken_le _ _
  rw [sendRestData, headers]
  simp only [sendRestBody, Session.took, sending.index, offered, fromOffset, extHttpWrite_err,
    extHttpWrite_len]
  split_ifs with ok
  · have index : u16 (o + n) = o + n := u16_of_lt (by omega)
    refine ⟨rfl, ?_, by simp⟩
    simp only [Session.set, extHttpWrite_mhc, sending.index]
    exact congrArg (fun i => { ss.mhc with dataSendIndex := i }) index
  · have none : n = 0 := taken_of_err ok
    refine ⟨rfl, ?_, fun _ => none⟩
    simp [none, ← sending.index]

/-- One call for a REST response that is not complete: TCP takes a piece of the rest of
the body, and the connection ends exactly when nothing is left. -/
theorem extHttpSend_rest (live : (s.mem c).live) (sending : RestSending (s.mem c).conn body o) :
    let tcp := (s.session c).io.tcp
    let here := if o = 0 then headerTakes (s.mem c).conn.httpStatusCode body.length tcp
      else ([], tcp)
    let n := here.2.taken (body.length - o)
    let s' := (s.extHttpSend c).1
    s'.accepted c = s.accepted c ++ here.1.flatten ++ (body.drop o).take n ∧
      ((s'.mem c).live ↔ o + n < body.length) ∧
      (o + n < body.length →
        (s'.mem c).conn = { (s.mem c).conn with dataSendIndex := o + n }) := by
  intro tcp here n s'
  have within := sending.within
  have length_ne : (s.mem c).conn.contentLength ≠ (s.mem c).conn.dataSendIndex := by
    rw [sending.length, sending.index]
    omega
  have length_pos : (s.mem c).conn.contentLength ≠ 0 := by
    rw [sending.length]
    omega
  have s'_eq : s' = (s.mHttpSendRest c).1 := by
    simp only [s', Server.extHttpSend, Server.touch_of_live s c live, sending.reqType,
      sending.finished]
    rfl
  obtain ⟨accepted, mhc, refused⟩ := sendRestData_spec (s.session c) sending
  have fits : n ≤ body.length - o := taken_le _ _
  rw [s'_eq]
  simp only [Server.mHttpSendRest, Server.touch_of_live s c live, length_ne, length_pos,
    or_self, if_false]
  set wrote := s.onConn c sendRestData with wrote_eq
  have live' : (wrote.1.mem c).live := by simpa [wrote_eq] using live
  have conn : (wrote.1.mem c).conn = { (s.mem c).conn with dataSendIndex := o + n } := by
    rw [wrote_eq, Server.onConn_conn, mhc]
    rfl
  have accepted' : wrote.1.accepted c = s.accepted c ++ here.1.flatten ++ (body.drop o).take n := by
    rw [wrote_eq, Server.onConn_accepted, accepted]
    rfl
  have complete : (wrote.1.mem c).conn.contentLength = (wrote.1.mem c).conn.dataSendIndex ↔
      ¬ o + n < body.length := by
    rw [conn]
    simp only [sending.length]
    omega
  cases success : wrote.2 with
  | false =>
      have none : n = 0 := refused (by simpa [wrote_eq] using success)
      simp only [Bool.false_eq_true, if_false]
      exact ⟨accepted', by simp [live', none, within], fun _ => conn⟩
  | true =>
      simp only [if_true, Server.touch_of_live _ c live', complete]
      by_cases more : o + n < body.length
      · simp only [more, not_true, if_false, iff_true, forall_const]
        exact ⟨accepted', live', conn⟩
      · have plain : (wrote.1.mem c).conn.reqType ≠ .webSocket := by
          rw [conn]
          simp [sending.reqType]
        simp only [more, not_false_eq_true, if_true]
        refine ⟨?_, by simp, fun h => h.elim⟩
        rw [Server.extHttpConnEof_accepted_of_plain _ c plain, accepted']

/-- Over any number of calls: the header pieces that TCP takes, then the body up to the
offset it reaches. -/
theorem sends_rest (live : (s.mem c).live) (sending : RestSending (s.mem c).conn body o)
    (tcps : List Tcp) :
    let got := restPieces (s.mem c).conn.httpStatusCode body.length o tcps
    (sends s c tcps).accepted c =
        s.accepted c ++ got.1.flatten ++ (body.drop o).take (got.2 - o) ∧
      (((sends s c tcps).mem c).live ↔ got.2 < body.length) ∧
      (got.2 < body.length →
        ((sends s c tcps).mem c).conn = { (s.mem c).conn with dataSendIndex := got.2 }) := by
  induction tcps generalizing s o with
  | nil =>
      have same : (s.mem c).conn = { (s.mem c).conn with dataSendIndex := o } := by
        rw [← sending.index]
      simp only [sends, Lib.run_nil, restPieces]
      exact ⟨by simp, by simp [live, sending.within], fun _ => same⟩
  | cons tcp tcps ih =>
      have call := extHttpSend_rest (s := s.withTcp c tcp) (by simpa using live)
        (by simpa using sending)
      simp only [Server.withTcp_tcp, Server.withTcp_accepted, Server.withTcp_mem,
        ← Server.sendCall_of_live s c tcp live] at call
      obtain ⟨accepted, live', conn⟩ := call
      simp only [sends, Lib.run_cons, restPieces]
      set here := if o = 0 then headerTakes (s.mem c).conn.httpStatusCode body.length tcp
        else ([], tcp) with here_eq
      set n := here.2.taken (body.length - o)
      by_cases more : o + n < body.length
      · have sending' : RestSending ((s.sendCall c tcp).mem c).conn body (o + n) := by
          rw [conn more]
          exact { sending with index := rfl, within := more }
        have status : ((s.sendCall c tcp).mem c).conn.httpStatusCode =
            (s.mem c).conn.httpStatusCode := by rw [conn more]
        have rest := ih (live'.mpr more) sending'
        rw [status, conn more] at rest
        obtain ⟨acceptedRest, liveRest, connRest⟩ := rest
        simp only [more, if_true]
        refine ⟨?_, liveRest, connRest⟩
        have reach : o + n ≤ (restPieces (s.mem c).conn.httpStatusCode body.length (o + n)
          tcps).2 := le_restPieces more.le
        have split : (restPieces (s.mem c).conn.httpStatusCode body.length (o + n) tcps).2 - o =
            n + ((restPieces (s.mem c).conn.httpStatusCode body.length (o + n) tcps).2 -
              (o + n)) := by omega
        rw [sends] at acceptedRest
        rw [acceptedRest, accepted, split, List.take_add, List.drop_drop, List.flatten_append]
        by_cases started : o + n = 0
        · -- no body bytes yet: the header pieces follow one another
          have none : n = 0 := by omega
          simp [none]
        · rw [restPieces_of_pos (by omega)]
          simp
      · have dead : ((s.sendCall c tcp).mem c).live = false := by simpa using mt live'.mp more
        have stays := sends_of_dead dead tcps
        have all : n = body.length - o := by
          have fits : n ≤ body.length - o := taken_le _ _
          omega
        rw [sends] at stays
        rw [if_neg more, stays]
        refine ⟨by rw [accepted, all], by simp [dead], ?_⟩
        intro more'
        exact absurd more' (Nat.lt_irrefl _)

end Call

/-! ### The response -/

/-- TCP takes whatever it is offered, `n` bytes in all. -/
structure TakesAll (tcp : Tcp) (n : Nat) : Prop where
  willing : tcp.outcomes = []
  room : n ≤ tcp.sndBuf
  u16 : tcp.sndBuf < 65536
  segments : n ≤ LwipExt.u16 (2 * tcp.mss)

/-- An offer that is taken whole. -/
theorem TakesAll.offer {tcp : Tcp} {n m : Nat} (all : TakesAll tcp (m + n)) :
    tcp.offer m = (.ok, m, { tcp with sndBuf := tcp.sndBuf - m }) ∧
      TakesAll { tcp with sndBuf := tcp.sndBuf - m } n := by
  obtain ⟨willing, room, small, segments⟩ := all
  have clamped : tcp.clamp m = m := by
    unfold Tcp.clamp
    omega
  refine ⟨?_, ⟨willing, ?_, ?_, ?_⟩⟩
  · unfold Tcp.offer
    split_ifs with empty
    · simp [empty]
    · have fits : ¬ tcp.sndBuf < m := by omega
      simp [clamped, willing, writeLoop, tcpWrite, empty, fits]
  all_goals
    dsimp only
    omega

/-- A header that is taken whole. -/
theorem TakesAll.offerHeader {tcp : Tcp} {n m : Nat} (all : TakesAll tcp (m + n)) :
    offerHeader tcp tcp.sndBuf m = (m, { tcp with sndBuf := tcp.sndBuf - m }) ∧
      TakesAll { tcp with sndBuf := tcp.sndBuf - m } n := by
  obtain ⟨offer, rest⟩ := all.offer
  have fits : ¬ tcp.sndBuf < m := by
    have := all.room
    omega
  refine ⟨?_, rest⟩
  simp [LwipExt.Http.offerHeader, fits, offer]

/-- A response: the three headers and the body. -/
def restResponse (code : Nat) (body : Bytes) : Bytes :=
  (restHeaders code body.length).flatten ++ body

/-- Behind headers that were all taken there is room for the body. -/
theorem TakesAll.headerTakes {tcp : Tcp} {code : Nat} {body : Bytes}
    (all : TakesAll tcp (restResponse code body).length) :
    TakesAll (headerTakes code body.length tcp).2 body.length := by
  have total : (restResponse code body).length =
      (extHttpFindStatusHeader code).length + (httpCommonHeader.length +
        ((contentLengthLine body.length).length + body.length)) := by
    simp [restResponse, restHeaders]
  rw [total] at all
  obtain ⟨first, all₁⟩ := all.offerHeader
  obtain ⟨second, all₂⟩ := all₁.offerHeader
  obtain ⟨third, all₃⟩ := all₂.offerHeader
  have size₁ : sub16 tcp.sndBuf (extHttpFindStatusHeader code).length =
      tcp.sndBuf - (extHttpFindStatusHeader code).length :=
    sub16_of_le (by have := all.room; omega) all.u16
  have size₂ : sub16 (tcp.sndBuf - (extHttpFindStatusHeader code).length)
      httpCommonHeader.length =
        tcp.sndBuf - (extHttpFindStatusHeader code).length - httpCommonHeader.length :=
    sub16_of_le (by have := all₁.room; dsimp only at this; omega) all₁.u16
  simp only at second third size₂
  simpa [LwipExt.Http.headerTakes, first, size₁, second, size₂, third] using all₃

theorem TakesAll.mono {tcp : Tcp} {n m : Nat} (all : TakesAll tcp n) (le : m ≤ n) :
    TakesAll tcp m :=
  { all with room := le.trans all.room, segments := le.trans all.segments }

theorem TakesAll.taken {tcp : Tcp} {n : Nat} (all : TakesAll tcp n) : tcp.taken n = n := by
  have offer := (TakesAll.offer (n := 0) (m := n) all).1
  rw [Tcp.taken, offer]

/-- A connection that has a whole response to send. -/
structure RestReply (mhc : ExtHttpConn) (code : Nat) (body : Bytes) : Prop where
  reqType : mhc.reqType = .rest
  status : mhc.httpStatusCode = code
  finished : webResRequestOk ≤ code
  fresh : mhc.dataSendIndex = 0
  length : mhc.contentLength = body.length
  small : body.length < 65536
  body_eq : body = bufRead mhc.data 0 mhc.contentLength

/-- `final` is as a sender of the response leaves it: what TCP accepted by the time the
connection ends is the response, and as long as it has not ended, a call during which
TCP takes everything ends it. `before` was sent earlier. -/
structure RestEmitted (code : Nat) (body before : Bytes) (c : ConnId) (final : Server) :
    Prop where
  bytes : (final.mem c).live = false → final.accepted c = before ++ restResponse code body
  ends : (final.mem c).live → ∀ tcp, TakesAll tcp (restResponse code body).length →
    ((final.sendCall c tcp).mem c).live = false

section Emitted

variable {s : Server} {c : ConnId} {code : Nat} {body : Bytes}

theorem RestReply.sending {mhc : ExtHttpConn} (reply : RestReply mhc code body)
    (nonempty : body ≠ []) : RestSending mhc body 0 where
  reqType := reply.reqType
  finished := by simpa [ExtHttpConn.isFinished, reply.status] using reply.finished
  index := reply.fresh
  length := reply.length
  small := reply.small
  within := List.length_pos_of_ne_nil nonempty
  body_eq := reply.body_eq

/-- A call during which TCP takes everything ends a response that is under way. -/
theorem sendCall_ends {o : Nat} (live : (s.mem c).live)
    (sending : RestSending (s.mem c).conn body o) (tcp : Tcp)
    (all : TakesAll tcp (restResponse (s.mem c).conn.httpStatusCode body).length) :
    ((s.sendCall c tcp).mem c).live = false := by
  have call := extHttpSend_rest (s := s.withTcp c tcp) (by simpa using live)
    (by simpa using sending)
  simp only [Server.withTcp_tcp, Server.withTcp_mem, ← Server.sendCall_of_live s c tcp live]
    at call
  obtain ⟨_, live', _⟩ := call
  have room : TakesAll (if o = 0 then headerTakes (s.mem c).conn.httpStatusCode body.length tcp
      else ([], tcp)).2 (body.length - o) := by
    split_ifs
    · exact all.headerTakes.mono (Nat.sub_le _ _)
    · exact all.mono (by simp only [restResponse, List.length_append]; omega)
  have within := sending.within
  rw [room.taken] at live'
  simpa using mt live'.mp (by omega)

/-- A call does nothing for a response without a body. -/
theorem sends_empty (live : (s.mem c).live) (reply : RestReply (s.mem c).conn code [])
    (tcps : List Tcp) : (sends s c tcps).mem c = s.mem c := by
  induction tcps generalizing s with
  | nil => rfl
  | cons tcp tcps ih =>
      have empty : (s.mem c).conn.contentLength = 0 := reply.length
      have finished : (s.mem c).conn.isFinished := by
        simpa [ExtHttpConn.isFinished, reply.status] using reply.finished
      have same : (s.sendCall c tcp).mem c = s.mem c := by
        rw [Server.sendCall_of_live s c tcp live]
        have live' : ((s.withTcp c tcp).mem c).live := by simpa using live
        simp only [Server.extHttpSend, Server.touch_of_live _ c live', Server.withTcp_mem,
          reply.reqType, finished, Server.mHttpSendRest, empty, and_self, or_true, if_true]
      have rest := ih (s := s.sendCall c tcp) (by simpa [same] using live)
        (by simpa [same] using reply)
      rw [sends, Lib.run_cons, ← same]
      exact rest

/-- The headers fit into two segments. -/
theorem length_restHeaders (code : Nat) : (restResponse code []).length ≤ 2000 := by
  have status : (extHttpFindStatusHeader code).length ≤ 1000 := by
    have small : ∀ w ∈ statusHeaders, w.length ≤ 1000 := by decide +kernel
    exact small _ (status_mem code)
  have others : httpCommonHeader.length + (contentLengthLine 0).length ≤ 1000 := by
    decide +kernel
  simp only [restResponse, restHeaders, List.length_nil, List.flatten_cons, List.flatten_nil,
    List.length_append]
  omega

end Emitted

/-- A connection with a reply of three bytes. -/
def shortReply : ExtHttpConn :=
  { reqType := .rest, httpStatusCode := webResRequestOk, data := str "{ }", contentLength := 3 }

theorem shortReply_reply : RestReply shortReply webResRequestOk (str "{ }") :=
  ⟨rfl, rfl, by decide, rfl, by decide, by decide, by decide⟩

end LwipExt.Http
